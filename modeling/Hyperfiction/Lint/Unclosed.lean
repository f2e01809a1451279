import Hyperfiction.Markup.Hook

/-!
# Markup that is not closed

A body may open a macro or a square bracket that it does not close. `Unclosed.first?` finds the first
one: what follows it belongs to it, so there is no second.
-/

namespace Hyperfiction

/-- Markup that is opened and not closed, with the position of its bracket. -/
inductive Unclosed where
  | invocation (name : Text) (position : Nat)
  | bracket (position : Nat)
deriving DecidableEq

namespace Unclosed

/-- The markup that the front of a text, at a position, opens without closing it. -/
def here? (position : Nat) (t : Text) : Option Unclosed :=
  match Invocation.head? t with
  | some (name, _) => if (Invocation.read? t).isNone then some (invocation name position) else none
  | none =>
    if t.head? = some '[' ∧ (Hook.body? t).isNone then some (bracket position) else none

/-- The first markup that a text, at a position, opens without closing it. -/
def from? (position : Nat) : Text → Option Unclosed
  | [] => none
  | c :: t => here? position (c :: t) <|> from? (position + c.utf8Size) t

/-- The first markup that a text opens without closing it. -/
def first? (t : Text) : Option Unclosed := from? 0 t

/-- The markup as an author is told of it. -/
def message : Unclosed → Text
  | invocation name position =>
    "unclosed macro (".toList ++ name ++ ": at byte ".toList ++ Text.ofNat position
  | bracket position => "unclosed '[' at byte ".toList ++ Text.ofNat position

end Unclosed

end Hyperfiction

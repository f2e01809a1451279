import Hyperfiction.Markup.Chain
import Hyperfiction.Markup.Sweep

/-!
# Markup at a position of a text

The readers of markup work on suffixes; here they are asked about positions, and answer with spans. A
position inside a character or past the end begins nothing, and a search from inside a character starts
behind it.
-/

namespace Hyperfiction

/-- Something read from a text, with the span it has there. -/
structure Located (α : Type) where
  item : α
  span : Span

/-- The span of the hook of a guard that begins at a position. -/
def Guard.hookSpan (g : Guard) (start : Nat) : Span :=
  ⟨start + Text.width g.call.source + Text.width g.hook.gap, start + Text.width g.source⟩

namespace Position

/-- The end of the bracket that a token opens at a position. The token begins with an opener, which its
other characters do not close. -/
def closing? (t : Text) (start : Nat) (token : Text) : Option Nat := do
  let rest ← Text.dropTo? t start
  let behind ← Text.after? rest token
  let bracket ← token.head?.bind Bracket.ofOpener?
  let (inner, _) ← bracket.closing? 0 behind
  return start + Text.width token + Text.width inner + 1

/-- The body of the hook at a position, without gap. -/
def hook? (t : Text) (start : Nat) : Option (Located Text) := do
  let rest ← Text.dropTo? t start
  let (body, _) ← Hook.body? rest
  return ⟨body, ⟨start, start + Text.width body + 2⟩⟩

/-- The name of the macro head at a position, and the position behind its colon. -/
def head? (t : Text) (start : Nat) : Option (Text × Nat) := do
  let rest ← Text.dropTo? t start
  let (name, _) ← Invocation.head? rest
  return (name, start + Text.width name + 2)

/-- The macro at a position. -/
def macro? (t : Text) (start : Nat) : Option (Located Invocation) := do
  let rest ← Text.dropTo? t start
  let (m, _) ← Invocation.read? rest
  return ⟨m, ⟨start, start + Text.width m.source⟩⟩

/-- The position of the first head of one of the macros, from a position on. -/
def findHead? (t : Text) (start : Nat) (names : List Text) : Option Nat := do
  let rest := Text.dropPast t start
  let (before, _) ← Invocation.findHead? (names.map fun n => n.map Char.toLower) rest
  return Text.width t - Text.width rest + Text.width before

/-- The first macro of some names, from a position on; a head that is not completed ends the search. -/
def findMacro? (t : Text) (start : Nat) (names : List Text) : Option (Located Invocation) := do
  macro? t (← findHead? t start names)

/-- The depth of square brackets at a position, counted from the start of the text. -/
def bracketDepth (t : Text) (position : Nat) : Nat :=
  Bracket.square.depthAfter 0 (Text.takePast t position)

/-- The first position from a position on that is not in a gap. -/
def skipGap (t : Text) (start : Nat) : Nat :=
  match Text.dropTo? t start with
  | some rest => start + Text.width (rest.takeWhile Text.isGap)
  | none => start

/-- The chain at a position. -/
def chain? (t : Text) (start : Nat) : Option (Located Chain) := do
  let rest ← Text.dropTo? t start
  let (c, _) ← Chain.read? rest
  return ⟨c, ⟨start, start + Text.width c.source⟩⟩

/-- The guard at a position. -/
def guard? (t : Text) (start : Nat) : Option (Located Guard) := do
  let rest ← Text.dropTo? t start
  let (g, _) ← Guard.read? rest
  return ⟨g, ⟨start, start + Text.width g.source⟩⟩

end Position

end Hyperfiction

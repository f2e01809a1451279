import Hyperfiction.Assignment.Basic
import Hyperfiction.Eval.Expr
import Hyperfiction.Expr.Parser

/-!
# Reading assignments

A `(set:)` holds assignments `$name to value` behind commas. A comma that no `$name to` follows belongs
to the value, and so does all that stands in parentheses. The tokens of a value say what it is; what has
no form of its own is a text: the value as written, without its quotes.
-/

namespace Hyperfiction

/-- Where an expression reads an old value. -/
def Source.ofExpr? : Expr → Option Source
  | .var name => some (.var name)
  | .it => some .it
  | _ => none

namespace RightSide

/-- A text without quotes. -/
def unquoted (t : Text) : Text := t.filter fun c => c != '"' && c != '\''

/-- The right side that is an expression of a form of its own. -/
def ofExpr? : Expr → Option RightSide
  | .binary op left right =>
    match Source.ofExpr? left, right with
    | some source, .number x => some (.arithmetic source op (.number x))
    | some source, .var name => some (.arithmetic source op (.var name))
    | some source, .call name args =>
      if op = .add then
        match Callee.ofName? name with
        | some .list => some (.append source args)
        | some .map => some (.merge source args)
        | _ => none
      else none
    | _, _ => none
  | .call name args =>
    match Callee.ofName? name, args with
    | some .list, args => some (.list args)
    | some .map, _ => some .emptyMap
    | some .random, [lo, hi] => some (.random lo hi)
    | _, _ => none
  | .number x => some (.number x)
  | .boolean b => some (.boolean b)
  | .var name => some (.copy name)
  | _ => none

/-- The right side that tokens make. -/
def ofTokens (ks : List Token) : RightSide :=
  ((Expr.ofTokens? ks).bind ofExpr?).getD (.text (unquoted (Text.trim (Token.covered ks))))

end RightSide

namespace Assignment

/-- The name that an assignment at the front of tokens is to, and what follows its `to`. -/
def target? : List Token → Option (Text × List Token)
  | ⟨_, .var name, _⟩ :: ⟨_, .to, _⟩ :: ks => some (name, ks)
  | _ => none

/-- Is the token a comma? -/
def isComma : Token.Kind → Bool
  | .comma => true
  | _ => false

theorem length_lt_of_target? {ks rest : List Token} {name : Text}
    (h : target? ks = some (name, rest)) : rest.length < ks.length := by
  unfold target? at h
  split at h
  · simp only [Option.some.injEq, Prod.mk.injEq] at h
    obtain ⟨-, rfl⟩ := h
    simp only [List.length_cons]
    omega
  · simp at h

/-- The tokens of a value up to the next assignment, and the assignments from there on, each as its
target with the tokens of its value. -/
def segments (depth : Int) (ks : List Token) : List Token × List (Text × List Token) :=
  match ks with
  | [] => ([], [])
  | k :: ks =>
    match h : (if depth = 0 ∧ isComma k.kind then target? ks else none) with
    | some (name, rest) =>
      have : rest.length < ks.length := by
        split at h
        · exact length_lt_of_target? h
        · simp at h
      let next := segments depth rest
      ([], (name, next.1) :: next.2)
    | none =>
      let next := segments (depth + k.kind.nesting) ks
      (k :: next.1, next.2)
termination_by ks.length
decreasing_by all_goals (simp only [List.length_cons]; omega)

/-- The assignments that tokens make; a target without a value is left out. -/
def ofTokens (ks : List Token) : List Assignment :=
  match target? ks with
  | none => []
  | some (name, rest) =>
    let found := segments 0 rest
    ((name, found.1) :: found.2).filterMap fun s =>
      if s.2.isEmpty then none else some ⟨s.1, RightSide.ofTokens s.2⟩

/-- The assignments that a text writes. -/
def ofText (t : Text) : List Assignment := ofTokens (Token.read t)

end Assignment

end Hyperfiction

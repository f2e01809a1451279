import Hyperfiction.Eval.Expr
import Hyperfiction.Expr.Parser
import Hyperfiction.Markup.Sweep

/-!
# Prints and inline variables

A `(print:)` writes the value of its argument, a bare `(random:)` or `(either:)` its own value; without
value, or with a comparison inside, nothing is written. What is written is not searched again
(`resolvePrints`). Inline `$name` writes the value of a variable, and itself where there is none.
-/

namespace Hyperfiction

/-- The text that an argument of a print writes. -/
def printText (w : Setting) (args : Text) : Act Text := do
  if Token.hasComparison args then return []
  match Expr.ofText? args with
  | none => return []
  | some e =>
    let v ← e.evaluate w
    return (v.map Value.toText).getD []

/-- The text that a printing macro writes. -/
def printMacro (w : Setting) (m : Invocation) : Act Text :=
  if Invocation.isNamed ["print".toList] m.name then printText w m.args
  else printText w m.source

/-- The text with its printing macros replaced by what they write. -/
def resolvePrints (w : Setting) (t : Text) : Act Text :=
  let cs := (Invocation.finder printNames).cuts t
  Cuts.rewrite Invocation.source (printMacro w) w.limits.maxReductions cs.items cs.tail

/-- May the character stand in an inline name? -/
def isInlineChar (c : Char) : Bool := c.isAlphanum || c == '_'

/-- The text with its inline names replaced by the values of variables. A name that begins with a digit
names nothing. -/
def substitute (s : Snapshot) (t : Text) : Text :=
  match t with
  | [] => []
  | c :: t =>
    let name := t.takeWhile isInlineChar
    if c = '$' ∧ name ≠ [] ∧ ¬name.head?.any Char.isDigit then
      match s.lookup? name with
      | some v => v.toText ++ substitute s (t.dropWhile isInlineChar)
      | none => c :: substitute s t
    else c :: substitute s t
termination_by t.length
decreasing_by
  · have := congrArg List.length (List.takeWhile_append_dropWhile (p := isInlineChar) (l := t))
    simp only [List.length_append] at this
    simp only [List.length_cons]
    omega
  · simp
  · simp

end Hyperfiction

import Hyperfiction.Condition.Parser
import Hyperfiction.Eval.Expr

/-!
# Conditions that hold

A comparison with an operand that has no value fails, except the negated ones, which hold then. All
parts of a condition are evaluated, also where the first ones decide.
-/

namespace Hyperfiction

namespace Comparison

/-- Compares two numbers, if both are there. -/
def ofNumbers (test : Float → Float → Bool) (left right : Option Value) : Bool :=
  match left.bind Value.toNumber?, right.bind Value.toNumber? with
  | some x, some y => test x y
  | _, _ => false

/-- Compares two values, if both are there. -/
def ofValues (test : Value → Value → Bool) (left right : Option Value) : Bool :=
  match left, right with
  | some v, some w => test v w
  | _, _ => false

/-- Does the comparison hold between two operands? -/
def holds (op : Comparison) (left right : Option Value) : Bool :=
  match op with
  | is => ofValues Value.looselyEquals left right
  | isNot => !ofValues Value.looselyEquals left right
  | contains => ofValues Value.includes left right
  | doesNotContain => !ofValues Value.includes left right
  | greater => ofNumbers (fun x y => decide (y < x)) left right
  | less => ofNumbers (fun x y => decide (x < y)) left right
  | atLeast => ofNumbers (fun x y => decide (y ≤ x)) left right
  | atMost => ofNumbers (fun x y => decide (x ≤ y)) left right

end Comparison

namespace Condition

/-- Does a bare operand hold? A word stands for the variable of that name. -/
def isTrue (w : Setting) (e : Expr) : Act Bool :=
  match e with
  | .word name => do return (← Act.lookup? name).any Value.isTrue
  | e => do return (← e.evaluate w).any Value.isTrue

mutual

/-- Does the condition hold? -/
def holds (w : Setting) : Condition → Act Bool
  | .not c => do return !(← holds w c)
  | .all parts => do return (← answers w parts).all id
  | .any parts => do return (← answers w parts).any id
  | .compare op left right => do
    let l ← left.evaluate w
    let r ← right.evaluate w
    return op.holds l r
  | .truth e => isTrue w e
  | .invalid _ => return false

/-- Which of the conditions hold? -/
def answers (w : Setting) : List Condition → Act (List Bool)
  | [] => return []
  | c :: cs => do
    let b ← holds w c
    let bs ← answers w cs
    return b :: bs

end

/-- Does the condition that a text writes hold? -/
def textHolds (w : Setting) (t : Text) : Act Bool := holds w (ofText t)

end Condition

end Hyperfiction

import Hyperfiction.Expr.Basic

/-!
# Conditions

What the macros of a chain test.
-/

namespace Hyperfiction

/-- A comparison of two operands. -/
inductive Comparison where
  | is
  | isNot
  | contains
  | doesNotContain
  | greater
  | less
  | atLeast
  | atMost
deriving DecidableEq

/-- A condition. -/
inductive Condition where
  | not (c : Condition)
  | all (parts : List Condition)
  | any (parts : List Condition)
  | compare (op : Comparison) (left right : Expr)
  /-- The value of the operand is asked whether it holds. -/
  | truth (e : Expr)
  /-- A source that is no condition; it never holds. -/
  | invalid (source : Text)

namespace Comparison

/-- The comparison that a word makes. -/
def ofWord? : Token.Kind → Option Comparison
  | .is => some is
  | .isNot => some isNot
  | .contains => some contains
  | .doesNotContain => some doesNotContain
  | _ => none

/-- The comparison that a sign makes. -/
def ofSign? : Token.Kind → Option Comparison
  | .greater => some greater
  | .less => some less
  | .atLeast => some atLeast
  | .atMost => some atMost
  | _ => none

end Comparison

end Hyperfiction

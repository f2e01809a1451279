import Hyperfiction.Number.Binary

/-!
# Arithmetic of expressions

The five operations between numbers. Division by zero has no result, and neither has a remainder by
zero; a quotient of whole numbers is cut to a whole number.
-/

namespace Hyperfiction

/-- An arithmetic operation. -/
inductive Operation where
  | add
  | sub
  | mul
  | div
  | mod
deriving DecidableEq

/-- The result of an operation, if it has one. -/
def Operation.result? (op : Operation) (x y : Float) : Option Float :=
  match op with
  | .add => some (x + y)
  | .sub => some (x - y)
  | .mul => some (x * y)
  | .div =>
    if y == 0 then none
    else if Number.isWhole x && Number.isWhole y then some (Number.trunc (x / y))
    else some (x / y)
  | .mod => if y == 0 then none else some (Number.remainder x y)

end Hyperfiction

import Hyperfiction.Number.Read

/-!
# JSON

Stories that are told inside another program come and go as JSON text. A `Json.Node` is what a text says;
a number in it is kept as written (`Json.Numeral`). Its value is found in two steps: as many leading
digits as 64 bits hold make a whole number, and that is multiplied or divided by a power of ten, each
step rounded (`Json.Numeral.toFloat?`).
-/

namespace Hyperfiction.Json

/-- Why a text does not say what it should. -/
inductive Fault where
  /-- The text breaks off or goes on where it should not. -/
  | malformed
  | badEscape
  | badNumber
  /-- The number is too large. -/
  | outOfRange
  | tooDeep
  /-- A value of another kind is expected. -/
  | unexpectedKind
  | missingField (name : Text)
  | duplicateField (name : Text)
deriving DecidableEq

/-- A number as written. -/
structure Numeral where
  negative : Bool
  /-- The digits before the point. -/
  whole : Text
  /-- The digits behind the point. -/
  fraction : Text
  /-- The power of ten behind the digits. -/
  exponent : Int
deriving DecidableEq

namespace Numeral

/-- Puts digits behind those of a number as long as 64 bits hold it: the number, and how many digits were
put there. -/
def gather (n : Nat) : Text → Nat × Nat
  | [] => (n, 0)
  | c :: t =>
    let next := n * 10 + Text.digitsValue [c]
    if next < 2 ^ 64 then
      let (m, count) := gather next t
      (m, count + 1)
    else (n, 0)

/-- A power of ten, rounded. -/
def powerOfTen (e : Nat) : Float := Float.ofScientific 1 false e

/-- The number multiplied by a power of ten. -/
def scaleUp? (x : Float) (e : Nat) : Option Float :=
  if x == 0 then some x
  else if e ≤ 308 then
    let y := x * powerOfTen e
    if y.isInf then none else some y
  else none

/-- The number divided by a power of ten, by steps of at most `10^308`. -/
def scaleDown (x : Float) (e : Nat) : Float :=
  if e ≤ 308 then x / powerOfTen e
  else if x == 0 then x
  else scaleDown (x / powerOfTen 308) (e - 308)
termination_by e

/-- The value of a number, unless it is too large. Digits that 64 bits do not hold are dropped; before
the point they count in the exponent. -/
def toFloat? (n : Numeral) : Option Float :=
  let (high, wholeCount) := gather 0 n.whole
  let (all, fractionCount) := gather high n.fraction
  let e : Int := n.exponent + (n.whole.length - wholeCount : Nat) - fractionCount
  let x := Float.ofScientific all false 0
  let scaled := if 0 ≤ e then scaleUp? x e.toNat else some (scaleDown x e.natAbs)
  scaled.map fun y => if n.negative then -y else y

end Numeral

/-- What a text says. -/
inductive Node where
  | null
  | truth (holds : Bool)
  | number (n : Numeral)
  | text (t : Text)
  | list (items : List Node)
  | map (fields : List (Text × Node))

namespace Node

/-- The text that a node is. -/
def toText : Node → Except Fault Text
  | text t => .ok t
  | _ => .error .unexpectedKind

/-- The items that a node lists, each as `read` takes it. -/
def toList {α : Type} (read : Node → Except Fault α) : Node → Except Fault (List α)
  | list items => items.mapM read
  | _ => .error .unexpectedKind

/-- The field that goes by one of some names, as `read` takes it; it may be there once. -/
def field? {α : Type} (names : List Text) (read : Node → Except Fault α)
    (fields : List (Text × Node)) : Except Fault (Option α) :=
  match fields.filter fun f => names.contains f.1 with
  | [] => .ok none
  | [(_, n)] => do return some (← read n)
  | (name, _) :: _ => .error (.duplicateField name)

/-- The field that goes by one of some names, as `read` takes it; it has to be there once. -/
def field {α : Type} (names : List Text) (read : Node → Except Fault α)
    (fields : List (Text × Node)) : Except Fault α := do
  match ← field? names read fields with
  | some a => return a
  | none => throw (.missingField (names.headD []))

end Node

end Hyperfiction.Json

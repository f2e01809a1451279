/-!
# The exact value of a floating-point number

A finite floating-point number is an integer multiple of a power of two. `Number.decode` reads sign,
multiple and power off the 64 bits, `Binary.toFloat` writes them back, and everything that has to be
exact (truncation, remainder, decimal digits) is done between the two in integer arithmetic.
-/

namespace Hyperfiction

/-- The number `(-1)^negative * mantissa * 2^exponent`. -/
structure Binary where
  negative : Bool
  mantissa : Nat
  exponent : Int
deriving DecidableEq

namespace Binary

/-- The least exponent of a floating-point number. -/
def minExponent : Int := -1074

/-- The floating-point number of this value, if there is one. Of a mantissa with more than 53 bits the
lowest are cut off; the values that this library writes back have no more. -/
def toFloat (b : Binary) : Float :=
  let sign : Nat := if b.negative then 1 <<< 63 else 0
  if b.mantissa = 0 then Float.ofBits (UInt64.ofNat sign)
  else
    let target := max (b.exponent + b.mantissa.log2 - 52) minExponent
    let shift := b.exponent - target
    let m := if 0 ≤ shift then b.mantissa <<< shift.toNat else b.mantissa >>> (-shift).toNat
    let field : Nat := if m < 1 <<< 52 then m
      else ((target + 1075).toNat <<< 52) + (m - (1 <<< 52))
    Float.ofBits (UInt64.ofNat (sign + field))

/-- Is the value an integer? -/
def isWhole (b : Binary) : Bool :=
  decide (0 ≤ b.exponent) || b.mantissa % (1 <<< (-b.exponent).toNat) == 0

/-- The value without its fraction, sign apart. -/
def wholePart (b : Binary) : Nat :=
  if 0 ≤ b.exponent then b.mantissa <<< b.exponent.toNat
  else b.mantissa >>> (-b.exponent).toNat

end Binary

/-- What a floating-point number stands for. -/
inductive Magnitude where
  | undefined
  | infinite (negative : Bool)
  | finite (value : Binary)

namespace Number

/-- What the 64 bits of a floating-point number stand for. -/
def decode (x : Float) : Magnitude :=
  let bits := x.toBits.toNat
  let negative := 1 <<< 63 ≤ bits
  let field : Nat := (bits >>> 52) % (1 <<< 11)
  let fraction : Nat := bits % (1 <<< 52)
  if field = 2047 then
    if fraction = 0 then .infinite negative else .undefined
  else if field = 0 then .finite ⟨negative, fraction, Binary.minExponent⟩
  else .finite ⟨negative, (1 <<< 52) + fraction, (field : Int) - 1075⟩

/-- Is the number a finite integer? -/
def isWhole (x : Float) : Bool :=
  match decode x with
  | .finite b => b.isWhole
  | _ => false

/-- The number without its fraction; the sign stays, also that of a zero. -/
def trunc (x : Float) : Float :=
  match decode x with
  | .finite b => Binary.toFloat ⟨b.negative, b.wholePart, 0⟩
  | _ => x

/-- The remainder of the division that truncates: it has the sign of `x` and is smaller than `y`. -/
def remainder (x y : Float) : Float :=
  match decode x, decode y with
  | .finite a, .finite b =>
    let e := min a.exponent b.exponent
    let divisor := b.mantissa <<< (b.exponent - e).toNat
    if divisor = 0 then Float.ofBits 0x7FF8000000000000
    else Binary.toFloat ⟨a.negative, (a.mantissa <<< (a.exponent - e).toNat) % divisor, e⟩
  | .finite _, .infinite _ => x
  | _, _ => Float.ofBits 0x7FF8000000000000

/-- The integer part of a number, moved to the nearest 64-bit integer if it is none; an undefined
number gives 0. -/
def toInt64 (x : Float) : Int64 :=
  match decode x with
  | .undefined => 0
  | .infinite negative => if negative then Int64.minValue else Int64.maxValue
  | .finite b =>
    let whole : Int := if b.negative then -b.wholePart else b.wholePart
    if whole < Int64.minValue.toInt then Int64.minValue
    else if Int64.maxValue.toInt < whole then Int64.maxValue
    else Int64.ofInt whole

end Number

end Hyperfiction

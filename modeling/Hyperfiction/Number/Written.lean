import Hyperfiction.Number.Shortest
import Hyperfiction.Text.Basic

/-!
# Numbers as text

Passage text shows a number by the fewest digits that read back, always in positions and never with an
exponent; a whole number has no point (`Number.toText`). JSON text always has a point or an exponent,
and an exponent from `10^16` on and below `10^-5` (`Number.toJsonText`).
-/

namespace Hyperfiction

namespace Decimal

/-- The digits with the point at its place. -/
def positional (d : Decimal) : Text :=
  let zeros (n : Int) : Text := List.replicate n.toNat '0'
  if d.point ≤ 0 then '0' :: '.' :: zeros (-d.point) ++ d.digits
  else if d.digits.length ≤ d.point then d.digits ++ zeros (d.point - d.digits.length)
  else d.digits.take d.point.toNat ++ '.' :: d.digits.drop d.point.toNat

/-- One digit, the others behind a point, and the power of ten with its sign. -/
def scientific (d : Decimal) : Text :=
  let power := d.point - 1
  let exponent := (if power < 0 then '-' else '+') :: Text.ofNat power.natAbs
  match d.digits with
  | [] => []
  | [c] => c :: 'e' :: exponent
  | c :: cs => c :: '.' :: cs ++ 'e' :: exponent

end Decimal

namespace Number

/-- A sign in front of the text of a negative number. -/
def signed (negative : Bool) (t : Text) : Text := if negative then '-' :: t else t

/-- The number with the fewest digits that read back, in positions, the farther one of two equally
near ones. Zero keeps its sign. -/
def toDigits (x : Float) : Text :=
  match decode x with
  | .undefined => "NaN".toList
  | .infinite negative => signed negative "inf".toList
  | .finite b =>
    signed b.negative (if b.mantissa = 0 then ['0'] else (Decimal.shortest .away b).positional)

/-- The text of a number in a passage: zero has no sign there. -/
def toText (x : Float) : Text := if x == 0 then ['0'] else toDigits x

/-- The text of a number in JSON, which has no text for infinities and undefined numbers. -/
def toJsonText (x : Float) : Text :=
  match decode x with
  | .finite b =>
    if b.mantissa = 0 then signed b.negative "0.0".toList
    else
      let d := Decimal.shortest .even b
      if -5 < d.point && d.point ≤ 16 then
        let t := d.positional
        signed b.negative (if d.digits.length ≤ d.point then t ++ ".0".toList else t)
      else signed b.negative d.scientific
  | _ => "null".toList

end Number

end Hyperfiction

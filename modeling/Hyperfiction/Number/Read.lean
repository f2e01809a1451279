import Hyperfiction.Text.Letter

/-!
# Plain decimals

The numbers that a story source writes: one sign if any, digits, and perhaps a point with more digits.
There is no exponent, no digit is left out on either side of a point, and there are no words for
infinities. Blanks around the number do not matter.
-/

namespace Hyperfiction.Number

/-- The number with these digits before and behind the point, rounded to nearest. -/
def ofDigits (whole fraction : Text) : Float :=
  Float.ofScientific (Text.digitsValue (whole ++ fraction)) true fraction.length

theorem ofDigits_eq (whole fraction : Text) :
    ofDigits whole fraction = Float.ofScientific (Text.digitsValue (whole ++ fraction)) true fraction.length :=
  rfl

/-- The digits before and behind the point of an unsigned plain decimal. -/
def unsigned? (t : Text) : Option (Text × Text) :=
  let whole := t.takeWhile Char.isDigit
  let rest := t.dropWhile Char.isDigit
  if whole.isEmpty then none
  else match rest with
    | [] => some (whole, [])
    | c :: fraction =>
      if c == '.' && !fraction.isEmpty && fraction.all Char.isDigit then some (whole, fraction)
      else none

/-- The number that a text writes as a plain decimal, blanks around it apart. -/
def ofText? (t : Text) : Option Float :=
  match Text.trim t with
  | '-' :: u => (unsigned? u).map fun (whole, fraction) => -ofDigits whole fraction
  | '+' :: u => (unsigned? u).map fun (whole, fraction) => ofDigits whole fraction
  | u => (unsigned? u).map fun (whole, fraction) => ofDigits whole fraction

end Hyperfiction.Number

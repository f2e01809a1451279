import Hyperfiction.Number.Binary

/-!
# The fewest decimal digits that read back

A finite floating-point number is the value that every real number near it rounds to. Its **shortest
decimal** is the shortest one among these reals, and among those of that length the one nearest to the
value. `Decimal.shortest` tests, for 1, 2, … 17 digits, the two neighbours of the value on the grid of
decimals with so many digits; all of it is exact integer arithmetic. Two neighbours may be equally
near; which one to take is a parameter.
-/

namespace Hyperfiction

/-- The decimal `0.d₁d₂… * 10^point`. -/
structure Decimal where
  digits : List Char
  point : Int
deriving DecidableEq

/-- Which of two equally near decimals is taken. -/
inductive Tie where
  /-- The one farther from zero. -/
  | away
  /-- The one whose last digit is even. -/
  | even

namespace Decimal

/-- A fraction of natural numbers, in units of which a value and the ends of its interval are whole. -/
structure Scale where
  num : Nat
  den : Nat

/-- The least `k` with `n / d < 10^k`, for positive `n` and `d`. -/
def magnitude (n d : Nat) : Int :=
  if d ≤ n then ((Nat.toDigits 10 (n / d)).length : Int) else -(leadingZeros 400 n d : Int)
where
  /-- The number of zeros behind the point of `n / d`. -/
  leadingZeros : Nat → Nat → Nat → Nat
    | 0, _, _ => 0
    | fuel + 1, n, d => if d ≤ 10 * n then 0 else leadingZeros fuel (10 * n) d + 1

/-- The digits of `n` without zeros at the end. -/
def stripped (n : Nat) : List Char := ((Nat.toDigits 10 n).reverse.dropWhile (· == '0')).reverse

/-- The neighbour of the value on the grid of `n`-digit decimals that reads back, if one does. The
value is `4 * m`, its interval reaches from `lo` to `hi`, all in the given scale. -/
def onGrid? (tie : Tie) (m lo hi : Nat) (s : Scale) (point : Int) (n : Nat) : Option Decimal :=
  let up := (n : Int) - point
  let num := s.num * Nat.pow 10 up.toNat
  let den := s.den * Nat.pow 10 (-up).toNat
  let below := 4 * m * num / den
  let isClosed := m % 2 == 0
  let fitsBelow := decide (lo * num < below * den) || (isClosed && lo * num == below * den)
  let fitsAbove :=
    decide ((below + 1) * den < hi * num) || (isClosed && (below + 1) * den == hi * num)
  let toBelow := 4 * m * num - below * den
  let toAbove := (below + 1) * den - 4 * m * num
  let takeBelow := match tie with
    | .away => decide (toBelow < toAbove)
    | .even => decide (toBelow < toAbove) || (toBelow == toAbove && below % 2 == 0)
  let make (q : Nat) : Decimal :=
    ⟨stripped q, point + ((Nat.toDigits 10 q).length : Int) - n⟩
  if toBelow = 0 then some (make below)
  else if fitsBelow && fitsAbove then some (make (if takeBelow then below else below + 1))
  else if fitsBelow then some (make below)
  else if fitsAbove then some (make (below + 1))
  else none

/-- The shortest decimal of the positive number `mantissa * 2^exponent`. -/
def shortest (tie : Tie) (b : Binary) : Decimal :=
  let m := b.mantissa
  let narrow := m == 1 <<< 52 && decide (Binary.minExponent < b.exponent)
  let e := b.exponent - 2
  let s : Scale := ⟨1 <<< e.toNat, 1 <<< (-e).toNat⟩
  let point := magnitude (4 * m * s.num) s.den
  let tries := (List.range 17).filterMap fun n =>
    onGrid? tie m (if narrow then 4 * m - 1 else 4 * m - 2) (4 * m + 2) s point (n + 1)
  tries.headD ⟨stripped m, (Nat.toDigits 10 m).length⟩

end Decimal

end Hyperfiction

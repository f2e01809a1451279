import Hyperfiction.CharSet.Basic

/-!
# Sets of characters as bytes

The characters of a set, written in UTF-8, as rows of byte ranges: a row stands for the texts of one byte
of each of its ranges. The rows of a set are in the order of the characters, and no two share a text.
-/

namespace Hyperfiction.CharSet

/-- The bytes from the first number to the second. -/
abbrev ByteRange := Nat × Nat

/-- The rows of the numbers from `a` to `b`, written with `k` bytes of six bits behind a byte that `lead`
is added to. -/
def rowsBetween (lead : Nat) : Nat → Nat → Nat → List (List ByteRange)
  | 0, a, b => [[(lead + a, lead + b)]]
  | k + 1, a, b =>
    let rows (x y lo hi : Nat) : List (List ByteRange) :=
      (rowsBetween lead k x y).map (· ++ [(0x80 + lo, 0x80 + hi)])
    let x := a / 64
    let y := b / 64
    if x = y then rows x y (a % 64) (b % 64)
    else
      let first := if a % 64 = 0 then x else x + 1
      let final := if b % 64 = 63 then y + 1 else y
      let head := if a % 64 = 0 then [] else rows x x (a % 64) 63
      let middle := if first < final then rows first (final - 1) 0 63 else []
      let foot := if b % 64 = 63 then [] else rows y y 0 (b % 64)
      head ++ middle ++ foot

/-- The code points that are written alike: the first and last one, what is added to their first byte, and
the number of bytes behind it. -/
def utf8Planes : List (Nat × Nat × Nat × Nat) := [
  (0, 0x7F, 0, 0), (0x80, 0x7FF, 0xC0, 1), (0x800, 0xD7FF, 0xE0, 2), (0xE000, 0xFFFF, 0xE0, 2),
  (0x10000, 0x10FFFF, 0xF0, 3)]

/-- The rows of the code points from `a` to `b`. -/
def rowsOfRange (a b : Nat) : List (List ByteRange) :=
  utf8Planes.flatMap fun (lo, hi, lead, k) =>
    if max a lo ≤ min b hi then rowsBetween lead k (max a lo) (min b hi) else []

/-- The rows of a set. -/
def utf8Rows (s : CharSet) : List (List ByteRange) :=
  s.ranges.toList.flatMap fun (a, b) => rowsOfRange a b

end Hyperfiction.CharSet

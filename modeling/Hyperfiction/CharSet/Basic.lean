import Hyperfiction.Text.Letter

/-!
# Sets of characters

A `CharSet` is given by ranges of code points, in order and with a gap between any two, so that equal sets
are equal values. The code points from U+D800 to U+DFFF are no characters: U+E000 is next to U+D7FF, and a
range may go across. Tables write a set as text (`CharSet.ofTable`).
-/

namespace Hyperfiction

/-- A set of characters: the ranges of their code points, in order, with a gap between any two. -/
structure CharSet where
  ranges : Array (Nat × Nat)
deriving DecidableEq, Inhabited

namespace CharSet

/-! ### Ranges -/

/-- The last code point. -/
def last : Nat := 0x10FFFF

/-- The code point of the character behind another. -/
def next (n : Nat) : Nat := if n = 0xD7FF then 0xE000 else n + 1

/-- The code point of the character before another. -/
def prev (n : Nat) : Nat := if n = 0xE000 then 0xD7FF else n - 1

/-- Puts together the ranges that overlap or touch, of a list in the order of their starts. -/
def join (rs : List (Nat × Nat)) : List (Nat × Nat) :=
  match rs with
  | (a, b) :: (c, d) :: rs =>
    if c ≤ next b then join ((a, max b d) :: rs) else (a, b) :: join ((c, d) :: rs)
  | rs => rs
termination_by rs.length

/-- The set of the characters in some ranges. -/
def ofRanges (rs : List (Nat × Nat)) : CharSet :=
  ⟨(join (rs.mergeSort fun r s => r.1 ≤ s.1)).toArray⟩

/-- The set of some code points. -/
def ofCodes (codes : List Nat) : CharSet := ofRanges (codes.map fun n => (n, n))

/-- The ranges from a code point on that are not in a list of ranges. -/
def gaps (start : Nat) : List (Nat × Nat) → List (Nat × Nat)
  | [] => if start ≤ last then [(start, last)] else []
  | (a, b) :: rs => if start < a then (start, prev a) :: gaps (next b) rs else gaps (next b) rs

/-! ### Members -/

/-- Is a code point in one of the ranges at the places from `lo` up to `hi`? -/
def search (s : CharSet) (n lo hi : Nat) : Bool :=
  if lo < hi then
    let mid := (lo + hi) / 2
    match s.ranges[mid]? with
    | none => false
    | some (a, b) =>
      if n < a then s.search n lo mid else if b < n then s.search n (mid + 1) hi else true
  else false
termination_by hi - lo

/-- Is a code point in the set? -/
def hasCode (s : CharSet) (n : Nat) : Bool := s.search n 0 s.ranges.size

/-- Is a character in the set? -/
def has (s : CharSet) (c : Char) : Bool := s.hasCode c.toNat

/-- Has the set no character? -/
def isEmpty (s : CharSet) : Bool := s.ranges.isEmpty

/-- Is there nothing but ASCII in the set? -/
def isAscii (s : CharSet) : Bool := s.ranges.all fun r => r.2 < 128

/-- The only character of a set. -/
def only? (s : CharSet) : Option Char :=
  match s.ranges.toList with
  | [(a, b)] => if a = b then some (Char.ofNat a) else none
  | _ => none

/-! ### Sets from sets -/

/-- No character. -/
def empty : CharSet := ⟨#[]⟩

/-- Every character. -/
def all : CharSet := ⟨#[(0, last)]⟩

/-- One character. -/
def one (c : Char) : CharSet := ⟨#[(c.toNat, c.toNat)]⟩

/-- The characters from one to another. -/
def between (lo hi : Char) : CharSet := ofRanges [(lo.toNat, hi.toNat)]

/-- The characters outside a set. -/
def compl (s : CharSet) : CharSet := ⟨(gaps 0 s.ranges.toList).toArray⟩

/-- The characters of some sets. -/
def unions (sets : List CharSet) : CharSet := ofRanges (sets.flatMap (·.ranges.toList))

/-- The characters of either set. -/
def union (s t : CharSet) : CharSet := unions [s, t]

/-- The characters of both sets. -/
def inter (s t : CharSet) : CharSet := (s.compl.union t.compl).compl

/-- The characters of the first set that are not in the second. -/
def diff (s t : CharSet) : CharSet := s.inter t.compl

/-- The characters of one of the sets and not of the other. -/
def symmDiff (s t : CharSet) : CharSet := (s.union t).diff (s.inter t)

/-! ### Tables -/

/-- The range that a word of a table writes. -/
def readRange (word : Text) : Nat × Nat :=
  let value (digits : Text) : Nat := (Text.digitsValue? 16 digits).getD 0
  let lo := value (word.takeWhile (· ≠ '.'))
  match word.dropWhile (· ≠ '.') with
  | [] => (lo, lo)
  | rest => (lo, value (rest.dropWhile (· = '.')))

/-- The set of a table: code points in hexadecimal digits, and ranges of them such as `41..5A`, with
blanks between them. -/
def ofTable (table : String) : CharSet := ofRanges ((Text.words table.toList).map readRange)

end CharSet

end Hyperfiction

import Hyperfiction.Random.Words

/-!
# Uniform draws

A number below a range is drawn by multiplying a word with the range and taking the high half of the
product. Words whose low half would favour some results are refused, and the next word is tried; the
number of tries has a bound that no stream reaches in practice, so that a draw always ends. A range that
fills all 64 bits takes a word as it is. `Draw.between` orders its two bounds itself, and its result
lies between them (`Draw.le_between`, `Draw.between_le`).
-/

namespace Hyperfiction

/-- A result with the number of words that have been used. -/
structure Draw (α : Type) where
  result : α
  used : Nat

namespace Draw

/-- The low halves above this number are refused. -/
def zone (range : Nat) : Nat := range <<< (63 - range.log2) - 1

/-- A number below a range of at least 1 and less than `2^64`, after `used` words. -/
def belowWithin (words : Words) (range : Nat) : Nat → Nat → Draw Nat
  | 0, used => ⟨(words used).toNat * range / UInt64.size, used + 1⟩
  | tries + 1, used =>
    let product := (words used).toNat * range
    if product % UInt64.size ≤ zone range then ⟨product / UInt64.size, used + 1⟩
    else belowWithin words range tries (used + 1)

/-- A number below a range of at least 1 and at most `2^64`, after `used` words. -/
def below (words : Words) (range used : Nat) : Draw Nat :=
  if range = UInt64.size then ⟨((words used).toNat + (1 <<< 63)) % UInt64.size, used + 1⟩
  else belowWithin words range UInt64.size used

/-- An integer between two bounds, both included, after `used` words. -/
def between (words : Words) (a b : Int64) (used : Nat) : Draw Int64 :=
  let lo := min a.toInt b.toInt
  let hi := max a.toInt b.toInt
  let d := below words (hi - lo + 1).toNat used
  ⟨Int64.ofInt (lo + d.result), d.used⟩

/-! ### Results stay in range -/

private theorem high_lt {w range : Nat} (hw : w < UInt64.size) (h : 0 < range) :
    w * range / UInt64.size < range := by
  rw [Nat.div_lt_iff_lt_mul (by decide), Nat.mul_comm range]
  exact Nat.mul_lt_mul_of_pos_right hw h

theorem belowWithin_lt (words : Words) {range : Nat} (h : 0 < range) (tries used : Nat) :
    (belowWithin words range tries used).result < range := by
  induction tries generalizing used with
  | zero => exact high_lt (words used).toNat_lt h
  | succ tries ih =>
    simp only [belowWithin]
    split
    · exact high_lt (words used).toNat_lt h
    · exact ih _

theorem below_lt (words : Words) {range : Nat} (h : 0 < range) (used : Nat) :
    (below words range used).result < range := by
  unfold below
  split
  · rename_i hrange
    rw [hrange]
    exact Nat.mod_lt _ (by decide)
  · exact belowWithin_lt words h _ _

/-- The result of a draw lies between its bounds. -/
theorem between_mem (words : Words) (a b : Int64) (used : Nat) :
    min a.toInt b.toInt ≤ (between words a b used).result.toInt ∧
      (between words a b used).result.toInt ≤ max a.toInt b.toInt := by
  have ha := a.toInt_lt
  have ha' := a.le_toInt
  have hb := b.toInt_lt
  have hb' := b.le_toInt
  have h := @below_lt words (max a.toInt b.toInt - min a.toInt b.toInt + 1).toNat (by omega) used
  simp only [between]
  rw [Int64.toInt_ofInt_of_le (by omega) (by omega)]
  omega

end Draw

end Hyperfiction

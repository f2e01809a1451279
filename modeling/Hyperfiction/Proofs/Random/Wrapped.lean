import Hyperfiction.Random.Draw

/-!
# Draws in wrapping words

A machine draws with words of 64 bits and products of 128 bits, and all its arithmetic wraps. The number of
integers between two bounds is one such word (`rangeWord`); for all integers at once it wraps to 0, and then
a word is taken as it is. Otherwise words are refused until the low half of a product lies in the zone
(`Searches`), which may go on without end; the high half, added to the lower bound, is the result.

Nothing is lost by wrapping: the numbers behind these words are those that `Draw.below` computes. So a draw
that ends (`Returns`) lies between its bounds, and it does not depend on their order. `Draw.between` gives
up after `2 ^ 64` refusals, and comes to the same as long as there are no more of them
(`Draw.between_wrapped`).
-/

namespace Hyperfiction.Draw

/-! ### Words -/

/-- The number of integers from `lo` to `hi`, as a word. -/
def rangeWord (lo hi : Int64) : UInt64 := (hi - lo + 1).toUInt64

/-- The low halves above this word are refused. Before 1 is taken off, the range is moved up until its
first bit is the first of the word. -/
def zoneWord (range : UInt64) : UInt64 := (range <<< (63 - range.log2)) - 1

/-- The product of two words, in twice as many bits. -/
def product (v range : UInt64) : BitVec 128 := v.toBitVec.setWidth 128 * range.toBitVec.setWidth 128

/-- The low half of the product of two words. -/
def lowHalf (v range : UInt64) : UInt64 := ⟨(product v range).setWidth 64⟩

/-- The high half of the product of two words. -/
def highHalf (v range : UInt64) : UInt64 := ⟨(product v range >>> 64).setWidth 64⟩

/-- **Words are refused** until the low half of a product lies in the zone; the draw is the high half of
that product, with the number of words used then. -/
inductive Searches (words : Words) (range : UInt64) : Nat → Draw UInt64 → Prop
  | taken {used : Nat} (h : lowHalf (words used) range ≤ zoneWord range) :
    Searches words range used ⟨highHalf (words used) range, used + 1⟩
  | refused {used : Nat} {d : Draw UInt64} (h : ¬ lowHalf (words used) range ≤ zoneWord range)
    (more : Searches words range (used + 1) d) : Searches words range used d

/-- Two bounds, the lower one first. -/
def inOrder (a b : Int64) : Int64 × Int64 := if a ≤ b then (a, b) else (b, a)

/-- The draw of an integer between two bounds **returns** `d`, after `used` words. -/
def Returns (words : Words) (a b : Int64) (used : Nat) (d : Draw Int64) : Prop :=
  let range := rangeWord (inOrder a b).1 (inOrder a b).2
  if range = 0 then d = ⟨(words used).toInt64, used + 1⟩
  else ∃ r, Searches words range used r ∧ d = ⟨(inOrder a b).1 + r.result.toInt64, r.used⟩

/-! ### The numbers behind the words -/

/-- The word for a range counts its numbers, modulo the number of words. -/
theorem toNat_rangeWord (lo hi : Int64) :
    (rangeWord lo hi).toNat = ((hi.toInt - lo.toInt + 1) % UInt64.size).toNat := by
  have hword : hi - lo + 1 = Int64.ofInt (hi.toInt - lo.toInt + 1) := by
    rw [Int64.ofInt_add, Int64.ofInt_sub, Int64.ofInt_toInt, Int64.ofInt_toInt]
    rfl
  rw [rangeWord, hword, ← Int64.toNat_toBitVec, Int64.toBitVec_ofInt, BitVec.toNat_ofInt]

/-- Of bounds in order the range wraps only where it has all integers, and then to 0. -/
theorem rangeWord_eq_zero_iff {lo hi : Int64} (h : lo ≤ hi) :
    rangeWord lo hi = 0 ↔ hi.toInt - lo.toInt + 1 = UInt64.size := by
  have horder := Int64.le_iff_toInt_le.mp h
  have hlo := lo.le_toInt
  have hhi := hi.toInt_lt
  rw [← UInt64.toNat_inj, toNat_rangeWord]
  simp only [UInt64.size, UInt64.toNat_ofNat]
  omega

theorem toNat_rangeWord_of_ne {lo hi : Int64} (h : lo ≤ hi) (hne : rangeWord lo hi ≠ 0) :
    ((rangeWord lo hi).toNat : Int) = hi.toInt - lo.toInt + 1 := by
  have horder := Int64.le_iff_toInt_le.mp h
  have hlo := lo.le_toInt
  have hhi := hi.toInt_lt
  rw [Ne, rangeWord_eq_zero_iff h] at hne
  rw [toNat_rangeWord]
  simp only [UInt64.size] at *
  omega

theorem toNat_zoneWord {range : UInt64} (h : range ≠ 0) : (zoneWord range).toNat = zone range.toNat := by
  have hne : range.toNat ≠ 0 := fun hzero => h (UInt64.toNat_inj.mp hzero)
  have hlog : range.toNat.log2 < 64 := (Nat.log2_lt hne).mpr range.toNat_lt
  -- The first bit of the range is moved to the first place of the word, so no bit is lost.
  have hfits : range.toNat <<< (63 - range.toNat.log2) < 2 ^ 64 := by
    rw [Nat.shiftLeft_eq]
    calc range.toNat * 2 ^ (63 - range.toNat.log2)
        < 2 ^ (range.toNat.log2 + 1) * 2 ^ (63 - range.toNat.log2) :=
          Nat.mul_lt_mul_of_pos_right Nat.lt_log2_self (Nat.two_pow_pos _)
      _ = 2 ^ 64 := by rw [← Nat.pow_add]; congr 1; omega
  have hpos : 0 < range.toNat <<< (63 - range.toNat.log2) := by
    rw [Nat.shiftLeft_eq]
    exact Nat.mul_pos (Nat.pos_of_ne_zero hne) (Nat.two_pow_pos _)
  have hshift : (63 - range.log2 : UInt64).toNat = 63 - range.toNat.log2 := by
    have hle : range.log2 ≤ 63 := UInt64.le_iff_toNat_le.mpr (Nat.le_of_lt_succ hlog)
    rw [UInt64.toNat_sub_of_le _ _ hle]
    rfl
  have hmoved : (range <<< (63 - range.log2)).toNat = range.toNat <<< (63 - range.toNat.log2) := by
    rw [UInt64.toNat_shiftLeft, hshift, Nat.mod_eq_of_lt (show 63 - range.toNat.log2 < 64 by omega),
      Nat.mod_eq_of_lt hfits]
  have hone : 1 ≤ range <<< (63 - range.log2) := by
    rw [UInt64.le_iff_toNat_le, hmoved]
    exact hpos
  rw [zoneWord, UInt64.toNat_sub_of_le _ _ hone, hmoved]
  rfl

private theorem product_lt (v range : UInt64) : v.toNat * range.toNat < UInt64.size * UInt64.size :=
  Nat.mul_lt_mul'' v.toNat_lt_size range.toNat_lt_size

/-- The product of a word with the range does not overflow. -/
theorem toNat_product (v range : UInt64) : (product v range).toNat = v.toNat * range.toNat := by
  have hwide (w : UInt64) : (w.toBitVec.setWidth 128).toNat = w.toNat := by
    have hw := w.toNat_lt
    rw [BitVec.toNat_setWidth, UInt64.toNat_toBitVec, Nat.mod_eq_of_lt (by omega)]
  rw [product, BitVec.toNat_mul, hwide, hwide]
  exact Nat.mod_eq_of_lt (product_lt v range)

theorem toNat_lowHalf (v range : UInt64) :
    (lowHalf v range).toNat = v.toNat * range.toNat % UInt64.size := by
  rw [lowHalf, UInt64.toNat_ofBitVec, BitVec.toNat_setWidth, toNat_product]

theorem toNat_highHalf (v range : UInt64) :
    (highHalf v range).toNat = v.toNat * range.toNat / UInt64.size := by
  have hhigh : v.toNat * range.toNat / UInt64.size < UInt64.size :=
    (Nat.div_lt_iff_lt_mul (by decide)).mpr (product_lt v range)
  rw [highHalf, UInt64.toNat_ofBitVec, BitVec.toNat_setWidth, BitVec.toNat_ushiftRight, toNat_product,
    Nat.shiftRight_eq_div_pow]
  exact Nat.mod_eq_of_lt hhigh

/-- A word is taken if the low half of its product lies in the zone. -/
theorem lowHalf_le_iff {range : UInt64} (h : range ≠ 0) (v : UInt64) :
    lowHalf v range ≤ zoneWord range ↔ v.toNat * range.toNat % UInt64.size ≤ zone range.toNat := by
  rw [UInt64.le_iff_toNat_le, toNat_lowHalf, toNat_zoneWord h]

/-! ### Searches -/

namespace Searches

variable {words : Words} {range : UInt64} {used : Nat} {d : Draw UInt64}

/-- **Words decide a search**: it comes to one result. -/
theorem unique (h : Searches words range used d) {d' : Draw UInt64}
    (h' : Searches words range used d') : d = d' := by
  induction h with
  | taken h =>
    cases h' with
    | taken _ => rfl
    | refused hnot _ => exact absurd h hnot
  | refused hnot _ ih =>
    cases h' with
    | taken h => exact absurd h hnot
    | refused _ more => exact ih more

theorem lt_used (h : Searches words range used d) : used < d.used := by
  induction h with
  | taken _ => exact Nat.lt_succ_self _
  | refused _ _ ih => exact Nat.lt_trans (Nat.lt_succ_self _) ih

theorem result_lt (h : Searches words range used d) (hne : range ≠ 0) : d.result.toNat < range.toNat := by
  induction h with
  | taken _ =>
    have hpos : 0 < range.toNat := Nat.pos_of_ne_zero fun hzero => hne (UInt64.toNat_inj.mp hzero)
    rw [toNat_highHalf, Nat.div_lt_iff_lt_mul (by decide), Nat.mul_comm range.toNat]
    exact Nat.mul_lt_mul_of_pos_right (words _).toNat_lt hpos
  | refused _ _ ih => exact ih

/-- **A search within the tries** is the one that is limited. -/
theorem belowWithin_eq (h : Searches words range used d) (hne : range ≠ 0) {tries : Nat}
    (htries : d.used ≤ used + (tries + 1)) :
    belowWithin words range.toNat tries used = ⟨d.result.toNat, d.used⟩ := by
  induction h generalizing tries with
  | @taken used htaken =>
    rw [lowHalf_le_iff hne] at htaken
    cases tries with
    | zero => rw [belowWithin, toNat_highHalf]
    | succ tries => rw [belowWithin, if_pos htaken, toNat_highHalf]
  | @refused used d hnot more ih =>
    rw [lowHalf_le_iff hne] at hnot
    cases tries with
    | zero =>
      -- One word is refused and another one is used, so one try is not enough.
      have hused := more.lt_used
      omega
    | succ tries =>
      rw [belowWithin, if_neg hnot]
      exact ih (by omega)

end Searches

/-! ### Draws between bounds -/

theorem inOrder_comm (a b : Int64) : inOrder b a = inOrder a b := by
  rw [inOrder, inOrder]
  split
  · rename_i hba
    split
    · rename_i hab
      rw [Int64.le_antisymm hab hba]
    · rfl
  · rename_i hba
    rw [if_pos ((Int64.le_total a b).resolve_right hba)]

theorem inOrder_le (a b : Int64) : (inOrder a b).1 ≤ (inOrder a b).2 := by
  rw [inOrder]
  split
  · assumption
  · rename_i hab
    exact (Int64.le_total a b).resolve_left hab

theorem toInt_inOrder (a b : Int64) :
    (inOrder a b).1.toInt = min a.toInt b.toInt ∧ (inOrder a b).2.toInt = max a.toInt b.toInt := by
  rw [inOrder]
  split <;> rename_i hab <;> rw [Int64.le_iff_toInt_le] at hab <;> constructor <;> dsimp only <;> omega

/-- The bounds of a draw may change places. -/
theorem returns_comm (words : Words) (a b : Int64) (used : Nat) (d : Draw Int64) :
    Returns words b a used d ↔ Returns words a b used d := by
  rw [Returns, Returns, inOrder_comm]

/-- **The order of the bounds makes no difference.** -/
theorem between_comm (words : Words) (a b : Int64) (used : Nat) :
    between words b a used = between words a b used := by
  rw [between, between, Int.min_comm, Int.max_comm]

theorem toInt_toInt64 (w : UInt64) : w.toInt64.toInt = (w.toNat : Int).bmod UInt64.size := by
  rw [← Int64.toInt_toBitVec, UInt64.toBitVec_toInt64, BitVec.toInt_eq_toNat_bmod]
  rfl

section Between

variable {words : Words} {a b : Int64} {used : Nat}

/-- A draw from all integers takes a word as it is. -/
theorem between_of_eq_zero (h : rangeWord (inOrder a b).1 (inOrder a b).2 = 0) :
    between words a b used = ⟨(words used).toInt64, used + 1⟩ := by
  obtain ⟨hlo, hhi⟩ := toInt_inOrder a b
  rw [rangeWord_eq_zero_iff (inOrder_le a b), hlo, hhi] at h
  have hmin : min a.toInt b.toInt = -2 ^ 63 := by
    have ha := a.le_toInt
    have hb := b.le_toInt
    have ha' := a.toInt_lt
    have hb' := b.toInt_lt
    simp only [UInt64.size] at h
    omega
  have hbelow : below words (max a.toInt b.toInt - min a.toInt b.toInt + 1).toNat used =
      ⟨((words used).toNat + 2 ^ 63) % UInt64.size, used + 1⟩ := by
    rw [h]
    rfl
  -- The result is moved up by half of all integers, and the lower bound stands as far below 0.
  have hresult : Int64.ofInt (-2 ^ 63 + (((words used).toNat + 2 ^ 63) % UInt64.size : Nat)) =
      (words used).toInt64 := by
    have hmod : (-2 ^ 63 + (((words used).toNat + 2 ^ 63) % UInt64.size : Nat) : Int) % UInt64.size =
        ((words used).toNat : Int) % UInt64.size := by
      simp only [UInt64.size]
      omega
    have hsize : Int64.size = UInt64.size := rfl
    rw [← Int64.toInt_inj, Int64.toInt_ofInt, toInt_toInt64, hsize, ← Int.emod_bmod, hmod, Int.emod_bmod]
  rw [between, ← hresult, ← hmin]
  simp only [hbelow]

/-- **The result of a search** is added to the lower bound without wrapping, and stays below the other. -/
theorem toInt_add_result (hne : rangeWord (inOrder a b).1 (inOrder a b).2 ≠ 0) {r : Draw UInt64}
    (hr : Searches words (rangeWord (inOrder a b).1 (inOrder a b).2) used r) :
    ((inOrder a b).1 + r.result.toInt64).toInt = min a.toInt b.toInt + r.result.toNat ∧
      min a.toInt b.toInt + r.result.toNat ≤ max a.toInt b.toInt := by
  have hrange := toNat_rangeWord_of_ne (inOrder_le a b) hne
  have hresult := hr.result_lt hne
  obtain ⟨hlo, hhi⟩ := toInt_inOrder a b
  rw [hlo, hhi] at hrange
  have ha := a.le_toInt
  have hb := b.le_toInt
  have ha' := a.toInt_lt
  have hb' := b.toInt_lt
  refine ⟨?_, by omega⟩
  have hsize : (UInt64.size : Int) = 18446744073709551616 := rfl
  rw [Int64.toInt_add, hlo, toInt_toInt64]
  exact (Int.add_bmod_bmod ..).trans (Int.bmod_eq_of_le (by omega) (by omega))

/-- What a search finds is added to the lower bound. -/
theorem between_of_ne_zero (hne : rangeWord (inOrder a b).1 (inOrder a b).2 ≠ 0) {r : Draw UInt64}
    (hr : Searches words (rangeWord (inOrder a b).1 (inOrder a b).2) used r)
    (hused : r.used ≤ used + (UInt64.size + 1)) :
    between words a b used = ⟨(inOrder a b).1 + r.result.toInt64, r.used⟩ := by
  have hrange := toNat_rangeWord_of_ne (inOrder_le a b) hne
  obtain ⟨hlo, hhi⟩ := toInt_inOrder a b
  rw [hlo, hhi] at hrange
  have hsize := (rangeWord (inOrder a b).1 (inOrder a b).2).toNat_lt
  have hbelow : below words (max a.toInt b.toInt - min a.toInt b.toInt + 1).toNat used =
      ⟨r.result.toNat, r.used⟩ := by
    rw [← hrange, Int.toNat_natCast, below, if_neg (Nat.ne_of_lt hsize), hr.belowWithin_eq hne hused]
  rw [between]
  simp only [hbelow, ← (toInt_add_result hne hr).1, Int64.ofInt_toInt]

/-- What returns lies between the bounds. -/
theorem returns_mem {d : Draw Int64} (h : Returns words a b used d) :
    min a.toInt b.toInt ≤ d.result.toInt ∧ d.result.toInt ≤ max a.toInt b.toInt := by
  by_cases hzero : rangeWord (inOrder a b).1 (inOrder a b).2 = 0
  · rw [Returns, if_pos hzero, ← between_of_eq_zero hzero] at h
    rw [h]
    exact between_mem words a b used
  · rw [Returns, if_neg hzero] at h
    obtain ⟨r, hr, rfl⟩ := h
    obtain ⟨hresult, hle⟩ := toInt_add_result hzero hr
    dsimp only
    omega

/-- What returns is decided by the words. -/
theorem returns_unique {d d' : Draw Int64} (h : Returns words a b used d)
    (h' : Returns words a b used d') : d' = d := by
  by_cases hzero : rangeWord (inOrder a b).1 (inOrder a b).2 = 0
  · rw [Returns, if_pos hzero] at h h'
    rw [h, h']
  · rw [Returns, if_neg hzero] at h h'
    obtain ⟨r, hr, rfl⟩ := h
    obtain ⟨r', hr', rfl⟩ := h'
    rw [hr.unique hr']

/-- **The draw that returns is made**, if the limit of the model is not reached. -/
theorem between_of_returns {d : Draw Int64} (h : Returns words a b used d)
    (hused : d.used ≤ used + (UInt64.size + 1)) : between words a b used = d := by
  by_cases hzero : rangeWord (inOrder a b).1 (inOrder a b).2 = 0
  · rw [Returns, if_pos hzero] at h
    rw [h, between_of_eq_zero hzero]
  · rw [Returns, if_neg hzero] at h
    obtain ⟨r, hr, rfl⟩ := h
    exact between_of_ne_zero hzero hr hused

/-- The range wraps to 0 only between the least and the greatest integer. -/
theorem rangeWord_inOrder_eq_zero_iff :
    rangeWord (inOrder a b).1 (inOrder a b).2 = 0 ↔ inOrder a b = (Int64.minValue, Int64.maxValue) := by
  have hlo := (inOrder a b).1.le_toInt
  have hhi := (inOrder a b).2.toInt_lt
  rw [rangeWord_eq_zero_iff (inOrder_le a b), Prod.ext_iff, ← Int64.toInt_inj, ← Int64.toInt_inj]
  simp only [UInt64.size, Int64.toInt_minValue, Int64.toInt_maxValue]
  omega

end Between

/-- **Draws stay in range and do not depend on the order of their bounds**, for all 64-bit bounds and all
streams of words. So do draws in wrapping words, which come to one result if they end; only the range of all
integers wraps. They are the same draws unless more than `2 ^ 64` words are refused. -/
theorem between_wrapped (words : Words) (a b : Int64) (used : Nat) :
    (min a.toInt b.toInt ≤ (between words a b used).result.toInt ∧
        (between words a b used).result.toInt ≤ max a.toInt b.toInt) ∧
      between words b a used = between words a b used ∧
      (rangeWord (inOrder a b).1 (inOrder a b).2 = 0 ↔ inOrder a b = (Int64.minValue, Int64.maxValue)) ∧
      ∀ d, Returns words a b used d →
        (min a.toInt b.toInt ≤ d.result.toInt ∧ d.result.toInt ≤ max a.toInt b.toInt) ∧
          (∀ d', Returns words b a used d' ↔ d' = d) ∧
          (d.used ≤ used + (UInt64.size + 1) → between words a b used = d) := by
  refine ⟨between_mem words a b used, between_comm words a b used, rangeWord_inOrder_eq_zero_iff,
    fun d hd => ⟨returns_mem hd, fun d' => ?_, between_of_returns hd⟩⟩
  rw [returns_comm]
  constructor
  · intro hd'
    exact returns_unique hd hd'
  · rintro rfl
    exact hd

/-- A draw from all integers takes the first word; one from 6 down to 1 refuses a word that would come out
too often, and takes the next. -/
theorem between_wrapped_bounds :
    let words : Words := fun n => if n = 0 then 0x2AAAAAAAAAAAAAAA else 0x8000000000000000
    Returns words Int64.maxValue Int64.minValue 1 ⟨Int64.minValue, 2⟩ ∧
      between words Int64.maxValue Int64.minValue 1 = ⟨Int64.minValue, 2⟩ ∧
      Returns words 6 1 0 ⟨4, 2⟩ ∧ Returns words 1 6 0 ⟨4, 2⟩ ∧ between words 6 1 0 = ⟨4, 2⟩ := by
  intro words
  have hall : Returns words Int64.maxValue Int64.minValue 1 ⟨Int64.minValue, 2⟩ := by
    rw [Returns, if_pos (by decide)]
    rfl
  have hdie : Returns words 6 1 0 ⟨4, 2⟩ := by
    have hrefused : ¬ lowHalf (words 0) (rangeWord 1 6) ≤ zoneWord (rangeWord 1 6) := by decide
    have htaken : lowHalf (words 1) (rangeWord 1 6) ≤ zoneWord (rangeWord 1 6) := by decide
    have hresult : highHalf (words 1) (rangeWord 1 6) = 3 := by decide
    refine ⟨⟨highHalf (words 1) (rangeWord 1 6), 2⟩, .refused hrefused (.taken htaken), ?_⟩
    rw [hresult]
    rfl
  obtain ⟨-, -, -, hreturns⟩ := between_wrapped words 6 1 0
  refine ⟨hall, ?_, hdie, ((hreturns _ hdie).2.1 _).mpr rfl, (hreturns _ hdie).2.2 (by decide)⟩
  exact ((between_wrapped words _ _ _).2.2.2 _ hall).2.2 (by decide)

end Hyperfiction.Draw

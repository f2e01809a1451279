import Mathlib.Data.List.Infix
import Hyperfiction.Text.Basic

/-!
# Occurrences of a text in another

A search cuts a text where another one occurs in it, and fails where it does not occur
(`Text.breakOn?_eq_none_iff_not_infix`, `Text.breakOnLast?_eq_none_iff`). Occurrences may overlap, so which
one is the first or the last is said by the part of it that may belong to another one. The cut is at the
first occurrence when there is none in what stands before it with all but its last character
(`Text.breakOn?_eq_some_iff_not_infix`), and at the last one when there is none in all but its first
character with what stands behind it (`Text.breakOnLast?_eq_some_iff_not_infix`).
-/

namespace Hyperfiction

namespace Text

/-! ### Fronts -/

theorem startsWith_iff {t lead : Text} : startsWith t lead ↔ lead <+: t := by
  rw [startsWith, Option.isSome_iff_exists]
  exact exists_congr fun u => after?_eq_some.trans eq_comm

theorem after?_eq_none_iff {t lead : Text} : after? t lead = none ↔ ¬ lead <+: t := by
  rw [← startsWith_iff, startsWith, Option.not_isSome_iff_eq_none]

/-! ### The first occurrence -/

/-- **A text is found at its first occurrence.** -/
theorem breakOn?_eq_some_iff {needle t b u : Text} :
    breakOn? needle t = some (b, u) ↔
      t = b ++ (needle ++ u) ∧ ∀ w, w <:+ b → w ≠ [] → ¬ needle <+: w ++ (needle ++ u) := by
  induction t generalizing b with
  | nil =>
    constructor
    · intro h
      have ht := eq_append_of_breakOn? h
      obtain ⟨rfl, -⟩ := List.append_eq_nil_iff.mp ht.symm
      exact ⟨ht, fun w hw hne => absurd (List.suffix_nil.mp hw) hne⟩
    · rintro ⟨ht, -⟩
      obtain ⟨rfl, hrest⟩ := List.append_eq_nil_iff.mp ht.symm
      obtain ⟨rfl, rfl⟩ := List.append_eq_nil_iff.mp hrest
      rfl
  | cons c t ih =>
    cases b with
    | nil =>
      constructor
      · intro h
        exact ⟨eq_append_of_breakOn? h, fun w hw hne => absurd (List.suffix_nil.mp hw) hne⟩
      · rintro ⟨ht, -⟩
        have hafter : after? (c :: t) needle = some u := after?_eq_some.mpr ht
        simp [breakOn?, hafter]
    | cons d b =>
      have hcons : breakOn? needle (c :: t) = some (d :: b, u) ↔
          c = d ∧ after? (c :: t) needle = none ∧ breakOn? needle t = some (b, u) := by
        simp only [breakOn?]
        split
        · rename_i v hv
          simp [hv]
        · rename_i hnone
          simp only [hnone, Option.map_eq_some_iff, Prod.mk.injEq, Prod.exists, List.cons.injEq,
            true_and]
          grind
      rw [hcons, ih, after?_eq_none_iff]
      constructor
      · rintro ⟨rfl, hfront, rfl, hlater⟩
        refine ⟨rfl, fun w hw hne => ?_⟩
        rcases List.suffix_cons_iff.mp hw with rfl | hw
        · exact hfront
        · exact hlater w hw hne
      · rintro ⟨ht, hfirst⟩
        obtain ⟨rfl, rfl⟩ := List.cons.inj ht
        exact ⟨rfl, hfirst (c :: b) List.suffix_rfl (by simp), rfl,
          fun w hw hne => hfirst w (hw.trans (List.suffix_cons c b)) hne⟩

/-- No break is found if the needle begins nowhere. -/
theorem breakOn?_eq_none_iff {needle t : Text} :
    breakOn? needle t = none ↔ ∀ w, w <:+ t → ¬ needle <+: w := by
  constructor
  · intro h
    induction t with
    | nil =>
      intro w hw hneedle
      obtain rfl := List.suffix_nil.mp hw
      obtain rfl := List.prefix_nil.mp hneedle
      simp [breakOn?, after?] at h
    | cons c t ih =>
      simp only [breakOn?] at h
      split at h
      · simp at h
      · rename_i hnone
        rw [Option.map_eq_none_iff] at h
        intro w hw
        rcases List.suffix_cons_iff.mp hw with rfl | hw
        · exact after?_eq_none_iff.mp hnone
        · exact ih h w hw
  · intro h
    cases hb : breakOn? needle t with
    | none => rfl
    | some p =>
      have ht := eq_append_of_breakOn? hb
      exact absurd ⟨p.2, rfl⟩ (h (needle ++ p.2) ⟨p.1, ht.symm⟩)

/-- **A break is found** exactly if the needle stands in the text. -/
theorem isSome_breakOn?_iff {needle t : Text} : (breakOn? needle t).isSome ↔ needle <:+: t := by
  rw [Option.isSome_iff_ne_none, ne_eq, breakOn?_eq_none_iff, List.infix_iff_prefix_suffix]
  push Not
  exact exists_congr fun w => and_comm

theorem breakOn?_eq_none_iff_not_infix {needle t : Text} :
    breakOn? needle t = none ↔ ¬ needle <:+: t := by
  rw [← isSome_breakOn?_iff, Option.not_isSome_iff_eq_none]

/-- What stands before the first occurrence of a text can be taken off. -/
theorem breakOn?_append {needle b s : Text} (h : ∀ w, w <:+ b → w ≠ [] → ¬ needle <+: w ++ s) :
    breakOn? needle (b ++ s) = (breakOn? needle s).map fun p => (b ++ p.1, p.2) := by
  induction b with
  | nil => simp
  | cons c b ih =>
    have hfront : after? (c :: (b ++ s)) needle = none :=
      after?_eq_none_iff.mpr (h (c :: b) List.suffix_rfl (by simp))
    have hbehind := ih fun w hw => h w (hw.trans (List.suffix_cons c b))
    rw [List.cons_append, breakOn?, hfront]
    simp only [hbehind, Option.map_map]
    rfl

/-- **A text is found at its first occurrence**, one that does not overlap with an earlier one: it is not in
what stands before it with all but its last character. -/
theorem breakOn?_eq_some_iff_not_infix {needle t b u : Text} (hne : needle ≠ []) :
    breakOn? needle t = some (b, u) ↔
      t = b ++ (needle ++ u) ∧ ¬ needle <:+: b ++ needle.dropLast := by
  obtain ⟨front, c, rfl⟩ := (List.eq_nil_or_concat' needle).resolve_left hne
  rw [breakOn?_eq_some_iff, List.dropLast_concat]
  refine and_congr_right fun _ => ⟨fun h hinfix => ?_, fun h w hw hne' hfits => ?_⟩
  · obtain ⟨v, hfits, x, hv⟩ := List.infix_iff_prefix_suffix.mp hinfix
    have hlen := hfits.length_le
    rw [List.length_append, List.length_singleton] at hlen
    rcases List.append_eq_append_iff.mp hv with ⟨w, rfl, rfl⟩ | ⟨y, rfl, rfl⟩
    · have hw : w ≠ [] := by
        rintro rfl
        exact absurd hlen (Nat.not_succ_le_self _)
      refine h w (List.suffix_append x w) hw (hfits.trans ?_)
      rw [List.append_assoc]
      exact (List.prefix_append_right_inj w).mpr (List.prefix_append _ _)
    · rw [List.length_append] at hlen
      omega
  · have hfront : w ++ front <+: w ++ (front ++ [c] ++ u) := by
      rw [List.append_assoc]
      exact (List.prefix_append_right_inj w).mpr (List.prefix_append _ _)
    have hlen : (front ++ [c]).length ≤ (w ++ front).length := by
      have := List.length_pos_iff.mpr hne'
      rw [List.length_append, List.length_append, List.length_singleton]
      omega
    have hin := (List.prefix_of_prefix_length_le hfits hfront hlen).isInfix
    obtain ⟨x, rfl⟩ := hw
    refine h (hin.trans ?_)
    rw [List.append_assoc]
    exact (List.suffix_append x (w ++ front)).isInfix

/-! ### The last occurrence -/

theorem eq_append_of_breakOnLast? {needle t b u : Text}
    (h : breakOnLast? needle t = some (b, u)) : t = b ++ (needle ++ u) := by
  induction t generalizing b u with
  | nil =>
    obtain ⟨v, hv, hp⟩ := Option.map_eq_some_iff.mp h
    obtain ⟨rfl, rfl⟩ := Prod.mk.inj hp
    rw [List.nil_append]
    exact after?_eq_some.mp hv
  | cons c t ih =>
    rw [breakOnLast?] at h
    split at h
    · rename_i b' u' hlast
      obtain ⟨rfl, rfl⟩ := Prod.mk.inj (Option.some.inj h)
      rw [ih hlast]
      rfl
    · obtain ⟨v, hv, hp⟩ := Option.map_eq_some_iff.mp h
      obtain ⟨rfl, rfl⟩ := Prod.mk.inj hp
      rw [List.nil_append]
      exact after?_eq_some.mp hv

/-- No last break is found if the needle does not stand in the text. -/
theorem breakOnLast?_eq_none_iff {needle t : Text} : breakOnLast? needle t = none ↔ ¬ needle <:+: t := by
  induction t with
  | nil => rw [breakOnLast?, Option.map_eq_none_iff, after?_eq_none_iff, List.infix_nil, List.prefix_nil]
  | cons c t ih =>
    rw [breakOnLast?, List.infix_cons_iff, not_or, ← after?_eq_none_iff, ← ih]
    cases breakOnLast? needle t with
    | none => simp
    | some p => simp

private theorem breakOnLast?_cons_eq_nil {needle t u : Text} {c : Char} :
    breakOnLast? needle (c :: t) = some ([], u) ↔
      c :: t = needle ++ u ∧ breakOnLast? needle t = none := by
  rw [breakOnLast?, ← after?_eq_some]
  cases breakOnLast? needle t with
  | none => simp
  | some p => simp

private theorem breakOnLast?_cons_eq_cons {needle t b u : Text} {c d : Char} :
    breakOnLast? needle (c :: t) = some (d :: b, u) ↔
      c = d ∧ breakOnLast? needle t = some (b, u) := by
  rw [breakOnLast?]
  cases breakOnLast? needle t with
  | none => simp
  | some p =>
    obtain ⟨v, w⟩ := p
    simp [and_assoc]

/-- **A text is found at its last occurrence**, one that does not overlap with a later one: it is not in what
stands behind it with all but its first character. -/
theorem breakOnLast?_eq_some_iff_not_infix {needle t b u : Text} (hne : needle ≠ []) :
    breakOnLast? needle t = some (b, u) ↔
      t = b ++ (needle ++ u) ∧ ¬ needle <:+: needle.tail ++ u := by
  obtain ⟨n, needle, rfl⟩ := List.exists_cons_of_ne_nil hne
  induction t generalizing b with
  | nil => simp [breakOnLast?, after?]
  | cons c t ih =>
    cases b with
    | nil =>
      rw [breakOnLast?_cons_eq_nil, breakOnLast?_eq_none_iff, List.nil_append]
      refine and_congr_right fun ht => ?_
      obtain ⟨-, rfl⟩ := List.cons.inj ht
      rfl
    | cons d b =>
      rw [breakOnLast?_cons_eq_cons, ih, ← and_assoc]
      exact and_congr_left fun _ => List.cons_eq_cons.symm

end Text

end Hyperfiction

import Mathlib.Data.List.Infix
import Hyperfiction.Proofs.Markup.Links
import Hyperfiction.Proofs.Markup.Openers
import Hyperfiction.Proofs.Render.Orphan

/-!
# What joins when macros are taken out

Assignments and orphans are taken out of a text from left to right, and what is left is not searched again.
Where parentheses are all closed every complete macro is taken out, but the text before one of them may end
with an open parenthesis and the front of a name. What is left behind the macro may then join it
(`Cuts.Joins`), and that is the one way in which a complete macro is left (`Finder.holds_without_iff`).
-/

namespace Hyperfiction

namespace Invocation

/-! ### Complete macros -/

/-- A complete macro of one of the names stands at the front of the text. -/
def Complete (names : List Text) (t : Text) : Prop := (read? t).any fun p => isNamed names p.1.name

instance (names : List Text) (t : Text) : Decidable (Complete names t) :=
  inferInstanceAs (Decidable (_ = true))

/-- A complete macro of one of the names stands somewhere in the text. -/
def Holds (names : List Text) (t : Text) : Prop := ∃ u, u <:+ t ∧ Complete names u

instance (names : List Text) (t : Text) : Decidable (Holds names t) :=
  decidable_of_iff (∃ u ∈ t.tails, Complete names u) (by simp only [Holds, List.mem_tails])

variable {names : List Text} {s t u : Text}

/-- A macro is complete at the front of a text if it is read there with one of the names. -/
theorem complete_iff : Complete names t ↔ ∃ m u, read? t = some (m, u) ∧ isNamed names m.name := by
  simp [Complete, Option.any_eq_true]

theorem Complete.begins (h : Complete names t) : Begins names t := by
  obtain ⟨m, u, hread, hn⟩ := complete_iff.mp h
  obtain ⟨v, hhead⟩ := head?_of_read? hread
  exact begins_iff.mpr ⟨m.name, v, hhead, hn⟩

theorem NoHead.not_holds (h : NoHead names t) : ¬ Holds names t := by
  rintro ⟨u, ⟨s, rfl⟩, hu⟩
  exact h.of_append.not_begins hu.begins

/-- A complete macro **joins** two texts: it begins in the first, which ends before its name does. -/
def JoinsTo (names : List Text) (s t : Text) : Prop :=
  ∃ x begun, s = x ++ '(' :: begun ∧ (∀ d ∈ begun, isNameChar d) ∧ Complete names ('(' :: begun ++ t)

/-- Texts that are sealed do not end inside of a name. -/
theorem Sealed.not_joinsTo (h : Sealed s) : ¬ JoinsTo names s t := by
  rintro ⟨x, begun, hs, hname, -⟩
  obtain ⟨d, hd, hnot⟩ := h x begun hs
  exact hnot (hname d hd)

/-- **Macros in two texts** without a head in the first: one joins them, or it is in the second. -/
theorem holds_append_iff (h : NoHead names s) :
    Holds names (s ++ t) ↔ JoinsTo names s t ∨ Holds names t := by
  constructor
  · rintro ⟨u, hu, hcomplete⟩
    rcases suffix_append_cases hu with hu | ⟨w, hne, ⟨x, rfl⟩, rfl⟩
    · exact .inr ⟨u, hu, hcomplete⟩
    left
    obtain ⟨c, begun, rfl⟩ := List.exists_cons_of_ne_nil hne
    obtain rfl : c = '(' := by simpa using hcomplete.begins.head?_eq
    refine ⟨x, begun, rfl, ?_, hcomplete⟩
    by_contra hends
    simp only [not_forall, exists_prop] at hends
    -- The name would end in the first text, which then has a head itself.
    obtain ⟨name, v, hhead, hn⟩ := begins_iff.mp hcomplete.begins
    rw [head?_append_of_mem hends, Option.map_eq_some_iff] at hhead
    obtain ⟨p, hp, hpv⟩ := hhead
    obtain ⟨rfl, -⟩ := Prod.mk.inj hpv
    exact h.of_append.not_begins (begins_iff.mpr ⟨p.1, p.2, hp, hn⟩)
  · rintro (⟨x, begun, rfl, -, hcomplete⟩ | ⟨u, hu, hcomplete⟩)
    · refine ⟨'(' :: begun ++ t, ?_, hcomplete⟩
      rw [List.append_assoc]
      exact List.suffix_append x _
    · exact ⟨u, hu.trans (List.suffix_append s t), hcomplete⟩

/-- A search finds the macros that a text holds. -/
theorem find?_eq_none_of_not_holds (h : ¬ Holds names t) : find? names t = none := by
  cases hfind : find? names t with
  | none => rfl
  | some p =>
    obtain ⟨b, m, u⟩ := p
    obtain ⟨-, ⟨hm, hn⟩, rfl⟩ := find?_eq_some_iff.mp hfind
    exact absurd ⟨m.source ++ u, List.suffix_append b _,
      complete_iff.mpr ⟨m, u, read?_source_append hm u, hn⟩⟩ h

/-- In a text that closes what it opens, no macro is found exactly if it holds none. -/
theorem find?_eq_none_iff_not_holds (hclosed : Closes t) :
    find? names t = none ↔ ¬ Holds names t :=
  ⟨fun h => (hclosed.noHead h).not_holds, find?_eq_none_of_not_holds⟩

end Invocation

open Invocation

/-! ### Joints -/

variable {α : Type}

/-- Where the items are taken out, the text before one of them joins what is left behind it. -/
def Cuts.Joins (names : List Text) (cs : Cuts α) : Prop :=
  ∃ front c behind, cs.items = front ++ c :: behind ∧ JoinsTo names c.before (Cuts.without ⟨behind, cs.tail⟩)

theorem Cuts.not_joins_nil {names : List Text} (tail : Text) : ¬ Cuts.Joins names (⟨[], tail⟩ : Cuts α) := by
  rintro ⟨front, c, behind, h, -⟩
  exact List.append_ne_nil_of_right_ne_nil front (List.cons_ne_nil c behind) h.symm

/-- **Texts join at the first cut or at a later one.** -/
theorem Cuts.joins_cons_iff {names : List Text} {c : Cut α} {items : List (Cut α)} {tail : Text} :
    Cuts.Joins names ⟨c :: items, tail⟩ ↔
      JoinsTo names c.before (Cuts.without ⟨items, tail⟩) ∨ Cuts.Joins names ⟨items, tail⟩ := by
  constructor
  · rintro ⟨front, d, behind, h, hjoint⟩
    cases front with
    | nil =>
      obtain ⟨rfl, rfl⟩ := List.cons.inj h
      exact .inl hjoint
    | cons e front => exact .inr ⟨front, d, behind, (List.cons.inj h).2, hjoint⟩
  · rintro (hjoint | ⟨front, d, behind, h, hjoint⟩)
    · exact ⟨[], c, items, rfl, hjoint⟩
    · exact ⟨c :: front, d, behind, congrArg (c :: ·) h, hjoint⟩

/-- **No macro joins** where all texts before items are sealed. -/
theorem Cuts.not_joins_of_sealed {names : List Text} {cs : Cuts α} (h : ∀ c ∈ cs.items, Sealed c.before) :
    ¬ cs.Joins names := by
  rintro ⟨front, c, behind, hitems, hjoint⟩
  have hmem : c ∈ cs.items := by
    rw [hitems]
    exact List.mem_append_right front List.mem_cons_self
  exact (h c hmem).not_joinsTo hjoint

namespace Finder

variable (F : Finder α) {names : List Text}
  (hsome : ∀ {t b a u}, F.find? t = some (b, a, u) → NoHead names b)
  (hnone : ∀ {t}, F.find? t = none → Closes t → NoHead names t)

include hsome hnone

/-- **What is left holds a macro** where one joins, and nowhere else. -/
theorem holds_without_iff {t : Text} (h : Closes t) :
    Holds names (F.cuts t).without ↔ (F.cuts t).Joins names := by
  induction hn : t.length using Nat.strongRecOn generalizing t with
  | ind n ih =>
    subst hn
    cases hfind : F.find? t with
    | none =>
      rw [F.without_cuts_of_eq_none hfind, F.cuts_of_find?_eq_none hfind]
      exact iff_of_false (hnone hfind h).not_holds (Cuts.not_joins_nil t)
    | some p =>
      obtain ⟨b, a, u⟩ := p
      have hu : Closes u := by
        rw [F.eq_append hfind] at h
        exact h.of_append.of_append
      rw [F.without_cuts_of_eq_some hfind, holds_append_iff (hsome hfind),
        ih u.length (F.length_lt hfind) hu rfl, F.cuts_of_find?_eq_some hfind, Cuts.joins_cons_iff]

end Finder

/-! ### Assignments and orphans -/

theorem closes_stripSets {t : Text} (h : Closes t) : Closes (stripSets t) := by
  have hreadable := (Invocation.finder setNames).forall_mem_cuts (P := fun c => c.item.Readable)
    (fun hfind => (find?_eq_some_iff.mp hfind).2.1.1) t
  rw [← (Invocation.finder setNames).render_cuts t] at h
  exact Cuts.atOpeners_render (b := .round) (g := fun _ => [])
    (fun c hc n => (hreadable c hc).balanced_source.depth?_eq n) (fun _ _ => List.not_mem_nil) h

/-- **Enough passes** remove all orphans that are found. -/
theorem removeOrphans_eq_without {limit : Nat} {t : Text} (h : t.count '(' ≤ limit) :
    removeOrphans limit t = (Orphan.finder.cuts t).without := by
  induction limit generalizing t with
  | zero =>
    have hnone : NoHead Orphan.names t :=
      noHead_of_not_mem (List.count_eq_zero.mp (Nat.le_zero.mp h))
    rw [removeOrphans_zero, Orphan.finder.without_cuts_of_eq_none (Orphan.find?_eq_none hnone)]
  | succ limit ih =>
    cases hfind : Orphan.finder.find? t with
    | none => rw [removeOrphans_of_eq_none hfind, Orphan.finder.without_cuts_of_eq_none hfind]
    | some p =>
      obtain ⟨b, o, u⟩ := p
      have hone : 1 ≤ (Orphan.finder.source o).count '(' :=
        List.count_pos_iff.mpr (List.mem_append_left _ List.mem_cons_self)
      rw [Orphan.finder.eq_append hfind, List.count_append, List.count_append] at h
      rw [removeOrphans_of_eq_some hfind, Orphan.finder.without_cuts_of_eq_some hfind, ih (by omega)]

/-- **Macros left behind.** In a text that closes its parentheses, the pass that takes out assignments
leaves one where one joins, and only there does it change its own result. With passes for all parentheses,
what is left without orphans holds a macro of theirs where one joins, and it stays as it is where none does.
-/
theorem sweeps_complete_iff (t : Text) (limit : Nat) (h : Closes t) (hlimit : t.count '(' ≤ limit) :
    ((Holds setNames (stripSets t) ↔ ((Invocation.finder setNames).cuts t).Joins setNames) ∧
      (stripSets (stripSets t) = stripSets t ↔ ¬ ((Invocation.finder setNames).cuts t).Joins setNames)) ∧
    (Holds Orphan.names (removeOrphans limit t) ↔ (Orphan.finder.cuts t).Joins Orphan.names) ∧
      (¬ (Orphan.finder.cuts t).Joins Orphan.names →
        removeOrphans limit (removeOrphans limit t) = removeOrphans limit t) := by
  have hset : Holds setNames (stripSets t) ↔ ((Invocation.finder setNames).cuts t).Joins setNames :=
    (Invocation.finder setNames).holds_without_iff (fun hfind => (find?_eq_some_iff.mp hfind).1)
      (fun hfind hclosed => hclosed.noHead hfind) h
  have horphan : Holds Orphan.names (removeOrphans limit t) ↔ (Orphan.finder.cuts t).Joins Orphan.names := by
    rw [removeOrphans_eq_without hlimit]
    refine Orphan.finder.holds_without_iff (fun hfind => ?_) (fun hfind hclosed => ?_) h
    · obtain ⟨v, hv⟩ := Orphan.exists_find? hfind
      exact (find?_eq_some_iff.mp hv).1
    · exact hclosed.noHead (Orphan.find?_eq_none_iff.mp hfind)
  refine ⟨⟨hset, ?_⟩, horphan, fun hnot => removeOrphans_of_eq_none ?_ limit⟩
  · have hclosed := closes_stripSets h
    rw [← hset]
    exact (Invocation.finder setNames).without_cuts_eq_self_iff.trans (find?_eq_none_iff_not_holds hclosed)
  · rw [Orphan.find?_eq_none_iff]
    exact find?_eq_none_of_not_holds (mt horphan.mp hnot)

/-- Nothing joins where no text before a macro ends inside of a name. -/
theorem sweeps_complete_between :
    let t := "a (set: $x to (1))b (else-if: $x)[c (set: $x to 2)](else:) d".toList
    (¬ Holds setNames (stripSets t) ∧ stripSets (stripSets t) = stripSets t) ∧
      ¬ Holds Orphan.names (removeOrphans 8 t) ∧ removeOrphans 8 (removeOrphans 8 t) = removeOrphans 8 t := by
  intro t
  have hset : ¬ ((Invocation.finder setNames).cuts t).Joins setNames :=
    Cuts.not_joins_of_sealed (by decide +kernel)
  have horphan : ¬ (Orphan.finder.cuts t).Joins Orphan.names := Cuts.not_joins_of_sealed (by decide +kernel)
  obtain ⟨⟨hsets, hagain⟩, horphans, horphansAgain⟩ :=
    sweeps_complete_iff t 8 (by decide +kernel) (by decide +kernel)
  exact ⟨⟨mt hsets.mp hset, hagain.mpr hset⟩, mt horphans.mp horphan, horphansAgain horphan⟩

/-- The front of a name before a macro and the rest of it behind the macro join. -/
theorem not_sweeps_complete :
    (let t := "(se(set: $x to 1)t: y)".toList;
      Closes t ∧ Holds setNames (stripSets t) ∧ stripSets (stripSets t) ≠ stripSets t) ∧
    let t := "(el(else:)[x]se: y)".toList
    Closes t ∧ t.count '(' ≤ 10 ∧ Holds Orphan.names (removeOrphans 10 t) ∧
      removeOrphans 10 (removeOrphans 10 t) ≠ removeOrphans 10 t := by
  decide +kernel

end Hyperfiction

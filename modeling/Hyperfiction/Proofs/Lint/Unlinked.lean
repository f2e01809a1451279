import Mathlib.Data.List.Nodup
import Hyperfiction.Lint.Report
import Hyperfiction.Proofs.Lint.Sound

/-!
# Passages that nothing leads to

A passage of a story is **forgotten** when the story does not open with it and no link of any record leads to
it (`Story.Forgotten`). The check tells of passages that are never linked to, each of them once
(`Lint.count_unlinked`); but it looks at names, and at the first record of each. So a forgotten passage is not
told if a header or footer of its name stands before it (`Lint.FramedFirst`), and the passage that the story
opens with is told if the check takes another name, or none, for the opening (`Lint.OpeningKnown`). Apart from
these two the check tells of the forgotten passages and of no others (`tells_forgotten_iff`).
-/

namespace Hyperfiction

namespace Problem

/-! ### Warnings and their texts -/

/-- A text that is put together ends as its last part does. -/
private theorem getLast?_of_append {t u v : Text} {c d : Char} (hu : u.getLast? = some c)
    (hv : v.getLast? = some d) (h : t ++ u = v) : c = d := by
  rw [← h, List.getLast?_append, hu, Option.some_or] at hv
  exact Option.some.inj hv

/-- A warning with the text of a passage that is never linked to is that warning. -/
theorem eq_unlinked_of_message {p : Problem} {name : Text} (hp : p.severity = .warning)
    (h : p.message = (unlinked name).message) : p = unlinked name := by
  have hlast : (unlinked name).message.getLast? = some 'o' := by
    have hend : " is never linked to".toList.getLast? = some 'o' := by decide +kernel
    exact (List.getLast?_append ..).trans (by rw [hend, Option.some_or])
  -- The four texts of warnings end in different letters.
  cases p with
  | repeated other count =>
    have hend : " times; the last definition wins".toList.getLast? = some 's' := by decide +kernel
    exact absurd (getLast?_of_append hend hlast h) (by decide)
  | emptyBody other =>
    have hend : " has an empty body".toList.getLast? = some 'y' := by decide +kernel
    exact absurd (getLast?_of_append hend hlast h) (by decide)
  | assumedStart other =>
    have hend : (quoted other).getLast? = some '\'' := List.getLast?_concat
    exact absurd (getLast?_of_append hend hlast h) (by decide)
  | unlinked other =>
    have hquoted : '\'' :: other ++ ['\''] = '\'' :: name ++ ['\''] :=
      List.append_cancel_left (List.append_cancel_right h)
    have hnames : '\'' :: other = '\'' :: name := List.append_cancel_right hquoted
    rw [List.tail_eq_of_cons_eq hnames]
  | _ => cases hp

end Problem

namespace Lint

variable {config : StoryConfig} {records : List PassageRecord} {name : Text}

/-- As often as a warning of an unlinked passage is told, it is among the problems. -/
theorem count_messages (problems : List Problem) (name : Text) :
    (messages .warning problems).count (Problem.unlinked name).message =
      problems.count (.unlinked name) := by
  rw [messages, List.count_eq_countP, List.countP_map, List.countP_filter, List.count_eq_countP]
  refine List.countP_congr fun p _ => ?_
  simp only [Function.comp_apply, Bool.and_eq_true, beq_iff_eq, decide_eq_true_eq]
  constructor
  · rintro ⟨hmessage, hseverity⟩
    exact Problem.eq_unlinked_of_message hseverity hmessage
  · rintro rfl
    exact ⟨rfl, rfl⟩

/-! ### The first records of names -/

/-- A link of a record leads to the name. -/
def Linked (records : List PassageRecord) (name : Text) : Prop :=
  ∃ p ∈ records, name ∈ targets p

instance (records : List PassageRecord) (name : Text) : Decidable (Linked records name) :=
  inferInstanceAs (Decidable (∃ p ∈ records, _))

/-- The first record with the name is a header or footer. -/
def FramedFirst (config : StoryConfig) (records : List PassageRecord) (name : Text) : Prop :=
  ∃ p, records.find? (·.name == name) = some p ∧ config.frames p

/-- The first record with the name is a passage, which the check does not open the story with, and no link
leads to it. -/
def Told (config : StoryConfig) (records : List PassageRecord) (name : Text) : Prop :=
  (∃ p, records.find? (·.name == name) = some p ∧ config.frames p = false) ∧
    (start config records).1 ≠ some name ∧ ¬ Linked records name

/-- The records that are told to be linked to by none, each with its place. -/
def strays (config : StoryConfig) (records : List PassageRecord) : List (PassageRecord × Nat) :=
  (records.zipIdx.filter fun (p, i) =>
    !((records.take i).map (·.name)).contains p.name && !config.frames p).filter fun (p, _) =>
      some p.name != (start config records).1 && !(records.flatMap targets).contains p.name

theorem unlinked_eq (config : StoryConfig) (records : List PassageRecord) :
    unlinked config records = (strays config records).map fun (p, _) => .unlinked p.name := rfl

/-- A record is told of if it is the first of its name, frames nothing, opens nothing and is linked from
nowhere. -/
theorem mem_strays {p : PassageRecord} {i : Nat} :
    (p, i) ∈ strays config records ↔ records[i]? = some p ∧
      (∀ q ∈ records.take i, q.name ≠ p.name) ∧ config.frames p = false ∧
      (start config records).1 ≠ some p.name ∧ ¬ Linked records p.name := by
  simp only [strays, List.mem_filter, List.mem_zipIdx_iff_getElem?, Linked]
  grind

/-- No two records that are told have one name. -/
theorem pairwise_strays (config : StoryConfig) (records : List PassageRecord) :
    (strays config records).Pairwise fun a b => a.1.name ≠ b.1.name := by
  have hplaces : records.zipIdx.Pairwise fun a b => a.2 < b.2 := by
    have hrange := List.pairwise_lt_range' (s := 0) (n := records.length)
    rwa [← List.zipIdx_map_snd, List.pairwise_map] at hrange
  have hstrays : (strays config records).Pairwise fun a b => a.2 < b.2 :=
    (hplaces.filter _).filter _
  refine hstrays.imp_of_mem fun {a b} ha hb hlt => ?_
  -- The earlier record stands before the later one, which is the first of its name.
  obtain ⟨hget, -⟩ := mem_strays.mp ha
  obtain ⟨-, hfirst, -⟩ := mem_strays.mp hb
  exact hfirst a.1 (List.mem_of_getElem? (by rwa [List.getElem?_take_of_lt hlt]))

/-- A name is told of if one of the records told of has it. -/
theorem exists_mem_strays : (∃ e ∈ strays config records, e.1.name = name) ↔ Told config records name := by
  constructor
  · rintro ⟨⟨p, i⟩, hmem, rfl⟩
    obtain ⟨hget, hfirst, hframes, hopening, hlinked⟩ := mem_strays.mp hmem
    refine ⟨⟨p, ?_, hframes⟩, hopening, hlinked⟩
    obtain ⟨hi, rfl⟩ := List.getElem?_eq_some_iff.mp hget
    refine List.find?_eq_some_iff_getElem.mpr ⟨beq_self_eq_true _, i, hi, rfl, fun j hj => ?_⟩
    have hmem : records[j] ∈ records.take i :=
      List.mem_of_getElem? (i := j) (by rw [List.getElem?_take_of_lt hj, List.getElem?_eq_getElem])
    simpa using hfirst _ hmem
  · rintro ⟨⟨p, hfind, hframes⟩, hopening, hlinked⟩
    obtain ⟨hname, i, hi, rfl, hbefore⟩ := List.find?_eq_some_iff_getElem.mp hfind
    obtain rfl : records[i].name = name := by simpa using hname
    refine ⟨(records[i], i), mem_strays.mpr ⟨List.getElem?_eq_getElem hi, fun q hq => ?_, hframes,
      hopening, hlinked⟩, rfl⟩
    obtain ⟨j, hj, rfl⟩ := List.mem_take_iff_getElem.mp hq
    simpa using hbefore j (by omega)

/-- **Each name that is told is told once**, and what else the check tells is something else. -/
theorem count_unlinked (config : StoryConfig) (records : List PassageRecord) (name : Text)
    [Decidable (Told config records name)] :
    (lint config records).count (.unlinked name) = if Told config records name then 1 else 0 := by
  have hrepeated : .unlinked name ∉ repeatedNames records := by simp [repeatedNames]
  have hrecords : .unlinked name ∉ records.flatMap (ofRecord (records.map (·.name))) := by
    simp [ofRecord]
  have hstart : .unlinked name ∉ (start config records).2 := by
    rw [start]
    grind
  have hnone : Problem.unlinked name ∉
      if (Story.navigable config records).isEmpty then [Problem.noPassages] else [] := by
    grind
  rw [lint, List.count_append, List.count_append, List.count_append, List.count_append,
    List.count_eq_zero_of_not_mem hrepeated, List.count_eq_zero_of_not_mem hrecords,
    List.count_eq_zero_of_not_mem hstart, List.count_eq_zero_of_not_mem hnone]
  have hnodup : (unlinked config records).Nodup := by
    rw [unlinked_eq, List.Nodup, List.pairwise_map]
    exact (pairwise_strays config records).imp fun hne heq => hne (Problem.unlinked.inj heq)
  have hmem : .unlinked name ∈ unlinked config records ↔ Told config records name := by
    rw [← exists_mem_strays, unlinked_eq]
    simp
  rw [hnodup.count]
  simp [hmem]

/-! ### The passage that the story opens with -/

/-- The check knows the passage that the story opens with: the settings name none that cannot be gone to, and
if they name none, then not all records of the name that comes next are headers and footers. -/
def OpeningKnown (config : StoryConfig) (records : List PassageRecord) : Prop :=
  match config.startPassage with
  | some name => ∃ p ∈ Story.navigable config records, p.name = name
  | none => ¬ Hidden config records Story.defaultStart

end Lint

namespace Story

variable {config : StoryConfig} {records : List PassageRecord} {s : Story} {name : Text}

/-- The story opens with the passage that the check takes for the opening, if that can be gone to. -/
theorem start?_of_start (h : ofRecords config records = .ok s)
    (hstart : (Lint.start config records).1 = some name) (hname : s.contains name) :
    s.start? = some name := by
  obtain ⟨hconfig, -, horder, -⟩ := eq_of_ofRecords h
  rw [Lint.start] at hstart
  rw [start?, hconfig]
  cases hconfigured : config.startPassage with
  | some configured =>
    rw [hconfigured] at hstart
    dsimp only at hstart
    split at hstart
    · obtain rfl : configured = name := by simpa using hstart
      simp [Option.filter, hname]
    · cases hstart
  | none =>
    rw [hconfigured] at hstart
    dsimp only at hstart
    split at hstart
    · obtain rfl : defaultStart = name := by simpa using hstart
      simp [hname]
    · rename_i hdefault
      -- No record has the name that comes next, so the first passage opens the story.
      have hmissing : s.contains defaultStart = false := by
        rw [← Bool.not_eq_true, contains_iff h]
        rintro ⟨p, hp, hp'⟩
        exact hdefault (by simpa using ⟨p, (mem_navigable.mp hp).1, hp'⟩)
      simp only [Option.filter_none, hmissing, Bool.false_eq_true, if_false]
      rw [horder, Text.head?_foldl_addTo, List.head?_nil, Option.none_or, List.head?_map]
      cases hfirst : (navigable config records).head? with
      | some p => simpa [hfirst] using hstart
      | none => simp [hfirst] at hstart

/-- **The opening is known** exactly when the check takes a name for it that can be gone to. -/
theorem openingKnown_iff (h : ofRecords config records = .ok s) :
    Lint.OpeningKnown config records ↔
      ∃ name, (Lint.start config records).1 = some name ∧ s.contains name := by
  rw [Lint.OpeningKnown, Lint.start]
  cases config.startPassage with
  | some configured =>
    dsimp only
    rw [← contains_iff h]
    split
    · simp
    · rename_i hmissing
      simp only [reduceCtorEq, false_and, exists_false, iff_false]
      rw [contains_iff h]
      rintro ⟨p, hp, rfl⟩
      exact hmissing (by simpa using ⟨p, (mem_navigable.mp hp).1, rfl⟩)
  | none =>
    dsimp only
    split
    · rename_i hdefault
      rw [← Lint.contains_iff_not_hidden h (by simpa using hdefault)]
      simp
    · rename_i hdefault
      have hshown : ¬ Lint.Hidden config records defaultStart := by
        rintro ⟨⟨p, hp, hname⟩, -⟩
        exact hdefault (by simpa using ⟨p, hp, hname⟩)
      obtain ⟨p, rest, hnavigable⟩ := List.exists_cons_of_ne_nil (navigable_ne_nil_of_ofRecords h)
      refine ⟨fun _ => ⟨p.name, by simp [hnavigable], ?_⟩, fun _ => hshown⟩
      exact (contains_iff h _).mpr ⟨p, by simp [hnavigable], rfl⟩

/-- A passage of the story that the story does not open with and that no link of a record leads to. -/
def Forgotten (s : Story) (records : List PassageRecord) (name : Text) : Prop :=
  s.contains name ∧ s.start? ≠ some name ∧ ¬ Lint.Linked records name

instance (s : Story) (records : List PassageRecord) (name : Text) :
    Decidable (s.Forgotten records name) :=
  inferInstanceAs (Decidable (_ ∧ _))

/-- A name that can be gone to belongs to a first record, which may be a header or footer. -/
theorem exists_first (h : ofRecords config records = .ok s) (hname : s.contains name)
    (hframed : ¬ Lint.FramedFirst config records name) :
    ∃ p, records.find? (·.name == name) = some p ∧ config.frames p = false := by
  obtain ⟨q, hq, hqname⟩ := (contains_iff h name).mp hname
  have hfound : (records.find? (·.name == name)).isSome :=
    List.find?_isSome.mpr ⟨q, (mem_navigable.mp hq).1, by simpa using hqname⟩
  obtain ⟨p, hp⟩ := Option.isSome_iff_exists.mp hfound
  exact ⟨p, hp, by simpa using fun hframes => hframed ⟨p, hp, hframes⟩⟩

/-- A first record that is no header or footer lets its name be gone to. -/
theorem contains_of_first (h : ofRecords config records = .ok s) {p : PassageRecord}
    (hfind : records.find? (·.name == name) = some p) (hframes : config.frames p = false) :
    s.contains name :=
  (contains_iff h name).mpr ⟨p, mem_navigable.mpr ⟨List.mem_of_find?_eq_some hfind, hframes⟩, by
    simpa using List.find?_some hfind⟩

/-- What is told is forgotten, unless it opens the story and the check does not know. -/
theorem told_iff (h : ofRecords config records = .ok s) :
    Lint.Told config records name ↔ s.contains name ∧ ¬ Lint.FramedFirst config records name ∧
      ¬ Lint.Linked records name ∧ (s.start? = some name → ¬ Lint.OpeningKnown config records) := by
  constructor
  · rintro ⟨⟨p, hfind, hframes⟩, hopening, hlinked⟩
    refine ⟨contains_of_first h hfind hframes, ?_, hlinked, fun hstart hknown => ?_⟩
    · rintro ⟨q, hq, hqframes⟩
      obtain rfl : p = q := Option.some.inj (hfind.symm.trans hq)
      rw [hframes] at hqframes
      cases hqframes
    · obtain ⟨other, hother, hcontains⟩ := (openingKnown_iff h).mp hknown
      rw [start?_of_start h hother hcontains] at hstart
      exact hopening (hother.trans hstart)
  · rintro ⟨hname, hframed, hlinked, hopening⟩
    refine ⟨exists_first h hname hframed, fun hstart => ?_, hlinked⟩
    exact hopening (start?_of_start h hstart hname) ((openingKnown_iff h).mpr ⟨name, hstart, hname⟩)

end Story

open Lint in
/-- **The check tells of the forgotten passages**, of each once and of no other, except that it is silent about
one that has a header or footer of its name before it, and that it tells of the passage that the story opens
with if the opening is not known, unless a link leads there or a header or footer of its name stands before
it. -/
theorem tells_forgotten_iff {config : StoryConfig} {records : List PassageRecord} {s : Story}
    (h : Story.ofRecords config records = .ok s) (name : Text) :
    (messages .warning (lint config records)).count (Problem.unlinked name).message =
        (if s.Forgotten records name then 1 else 0) ↔
      (s.Forgotten records name → ¬ FramedFirst config records name) ∧
      (s.start? = some name →
        OpeningKnown config records ∨ Linked records name ∨ FramedFirst config records name) := by
  classical
  rw [count_messages, count_unlinked]
  have htold : (if Told config records name then 1 else 0) =
      (if s.Forgotten records name then 1 else 0) ↔
      (Told config records name ↔ s.Forgotten records name) := by
    split <;> split <;> simp_all
  have hstart : s.start? = some name → s.contains name := by
    intro hname
    obtain ⟨other, hother, hcontains⟩ := Story.exists_start? h
    obtain rfl : other = name := Option.some.inj (hother.symm.trans hname)
    exact hcontains
  rw [htold, Story.told_iff h]
  constructor
  · intro hsame
    refine ⟨fun hforgotten => (hsame.mpr hforgotten).2.1, fun hopens => ?_⟩
    by_contra hnot
    obtain ⟨hknown, hlinked, hframed⟩ : ¬ OpeningKnown config records ∧ ¬ Linked records name ∧
        ¬ FramedFirst config records name := by
      simpa [not_or] using hnot
    exact (hsame.mp ⟨hstart hopens, hframed, hlinked, fun _ => hknown⟩).2.1 hopens
  · rintro ⟨hsilent, hopening⟩
    constructor
    · rintro ⟨hname, hframed, hlinked, hunknown⟩
      refine ⟨hname, fun hopens => ?_, hlinked⟩
      rcases hopening hopens with hknown | hlink | hfirst
      · exact hunknown hopens hknown
      · exact hlinked hlink
      · exact hframed hfirst
    · rintro ⟨hname, hopens, hlinked⟩
      exact ⟨hname, hsilent ⟨hname, hopens, hlinked⟩, hlinked, fun h => absurd h hopens⟩

/-- A passage whose name a footer has too is told when the footer stands behind it, since no link leads to
it. -/
theorem tells_forgotten_iff_behind :
    let records : List PassageRecord := [⟨"Start".toList, [], "Hello.".toList⟩,
      ⟨"Cave".toList, [], "Dark.".toList⟩, ⟨"Cave".toList, ["footer".toList], "Alive.".toList⟩]
    ∃ s, Story.ofRecords {} records = .ok s ∧ s.Forgotten records "Cave".toList ∧
      (Lint.messages .warning (lint {} records)).count
        (Problem.unlinked "Cave".toList).message = 1 := by
  intro records
  obtain ⟨s, hs, hforgotten, hstart⟩ : ∃ s, Story.ofRecords {} records = .ok s ∧
      s.Forgotten records "Cave".toList ∧ s.start? ≠ some "Cave".toList :=
    ⟨_, rfl, by decide +kernel, by decide +kernel⟩
  have hfirst : ¬ Lint.FramedFirst {} records "Cave".toList := by
    rintro ⟨p, hfind, hframes⟩
    obtain rfl : (⟨"Cave".toList, [], "Dark.".toList⟩ : PassageRecord) = p := Option.some.inj hfind
    exact absurd hframes (by decide +kernel)
  refine ⟨s, hs, hforgotten, ?_⟩
  rw [(tells_forgotten_iff hs "Cave".toList).mpr ⟨fun _ => hfirst, fun h => absurd h hstart⟩,
    if_pos hforgotten]

/-- A passage that nothing leads to is not told when a header of its name stands before it; and the passage
that the story opens with is told when only a header has the name that comes next for the opening. -/
theorem forgotten_not_told :
    (let records : List PassageRecord := [⟨"Start".toList, [], "Hello.".toList⟩,
        ⟨"Cave".toList, ["header".toList], "Alive.".toList⟩, ⟨"Cave".toList, [], "Dark.".toList⟩]
      ∃ s, Story.ofRecords {} records = .ok s ∧ s.Forgotten records "Cave".toList ∧
        (Lint.messages .warning (lint {} records)).count
          (Problem.unlinked "Cave".toList).message = 0) ∧
      let records : List PassageRecord := [⟨"Intro".toList, [], "Hello.".toList⟩,
        ⟨"Start".toList, ["header".toList], "Alive.".toList⟩]
      ∃ s, Story.ofRecords {} records = .ok s ∧ s.start? = some "Intro".toList ∧
        (Lint.messages .warning (lint {} records)).count
          (Problem.unlinked "Intro".toList).message = 1 := by
  exact ⟨⟨_, rfl, by decide +kernel, by decide +kernel⟩, _, rfl, by decide +kernel, by decide +kernel⟩

end Hyperfiction

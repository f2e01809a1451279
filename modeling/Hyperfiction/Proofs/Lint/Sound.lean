import Hyperfiction.Lint.Basic
import Hyperfiction.Proofs.Story.Tables

/-!
# What a check of a story promises

Records that are checked without errors make a story, if the filters of its settings can be read
(`Lint.Passes.exists_story`). All names that links lead to are names of records then, and so is the name of
the passage that the settings open with. But the check does not ask whether such a record is a header or a
footer, which cannot be gone to: a name of records is **hidden** when only headers and footers have it, and
exactly then a link does not lead to a passage, or the settings are not followed
(`exists_story_of_passes`).
-/

namespace Hyperfiction

namespace Story

variable {config : StoryConfig} {records : List PassageRecord} {s : Story}

/-! ### The passages of a story -/

/-- **The settings are followed** exactly when the passage that they open with can be gone to. -/
theorem start?_eq_iff (h : ofRecords config records = .ok s) {name : Text}
    (hstart : config.startPassage = some name) : s.start? = some name ↔ s.contains name := by
  rw [start?, (eq_of_ofRecords h).1, hstart]
  by_cases hname : s.contains name
  · simp [Option.filter, hname]
  · -- Then the story opens with a passage that can be gone to, which is another one.
    simp only [Option.filter, hname, Bool.false_eq_true, if_false, iff_false]
    split
    · rename_i hdefault
      intro heq
      obtain rfl : defaultStart = name := by simpa using heq
      exact hname hdefault
    · intro hhead
      exact hname ((mem_order_iff h name).mp (List.mem_of_head? hhead))

end Story

namespace Lint

variable {config : StoryConfig} {records : List PassageRecord}

/-! ### Names that the check accepts -/

/-- The check of the records finds no errors. -/
def Passes (config : StoryConfig) (records : List PassageRecord) : Prop :=
  ∀ problem ∈ lint config records, problem.severity ≠ .error

instance (config : StoryConfig) (records : List PassageRecord) : Decidable (Passes config records) :=
  inferInstanceAs (Decidable (∀ problem ∈ lint config records, _))

/-- Headers and footers have the name, and no other records. -/
def Hidden (config : StoryConfig) (records : List PassageRecord) (name : Text) : Prop :=
  (∃ p ∈ records, p.name = name) ∧ ∀ p ∈ records, p.name = name → config.frames p

instance (config : StoryConfig) (records : List PassageRecord) (name : Text) :
    Decidable (Hidden config records name) :=
  inferInstanceAs (Decidable (_ ∧ _))

namespace Passes

/-- A story that passes has a passage to show. -/
theorem navigable_ne_nil (h : Passes config records) : Story.navigable config records ≠ [] := by
  intro hnil
  refine h .noPassages ?_ rfl
  simp [lint, hnil]

/-- A link leads to the name of a record. -/
theorem exists_of_target (h : Passes config records) {p : PassageRecord} (hp : p ∈ records)
    {target : Text} (ht : target ∈ targets p) : ∃ q ∈ records, q.name = target := by
  by_cases hname : ∃ q ∈ records, q.name = target
  · exact hname
  · have hproblem : .missingTarget p.name target ∈ ofRecord (records.map (·.name)) p := by
      simpa [ofRecord, ht] using hname
    refine absurd rfl (h (.missingTarget p.name target) ?_)
    simp only [lint, List.mem_append, List.mem_flatMap]
    exact .inl (.inl (.inl (.inr ⟨p, hp, hproblem⟩)))

/-- The settings open the story with the name of a record. -/
theorem exists_of_start (h : Passes config records) {name : Text}
    (hstart : config.startPassage = some name) : ∃ q ∈ records, q.name = name := by
  by_cases hname : ∃ q ∈ records, q.name = name
  · exact hname
  · have hproblem : .missingStart name ∈ (start config records).2 := by
      simp [start, hstart, hname]
    refine absurd rfl (h (.missingStart name) ?_)
    simp only [lint, List.mem_append]
    exact .inl (.inl (.inr hproblem))

/-- There is a story if the filters of its settings can be read. -/
theorem exists_story (h : Passes config records) {compiler : Compiler}
    (hfilters : Compiler.ofConfig config = .ok compiler) :
    ∃ s, Story.ofRecords config records = .ok s :=
  Story.exists_ofRecords hfilters h.navigable_ne_nil

end Passes

/-- A name of records can be gone to unless all of them are headers and footers. -/
theorem contains_iff_not_hidden {s : Story} (hs : Story.ofRecords config records = .ok s) {name : Text}
    (hname : ∃ q ∈ records, q.name = name) : s.contains name ↔ ¬ Hidden config records name := by
  have hshown : s.contains name ↔ ∃ p ∈ records, p.name = name ∧ ¬ config.frames p := by
    rw [Story.contains_iff hs]
    refine exists_congr fun p => ?_
    rw [Story.navigable, List.mem_filter, Bool.not_eq_true', Bool.not_eq_true, and_assoc,
      and_comm (a := p.name = name)]
  rw [hshown, Hidden, and_iff_right hname]
  simp

end Lint

/-- **A check without errors promises a story**, in which a link of a passage leads to a passage, and that
opens with the passage that the settings name, exactly where not all records of that name are headers and
footers. -/
theorem exists_story_of_passes {config : StoryConfig} {records : List PassageRecord} {compiler : Compiler}
    (hfilters : Compiler.ofConfig config = .ok compiler) (hpasses : Lint.Passes config records) :
    ∃ s, Story.ofRecords config records = .ok s ∧
      (∀ p ∈ Story.navigable config records, ∀ target ∈ Lint.targets p,
        s.contains target ↔ ¬ Lint.Hidden config records target) ∧
      ∀ name, config.startPassage = some name →
        (s.start? = some name ↔ ¬ Lint.Hidden config records name) := by
  obtain ⟨s, hs⟩ := hpasses.exists_story hfilters
  refine ⟨s, hs, fun p hp target ht => ?_, fun name hstart => ?_⟩
  · have hp' : p ∈ records := (List.mem_filter.mp hp).1
    exact Lint.contains_iff_not_hidden hs (hpasses.exists_of_target hp' ht)
  · rw [Story.start?_eq_iff hs hstart]
    exact Lint.contains_iff_not_hidden hs (hpasses.exists_of_start hstart)

/-- A story with a status line as its header passes the check, and its link leads to a passage. -/
theorem exists_story_of_passes_header :
    let records : List PassageRecord := [⟨"Start".toList, [], "[[Cave]]".toList⟩,
      ⟨"Cave".toList, [], "Dark.".toList⟩, ⟨"Status".toList, ["header".toList], "Alive.".toList⟩]
    let config : StoryConfig := { startPassage := some "Cave".toList }
    ∃ s, Story.ofRecords config records = .ok s ∧ s.contains "Cave".toList ∧
      s.start? = some "Cave".toList := by
  intro records config
  have hfilters : Compiler.ofConfig config = .ok ⟨[], config.limits.effective⟩ := rfl
  have hpasses : Lint.Passes config records := by decide +kernel
  have hshown : ¬ Lint.Hidden config records "Cave".toList := by decide +kernel
  obtain ⟨s, hs, htargets, hstart⟩ := exists_story_of_passes hfilters hpasses
  exact ⟨s, hs, (htargets ⟨"Start".toList, [], "[[Cave]]".toList⟩ (by decide +kernel) _
    (by decide +kernel)).mpr hshown, (hstart _ rfl).mpr hshown⟩

/-- The name of a header is accepted as the target of a link and as the passage to open with, and the
story has no such passage. -/
theorem hidden_target_passes :
    let records : List PassageRecord := [⟨"Start".toList, [], "[[Status]]".toList⟩,
      ⟨"Status".toList, ["header".toList], "Alive.".toList⟩]
    let config : StoryConfig := { startPassage := some "Status".toList }
    Lint.Passes config records ∧ ∃ s, Story.ofRecords config records = .ok s ∧
      ¬ s.contains "Status".toList ∧ s.start? = some "Start".toList := by
  refine ⟨by decide +kernel, _, rfl, by decide +kernel, by decide +kernel⟩

end Hyperfiction

import Mathlib.Data.List.Induction
import Hyperfiction.Proofs.Fallible
import Hyperfiction.Proofs.Table
import Hyperfiction.Story.Play

/-!
# The tables of a story

A story is made from its records one after the other, and its tables have to agree whatever names and tags
these have. There is no story exactly when all records are headers and footers
(`Story.ofRecords_eq_noPassages_iff`). Otherwise each name of a record that is neither is told once, at the
place of the first such record (`Story.pairwise_firstPlace`), and means the last one
(`Story.get?_passages_iff`); and the story opens with one of them. `Story.tables_agree` puts this together.

The table of tags is the exception. It has the tags of all records, so a header or footer that bears the
name of a passage and stands behind it has its tags put in their place: a question about the tags of
visited passages is answered for it and not for the passage (`Story.tags_passage_iff`).
-/

namespace Hyperfiction

/-! ### Texts added once -/

namespace Text

theorem mem_addTo {ts : List Text} {t u : Text} : u ∈ addTo ts t ↔ u ∈ ts ∨ u = t := by
  rw [addTo]
  split <;> grind

theorem mem_foldl_addTo (added ts : List Text) (t : Text) :
    t ∈ added.foldl addTo ts ↔ t ∈ ts ∨ t ∈ added := by
  induction added generalizing ts with
  | nil => simp
  | cons a added ih => rw [List.foldl_cons, ih, mem_addTo, List.mem_cons, or_assoc]

/-- What is there first stays first. -/
theorem head?_foldl_addTo (added ts : List Text) :
    (added.foldl addTo ts).head? = ts.head?.or added.head? := by
  induction added generalizing ts with
  | nil => simp
  | cons a added ih =>
    rw [List.foldl_cons, ih, addTo]
    split
    · rename_i hthere
      obtain ⟨t, rest, rfl⟩ := List.exists_cons_of_ne_nil (List.ne_nil_of_mem (by simpa using hthere))
      rfl
    · cases ts <;> rfl

end Text

/-! ### Filters that can be read -/

namespace Filter

/-- Rules are read when each of them is. -/
theorem exists_ofRules {rules : List FilterRule} (h : ∀ rule ∈ rules, ∃ f, ofRule rule = .ok f) :
    ∃ fs, ofRules rules = .ok fs := by
  induction rules with
  | nil => exact ⟨[], rfl⟩
  | cons rule rules ih =>
    obtain ⟨f, hf⟩ := h rule List.mem_cons_self
    obtain ⟨fs, hfs⟩ := ih fun rule hrule => h rule (List.mem_cons_of_mem _ hrule)
    refine ⟨f :: fs, ?_⟩
    rw [ofRules, List.mapM_cons]
    exact bind_eq_ok_iff.mpr ⟨f, hf, bind_eq_ok_iff.mpr ⟨fs, hfs, rfl⟩⟩

end Filter

namespace Story

variable {config : StoryConfig} {records : List PassageRecord} {s : Story}

/-! ### When there is a story -/

/-- A record is navigable if it does not frame the others. -/
theorem mem_navigable {p : PassageRecord} :
    p ∈ navigable config records ↔ p ∈ records ∧ config.frames p = false := by
  simp [navigable]

/-- None is navigable if all frame the others. -/
theorem navigable_eq_nil_iff : navigable config records = [] ↔ ∀ p ∈ records, config.frames p := by
  simp [navigable]

/-- There is a story unless all records are headers and footers or a filter cannot be read. -/
theorem exists_ofRecords {compiler : Compiler} (hfilters : Compiler.ofConfig config = .ok compiler)
    (hshown : navigable config records ≠ []) : ∃ s, ofRecords config records = .ok s := by
  have hne : (navigable config records).isEmpty = false := by simpa using hshown
  simp only [ofRecords, hne, hfilters]
  exact ⟨_, rfl⟩

/-- **No passages** is told exactly of records that are all headers and footers, before any filter is
read. -/
theorem ofRecords_eq_noPassages_iff :
    ofRecords config records = .error .noPassages ↔ ∀ p ∈ records, config.frames p := by
  rw [← navigable_eq_nil_iff]
  constructor
  · intro h
    by_contra hne
    have hshown : (navigable config records).isEmpty = false := by simpa using hne
    simp only [ofRecords, hshown] at h
    cases hcompiler : Compiler.ofConfig config <;> rw [hcompiler] at h <;> cases h
  · intro h
    have hshown : (navigable config records).isEmpty = true := by simpa using h
    simp only [ofRecords, hshown]
    rfl

/-- The tables of a story are the ones of its records. -/
theorem eq_of_ofRecords (h : ofRecords config records = .ok s) :
    s.config = config ∧
      s.passages = Table.ofList ((navigable config records).map fun p => (p.name, p)) ∧
      s.order = ((navigable config records).map (·.name)).foldl Text.addTo [] ∧
      s.header? = records.find? (fun p => p.hasTag config.headerTag) ∧
      s.footer? = records.find?
        (fun p => !p.hasTag config.headerTag && p.hasTag config.footerTag) ∧
      s.tags = Table.ofList (records.map fun p => (p.name, p.tags)) := by
  simp only [ofRecords] at h
  split at h
  · exact absurd h (throw_ne_ok _ _)
  · obtain ⟨compiler, -, h⟩ := bind_eq_ok_iff.mp h
    obtain rfl := pure_eq_ok_iff.mp h
    exact ⟨rfl, rfl, rfl, rfl, rfl, rfl⟩

theorem navigable_ne_nil_of_ofRecords (h : ofRecords config records = .ok s) :
    navigable config records ≠ [] := by
  intro hnil
  rw [ofRecords_eq_noPassages_iff.mpr (navigable_eq_nil_iff.mp hnil)] at h
  cases h

/-! ### The names of a story -/

/-- **A name can be gone to** when a record has it that is no header or footer. -/
theorem contains_iff (h : ofRecords config records = .ok s) (name : Text) :
    s.contains name ↔ ∃ p ∈ navigable config records, p.name = name := by
  rw [contains, (eq_of_ofRecords h).2.1, Table.contains_ofList_iff]
  simp

/-- The order names the passages of the story. -/
theorem mem_order_iff (h : ofRecords config records = .ok s) (name : Text) :
    name ∈ s.order ↔ s.contains name := by
  rw [contains_iff h, (eq_of_ofRecords h).2.2.1, Text.mem_foldl_addTo]
  simp

/-- The place of the first record of a name that is no header or footer. -/
def firstPlace (config : StoryConfig) (records : List PassageRecord) (name : Text) : Nat :=
  records.findIdx fun p => !config.frames p && p.name == name

/-- What stands behind the records leaves the places of their names as they are. -/
private theorem firstPlace_append {name : Text}
    (h : ∃ p ∈ navigable config records, p.name = name) (more : List PassageRecord) :
    firstPlace config (records ++ more) name = firstPlace config records name := by
  obtain ⟨p, hp, hname⟩ := h
  obtain ⟨hmem, hframes⟩ := mem_navigable.mp hp
  have hlt : firstPlace config records name < records.length :=
    List.findIdx_lt_length_of_exists ⟨p, hmem, by simp [hframes, hname]⟩
  rw [firstPlace, List.findIdx_append]
  exact if_pos hlt

/-- A name has its first place among the records. -/
private theorem firstPlace_lt {name : Text} (h : ∃ p ∈ navigable config records, p.name = name) :
    firstPlace config records name < records.length := by
  obtain ⟨p, hp, hname⟩ := h
  obtain ⟨hmem, hframes⟩ := mem_navigable.mp hp
  exact List.findIdx_lt_length_of_exists ⟨p, hmem, by simp [hframes, hname]⟩

/-- The names that the records can be gone to by, each at its first place. -/
def names (config : StoryConfig) (records : List PassageRecord) : List Text :=
  ((navigable config records).map (·.name)).foldl Text.addTo []

theorem mem_names {name : Text} :
    name ∈ names config records ↔ ∃ p ∈ navigable config records, p.name = name := by
  rw [names, Text.mem_foldl_addTo]
  simp

/-- One more record adds its name, unless it is a header or footer or the name is there. -/
theorem names_append_singleton (p : PassageRecord) :
    names config (records ++ [p]) =
      if config.frames p then names config records else Text.addTo (names config records) p.name := by
  rw [names, navigable, List.filter_append, ← navigable]
  cases hframes : config.frames p <;> simp [hframes, names]

/-- **Names stand in the order of their first records.** -/
theorem pairwise_firstPlace (config : StoryConfig) (records : List PassageRecord) :
    (names config records).Pairwise fun a b =>
      firstPlace config records a < firstPlace config records b := by
  induction records using List.reverseRecOn with
  | nil => exact List.Pairwise.nil
  | append_singleton records p ih =>
    -- The names that are there keep their places.
    have hkept : (names config records).Pairwise fun a b =>
        firstPlace config (records ++ [p]) a < firstPlace config (records ++ [p]) b := by
      refine ih.imp_of_mem fun {a b} ha hb hab => ?_
      rwa [firstPlace_append (mem_names.mp ha), firstPlace_append (mem_names.mp hb)]
    rw [names_append_singleton]
    split
    · exact hkept
    · rw [Text.addTo]
      split
      · exact hkept
      · rename_i hnew
        refine List.pairwise_append.mpr ⟨hkept, List.pairwise_singleton _ _, fun a ha b hb => ?_⟩
        obtain rfl := List.mem_singleton.mp hb
        -- A new name has no record before the one that is added.
        have hnone : firstPlace config records p.name = records.length := by
          refine List.findIdx_eq_length.mpr fun q hq => ?_
          by_contra hfound
          obtain ⟨hframes, hname⟩ : config.frames q = false ∧ q.name = p.name := by
            simpa using hfound
          exact hnew (mem_names.mpr ⟨q, mem_navigable.mpr ⟨hq, hframes⟩, hname⟩)
        have hlast : records.length ≤ firstPlace config (records ++ [p]) p.name := by
          rw [firstPlace, List.findIdx_append, ← firstPlace, hnone, if_neg (Nat.lt_irrefl _)]
          omega
        rw [firstPlace_append (mem_names.mp ha)]
        exact Nat.lt_of_lt_of_le (firstPlace_lt (mem_names.mp ha)) hlast

/-! ### The records that names mean -/

/-- The record is the last one with its name that is no header or footer. -/
def LastShown (config : StoryConfig) (records : List PassageRecord) (p : PassageRecord) : Prop :=
  ∃ before after, records = before ++ p :: after ∧ config.frames p = false ∧
    ∀ q ∈ after, q.name = p.name → config.frames q

/-- The record is the last one with its name. -/
def LastNamed (records : List PassageRecord) (p : PassageRecord) : Prop :=
  ∃ before after, records = before ++ p :: after ∧ ∀ q ∈ after, q.name ≠ p.name

/-- **A name means the last record** that has it and is no header or footer. -/
theorem get?_passages_iff (h : ofRecords config records = .ok s) {name : Text} {p : PassageRecord} :
    s.passages.get? name = some p ↔ p.name = name ∧ LastShown config records p := by
  rw [(eq_of_ofRecords h).2.1, Table.get?_ofList_eq_some_iff]
  constructor
  · rintro ⟨before, after, heq, hafter⟩
    obtain ⟨shown, rest, hshown, -, hrest⟩ := List.map_eq_append_iff.mp heq
    obtain ⟨q, behind, rfl, hq, rfl⟩ := List.map_eq_cons_iff.mp hrest
    obtain ⟨rfl, rfl⟩ := Prod.mk.inj hq
    obtain ⟨front, back, rfl, -, hback⟩ := List.filter_eq_append_iff.mp hshown
    obtain ⟨skipped, back, rfl, -, hframes, rfl⟩ := List.filter_eq_cons_iff.mp hback
    refine ⟨rfl, front ++ skipped, back, by simp, by simpa using hframes, fun r hr hname => ?_⟩
    by_contra hshown
    refine hafter (r.name, r) ?_ hname
    exact List.mem_map_of_mem (List.mem_filter.mpr ⟨hr, by simpa using hshown⟩)
  · rintro ⟨rfl, before, after, rfl, hframes, hafter⟩
    refine ⟨(navigable config before).map fun q => (q.name, q),
      (navigable config after).map fun q => (q.name, q), ?_, fun e he => ?_⟩
    · simp [navigable, hframes]
    · obtain ⟨q, hq, rfl⟩ := List.mem_map.mp he
      obtain ⟨hmem, hq⟩ := mem_navigable.mp hq
      intro hname
      rw [hafter q hmem hname] at hq
      cases hq

/-- The tags that are looked up for a name are those of the last record that has it. -/
theorem get?_tags_of_lastNamed (h : ofRecords config records = .ok s) {p : PassageRecord}
    (hp : LastNamed records p) : s.tags.get? p.name = some p.tags := by
  obtain ⟨before, after, rfl, hafter⟩ := hp
  rw [(eq_of_ofRecords h).2.2.2.2.2, Table.get?_ofList_eq_some_iff]
  refine ⟨before.map fun q => (q.name, q.tags), after.map fun q => (q.name, q.tags), by simp,
    fun e he => ?_⟩
  obtain ⟨q, hq, rfl⟩ := List.mem_map.mp he
  exact hafter q hq

/-- Of the records of a name one is the last. -/
theorem exists_lastNamed {p : PassageRecord} (hp : p ∈ records) :
    ∃ q, LastNamed records q ∧ q.name = p.name := by
  induction records using List.reverseRecOn with
  | nil => cases hp
  | append_singleton records r ih =>
    by_cases hname : r.name = p.name
    · exact ⟨r, ⟨records, [], rfl, by simp⟩, hname⟩
    · have hmem : p ∈ records := by
        rcases List.mem_append.mp hp with hp | hp
        · exact hp
        · exact absurd (congrArg PassageRecord.name (List.mem_singleton.mp hp)).symm hname
      obtain ⟨q, ⟨before, after, rfl, hafter⟩, hq⟩ := ih hmem
      refine ⟨q, ⟨before, after ++ [r], by simp, fun t ht => ?_⟩, hq⟩
      rcases List.mem_append.mp ht with ht | ht
      · exact hafter t ht
      · rw [List.mem_singleton.mp ht, hq]
        exact hname

/-! ### Opening a story -/

/-- **A story opens with a passage** that can be gone to. -/
theorem exists_start? (h : ofRecords config records = .ok s) :
    ∃ name, s.start? = some name ∧ s.contains name := by
  rw [start?]
  cases hstart : s.config.startPassage.filter s.contains with
  | some name => exact ⟨name, rfl, (Option.filter_eq_some_iff.mp hstart).2⟩
  | none =>
    by_cases hdefault : s.contains defaultStart
    · exact ⟨defaultStart, by simp [hdefault], hdefault⟩
    · obtain ⟨p, hp⟩ := List.exists_mem_of_ne_nil _ (navigable_ne_nil_of_ofRecords h)
      have hmem : p.name ∈ s.order := (mem_order_iff h p.name).mpr ((contains_iff h _).mpr ⟨p, hp, rfl⟩)
      obtain ⟨name, rest, horder⟩ := List.exists_cons_of_ne_nil (List.ne_nil_of_mem hmem)
      refine ⟨name, by simp [hdefault, horder], (mem_order_iff h name).mp ?_⟩
      rw [horder]
      exact List.mem_cons_self

/-- A passage that can be gone to is told, whatever came before. -/
theorem passage_ok {name : Text} (hname : s.contains name) (words : Words)
    (snapshot : Option Snapshot) (visits : Option (List Text)) (play : Play) :
    ∃ p, ((s.passage words name snapshot visits).run play).1 = .ok p := by
  obtain ⟨record, hrecord⟩ := Option.isSome_iff_exists.mp hname
  rw [passage, hrecord]
  dsimp only
  split
  · rw [StateT.run_bind, StateT.run_get, pure_bind]
    cases hkept : play.kept.get? name with
    | some p => exact ⟨p, rfl⟩
    | none => exact ⟨_, rfl⟩
  · exact ⟨_, rfl⟩

/-- The tables of a story agree with the records that it is made from, and with each other. -/
structure TablesAgree (config : StoryConfig) (records : List PassageRecord) (s : Story) : Prop where
  /-- Each name is told once. -/
  nodup : s.order.Nodup
  /-- The names that are told are those that can be gone to. -/
  mem_order : ∀ name, name ∈ s.order ↔ s.contains name
  /-- The names stand in the order of their first records. -/
  ordered : s.order.Pairwise fun a b => firstPlace config records a < firstPlace config records b
  /-- A name means its last record. -/
  passages : ∀ name p, s.passages.get? name = some p ↔ p.name = name ∧ LastShown config records p
  /-- The header is the first record with the tag of headers. -/
  header : ∀ p, s.header? = some p ↔ ∃ before after, records = before ++ p :: after ∧
    p.hasTag config.headerTag ∧ ∀ q ∈ before, ¬ q.hasTag config.headerTag
  /-- The footer is the first record with the tag of footers and not that of headers. -/
  footer : ∀ p, s.footer? = some p ↔ ∃ before after, records = before ++ p :: after ∧
    p.hasTag config.footerTag ∧ ¬ p.hasTag config.headerTag ∧
    ∀ q ∈ before, q.hasTag config.footerTag → q.hasTag config.headerTag
  /-- The story opens with a passage that can be gone to. -/
  start : ∃ name, s.start? = some name ∧ s.contains name
  /-- The passage that it opens with is always told. -/
  opens : ∀ words snapshot visits play,
    ∃ p, ((s.startPassage words snapshot visits).run play).1 = .ok p

/-- Of records that make a story the tables agree. -/
theorem tablesAgree_of_ofRecords (h : ofRecords config records = .ok s) :
    s.TablesAgree config records := by
  obtain ⟨-, -, horder, hheader, hfooter, -⟩ := eq_of_ofRecords h
  have hpairwise : s.order.Pairwise fun a b =>
      firstPlace config records a < firstPlace config records b := by
    rw [horder]
    exact pairwise_firstPlace config records
  obtain ⟨name, hstart, hname⟩ := exists_start? h
  refine ⟨hpairwise.imp fun {a b} hab heq => ?_, mem_order_iff h, hpairwise,
    fun name p => get?_passages_iff h, fun p => ?_, fun p => ?_, ⟨name, hstart, hname⟩,
    fun words snapshot visits play => ?_⟩
  · rw [heq] at hab
    exact Nat.lt_irrefl _ hab
  · rw [hheader, List.find?_eq_some_iff_append]
    grind
  · rw [hfooter, List.find?_eq_some_iff_append]
    grind
  · rw [startPassage, hstart]
    exact passage_ok hname words snapshot visits play

/-- **The tables of every story agree**, and there is a story of all records that are not all headers and
footers, if each filter of the settings can be read; without such records the error is the one for stories
without passages, whatever the filters are. -/
theorem tables_agree (config : StoryConfig) (records : List PassageRecord) :
    (ofRecords config records = .error .noPassages ↔ ∀ p ∈ records, config.frames p) ∧
      ((∀ rule ∈ config.filters, ∃ f, Filter.ofRule rule = .ok f) →
        (∃ p ∈ records, ¬ config.frames p) → ∃ s, ofRecords config records = .ok s) ∧
      ∀ s, ofRecords config records = .ok s → s.TablesAgree config records := by
  refine ⟨ofRecords_eq_noPassages_iff, fun hfilters hshown => ?_, fun s h =>
    tablesAgree_of_ofRecords h⟩
  obtain ⟨filters, hfilters⟩ := Filter.exists_ofRules hfilters
  have hcompiler : Compiler.ofConfig config = .ok ⟨filters, config.limits.effective⟩ := by
    rw [Compiler.ofConfig, hfilters]
    rfl
  obtain ⟨p, hp, hframes⟩ := hshown
  exact exists_ofRecords hcompiler fun hnil => hframes (navigable_eq_nil_iff.mp hnil p hp)

/-- Records with a name that comes back, a header of that name and a record that is header and footer make a
story: the later passage of the name is meant, at the place of the first. -/
theorem tables_agree_repeated :
    let records : List PassageRecord := [⟨"Cave".toList, [], "Dark.".toList⟩,
      ⟨"Bar".toList, ["footer".toList, "header".toList], "1".toList⟩, ⟨"Hall".toList, [], []⟩,
      ⟨"Cave".toList, ["header".toList], "2".toList⟩, ⟨"Cave".toList, [], "Lit.".toList⟩]
    let config : StoryConfig := { filters := [.literal "!".toList] }
    ∃ s, ofRecords config records = .ok s ∧ s.TablesAgree config records ∧
      s.order = ["Cave".toList, "Hall".toList] ∧
      s.passages.get? "Cave".toList = some ⟨"Cave".toList, [], "Lit.".toList⟩ ∧
      s.header?.map (·.body) = some "1".toList ∧ s.footer? = none ∧
      s.start? = some "Cave".toList := by
  intro records config
  obtain ⟨-, hexists, hagree⟩ := tables_agree config records
  obtain ⟨s, hs⟩ := hexists (by simp [config, Filter.ofRule])
    ⟨⟨"Hall".toList, [], []⟩, by decide +kernel, by decide +kernel⟩
  obtain ⟨s', hs', hvalues⟩ : ∃ s', ofRecords config records = .ok s' ∧
      s'.order = ["Cave".toList, "Hall".toList] ∧
      s'.passages.get? "Cave".toList = some ⟨"Cave".toList, [], "Lit.".toList⟩ ∧
      s'.header?.map (·.body) = some "1".toList ∧ s'.footer? = none ∧
      s'.start? = some "Cave".toList :=
    ⟨_, rfl, by decide +kernel⟩
  obtain rfl : s = s' := Except.ok.inj (hs.symm.trans hs')
  exact ⟨s, hs, hagree s hs, hvalues⟩

/-! ### Tags of passages -/

/-- A header or footer with other tags is the last record with the name of the passage. -/
def Shadowed (config : StoryConfig) (records : List PassageRecord) (p : PassageRecord) : Prop :=
  ∃ q, LastNamed records q ∧ q.name = p.name ∧ config.frames q ∧ q.tags ≠ p.tags

/-- The last record of a name is the one that the name means, or a header or footer. -/
private theorem eq_of_lastNamed (h : ofRecords config records = .ok s) {p q : PassageRecord}
    (hp : s.passages.get? p.name = some p) (hq : LastNamed records q) (hname : q.name = p.name)
    (hframes : config.frames q = false) : q = p := by
  obtain ⟨before, after, heq, hafter⟩ := hq
  have hlast : LastShown config records q :=
    ⟨before, after, heq, hframes, fun r hr hrq => absurd hrq (hafter r hr)⟩
  have hget : s.passages.get? p.name = some q := (get?_passages_iff h).mpr ⟨hname, hlast⟩
  exact Option.some.inj (hget.symm.trans hp)

/-- **The tags that are looked up for a passage are its own** exactly when they are not shadowed by a header
or footer of the same name; a question about the tags of visited passages is answered by them then. The
passage that is told carries its own tags in any case. -/
theorem tags_passage_iff (h : ofRecords config records = .ok s) {name : Text} {p : PassageRecord}
    (hp : s.passages.get? name = some p) :
    (∀ words snapshot visits play,
        ((s.compiled words p snapshot visits).run play).1.tags = p.tags) ∧
      (s.tags.get? name = some p.tags ↔ ¬ Shadowed config records p) ∧
      (¬ Shadowed config records p → ∀ part words,
        (Query.tag part).holds (s.compiler.setting [name] s.tags words) =
          p.tags.any fun tag => Text.includes tag part) := by
  obtain ⟨rfl, before, after, hrecords, -, -⟩ := (get?_passages_iff h).mp hp
  have htags : s.tags.get? p.name = some p.tags ↔ ¬ Shadowed config records p := by
    constructor
    · rintro hget ⟨q, hq, hname, -, hne⟩
      have hgetq := get?_tags_of_lastNamed h hq
      rw [hname, hget] at hgetq
      exact hne (Option.some.inj hgetq).symm
    · intro hshown
      obtain ⟨q, hq, hname⟩ := exists_lastNamed (show p ∈ records by simp [hrecords])
      have hgetq := get?_tags_of_lastNamed h hq
      rw [hname] at hgetq
      cases hframes : config.frames q with
      | false => rwa [eq_of_lastNamed h hp hq hname hframes] at hgetq
      | true =>
        have hsame : q.tags = p.tags := by
          by_contra hne
          exact hshown ⟨q, hq, hname, hframes, hne⟩
        rwa [hsame] at hgetq
  refine ⟨fun _ _ _ _ => rfl, htags, fun hshown part words => ?_⟩
  rw [Query.holds, Setting.hasVisitedTag]
  simp [Compiler.setting, htags.mpr hshown]

/-- A header that stands before a passage of its name leaves the tags of the passage alone. -/
theorem tags_passage_iff_before :
    let passage : PassageRecord := ⟨"Cave".toList, ["dark".toList], "Dark.".toList⟩
    let records : List PassageRecord := [⟨"Cave".toList, ["header".toList], "1".toList⟩, passage]
    ∃ s, ofRecords {} records = .ok s ∧ s.passages.get? "Cave".toList = some passage ∧
      ¬ Shadowed {} records passage ∧ s.tags.get? "Cave".toList = some passage.tags := by
  intro passage records
  obtain ⟨s, hs⟩ : ∃ s, ofRecords {} records = .ok s := ⟨_, rfl⟩
  have hp : s.passages.get? "Cave".toList = some passage :=
    (get?_passages_iff hs).mpr ⟨rfl, [⟨"Cave".toList, ["header".toList], "1".toList⟩], [], rfl, by
      decide +kernel, by simp⟩
  have hlast : LastNamed records passage :=
    ⟨[⟨"Cave".toList, ["header".toList], "1".toList⟩], [], rfl, by simp⟩
  have hshown : ¬ Shadowed {} records passage := by
    rintro ⟨q, hq, hname, -, hne⟩
    have hget := get?_tags_of_lastNamed hs hq
    rw [hname, get?_tags_of_lastNamed hs hlast] at hget
    exact hne (Option.some.inj hget).symm
  exact ⟨s, hs, hp, hshown, (tags_passage_iff hs hp).2.1.mpr hshown⟩

/-- A header behind a passage of its name has its tags put in place of those of the passage: whoever has
visited the passage is told to have visited none that is dark. -/
theorem tags_passage_shadowed :
    let records : List PassageRecord := [
      ⟨"Start".toList, [], "(visited: where its tags contains \"dark\")[Deja vu.]".toList⟩,
      ⟨"Cave".toList, ["dark".toList], "Dark.".toList⟩,
      ⟨"Cave".toList, ["header".toList], "Alive.".toList⟩]
    ∃ s p, ofRecords {} records = .ok s ∧ s.passages.get? "Cave".toList = some p ∧
      p.tags = ["dark".toList] ∧ s.tags.get? "Cave".toList = some ["header".toList] ∧
      ∀ words, (Query.tag "dark".toList).holds
        (s.compiler.setting ["Cave".toList] s.tags words) = false := by
  exact ⟨_, _, rfl, rfl, rfl, by decide +kernel, fun _ => rfl⟩

end Story

end Hyperfiction

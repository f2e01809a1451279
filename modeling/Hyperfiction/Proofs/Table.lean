import Hyperfiction.Table
import Hyperfiction.Value

/-!
# Tables and what is looked up in them

A table is determined by what its names are bound to (`Table.ext_get?`), since its entries stand in the
order of their names. The laws for filtered tables and for tables laid over one another follow the same
order, and with them the changes between two snapshots can be told name by name
(`Snapshot.get?_changesSince`). Where a table is made of a list of bindings, the last one of a name stays
(`Table.get?_ofList_eq_some_iff`).
-/

namespace Hyperfiction

namespace Entries

variable {α : Type} {es fs : Entries α} {key : Text}

/-- What is found in a table is among its entries. -/
theorem mem_of_get? {x : α} (h : es.get? key = some x) : (key, x) ∈ es := by
  induction es with
  | nil => simp at h
  | cons e es ih =>
    obtain ⟨k, v⟩ := e
    rw [get?] at h
    split at h
    · rename_i hk
      obtain rfl : v = x := by simpa using h
      simp [hk]
    · exact List.mem_cons_of_mem _ (ih h)

/-- Before all names of a list nothing is bound. -/
theorem get?_eq_none_of_lt (h : ∀ e ∈ es, key < e.1) : es.get? key = none := by
  cases hget : es.get? key with
  | none => rfl
  | some x => exact absurd (h _ (mem_of_get? hget)) (Std.lt_irrefl)

/-- What stands behind the first entry does not bind its name. -/
theorem Ordered.get?_tail {k : Text} {v : α} (h : Ordered ((k, v) :: es)) : es.get? k = none :=
  get?_eq_none_of_lt (List.pairwise_cons.mp h).1

/-- Ordered lists that bind the same names to the same values are equal. -/
theorem Ordered.ext (hes : Ordered es) (hfs : Ordered fs)
    (h : ∀ key, es.get? key = fs.get? key) : es = fs := by
  induction es generalizing fs with
  | nil =>
    cases fs with
    | nil => rfl
    | cons f fs =>
      have hf := h f.1
      simp [get?] at hf
  | cons e es ih =>
    obtain ⟨k, v⟩ := e
    cases fs with
    | nil =>
      have hk := h k
      simp [get?] at hk
    | cons f fs =>
      obtain ⟨l, u⟩ := f
      have hk := h k
      have hl := h l
      rw [get?, if_pos rfl] at hk
      rw [get?, get?, if_pos rfl] at hl
      -- A name in front of one list is looked up in the other, so neither is before the other.
      obtain rfl : k = l := by
        by_cases hne : k = l
        · exact hne
        rw [get?, if_neg hne] at hk
        rw [if_neg (Ne.symm hne)] at hl
        have hlt : l < k := (List.pairwise_cons.mp hfs).1 _ (mem_of_get? hk.symm)
        have hgt : k < l := (List.pairwise_cons.mp hes).1 _ (mem_of_get? hl)
        exact absurd (Std.lt_trans hlt hgt) Std.lt_irrefl
      have hvu : v = u := by simpa [get?] using hk
      have htail : es = fs := by
        refine ih (List.pairwise_cons.mp hes).2 (List.pairwise_cons.mp hfs).2 fun key => ?_
        by_cases hkey : key = k
        · rw [hkey, hes.get?_tail, hfs.get?_tail]
        · have := h key
          rwa [get?, get?, if_neg hkey, if_neg hkey] at this
      rw [hvu, htail]

/-- Entries laid over others bind the names of both. -/
theorem isSome_get?_insertAll_iff (es new : Entries α) (key : Text) :
    ((es.insertAll new).get? key).isSome ↔ (∃ e ∈ new, e.1 = key) ∨ (es.get? key).isSome := by
  induction new generalizing es with
  | nil => simp [insertAll]
  | cons e new ih =>
    obtain ⟨k, v⟩ := e
    have hcons : es.insertAll ((k, v) :: new) = (es.insert k v).insertAll new := rfl
    rw [hcons, ih]
    simp only [List.mem_cons, or_and_right, exists_or, exists_eq_left]
    by_cases hkey : key = k
    · subst hkey
      simp
    · rw [get?_insert_of_ne es v hkey]
      simp [Ne.symm hkey]

theorem Ordered.get?_filter (h : Ordered es) (p : Text → α → Bool) (key : Text) :
    get? (es.filter fun e => p e.1 e.2) key = (es.get? key).filter (p key) := by
  induction es with
  | nil => rfl
  | cons e es ih =>
    obtain ⟨k, v⟩ := e
    have ih := ih (List.pairwise_cons.mp h).2
    rw [List.filter_cons]
    by_cases hkey : key = k
    · subst hkey
      rw [h.get?_tail] at ih
      split <;> simp_all [get?, Option.filter]
    · split <;> simp_all [get?]

end Entries

namespace Table

variable {α : Type} {t u : Table α}

/-- **A table is what is looked up in it.** -/
theorem ext_get? (h : ∀ key, t.get? key = u.get? key) : t = u := by
  obtain ⟨es, hes⟩ := t
  obtain ⟨fs, hfs⟩ := u
  have heq : es = fs := hes.ext hfs h
  subst heq
  rfl

/-- What is found in a part of a table is found in it, and passes. -/
theorem get?_filter (t : Table α) (p : Text → α → Bool) (key : Text) :
    (t.filter p).get? key = (t.get? key).filter (p key) :=
  t.ordered.get?_filter p key

/-- A table has the key that is put in, and those it had. -/
theorem contains_insert (t : Table α) (key other : Text) (x : α) :
    (t.insert key x).contains other ↔ other = key ∨ t.contains other := by
  rw [contains, contains, get?_insert]
  by_cases h : other = key <;> simp [h]

/-- **The entries of the second table lie on top.** -/
theorem get?_overlay (t changes : Table α) (key : Text) :
    (t.overlay changes).get? key = (changes.get? key).or (t.get? key) := by
  obtain ⟨es, hes⟩ := changes
  change (es.foldl (fun t e => t.insert e.1 e.2) t).get? key = (es.get? key).or (t.get? key)
  induction es generalizing t with
  | nil => rfl
  | cons e es ih =>
    obtain ⟨k, v⟩ := e
    rw [List.foldl_cons, ih _ (List.pairwise_cons.mp hes).2, get?_insert, Entries.get?]
    by_cases hkey : key = k
    · rw [hkey, hes.get?_tail, if_pos rfl, if_pos rfl]
      rfl
    · rw [if_neg hkey, if_neg hkey]

/-- A table has the keys that are laid over it, and those it had. -/
theorem contains_overlay (t changes : Table α) (key : Text) :
    (t.overlay changes).contains key ↔ changes.contains key ∨ t.contains key := by
  rw [contains, get?_overlay, Option.isSome_or, Bool.or_eq_true]
  rfl

/-- **The last of several entries of a key is found**, or else what was there. -/
private theorem get?_foldl_insert_eq_some_iff (es : List (Text × α)) (t : Table α) (key : Text)
    (x : α) : (es.foldl (fun t e => t.insert e.1 e.2) t).get? key = some x ↔
      (∃ before after, es = before ++ (key, x) :: after ∧ ∀ e ∈ after, e.1 ≠ key) ∨
        (∀ e ∈ es, e.1 ≠ key) ∧ t.get? key = some x := by
  induction es generalizing t with
  | nil => simp
  | cons e es ih =>
    obtain ⟨k, v⟩ := e
    rw [List.foldl_cons, ih, get?_insert]
    constructor
    · rintro (⟨before, after, rfl, hafter⟩ | ⟨hes, hget⟩)
      · exact .inl ⟨(k, v) :: before, after, rfl, hafter⟩
      · by_cases hkey : key = k
        · obtain rfl : v = x := by simpa [hkey] using hget
          exact .inl ⟨[], es, by rw [hkey]; rfl, hes⟩
        · rw [if_neg hkey] at hget
          exact .inr ⟨List.forall_mem_cons.mpr ⟨Ne.symm hkey, hes⟩, hget⟩
    · rintro (⟨before, after, heq, hafter⟩ | ⟨hes, hget⟩)
      · -- The last binding of the name is the first entry, or one behind it.
        rcases List.cons_eq_append_iff.mp heq with ⟨rfl, hcons⟩ | ⟨before, rfl, rfl⟩
        · obtain ⟨⟨rfl, rfl⟩, rfl⟩ := by simpa using hcons
          exact .inr ⟨hafter, if_pos rfl⟩
        · exact .inl ⟨before, after, rfl, hafter⟩
      · obtain ⟨hk, hes⟩ := List.forall_mem_cons.mp hes
        exact .inr ⟨hes, by rw [if_neg (Ne.symm hk), hget]⟩

/-- **Of two bindings of a name the later stays.** -/
theorem get?_ofList_eq_some_iff {es : List (Text × α)} {key : Text} {x : α} :
    (ofList es).get? key = some x ↔
      ∃ before after, es = before ++ (key, x) :: after ∧ ∀ e ∈ after, e.1 ≠ key := by
  rw [ofList, get?_foldl_insert_eq_some_iff]
  simp

/-- **A table of bindings binds their names.** -/
theorem contains_ofList_iff (es : List (Text × α)) (key : Text) :
    (ofList es).contains key ↔ ∃ e ∈ es, e.1 = key := by
  have hinsert : ∀ (t : Table α), (es.foldl (fun t e => t.insert e.1 e.2) t).contains key ↔
      t.contains key ∨ ∃ e ∈ es, e.1 = key := by
    induction es with
    | nil => simp
    | cons e es ih =>
      intro t
      rw [List.foldl_cons, ih, contains_insert]
      grind
  have hempty : (empty : Table α).contains key = false := rfl
  simp [ofList, hinsert, hempty]

end Table

namespace Snapshot

/-- A variable is among the changes with its value, unless it had that value before. -/
theorem get?_changesSince (now before : Snapshot) (key : Text) :
    (now.changesSince before).get? key =
      (now.get? key).filter fun v => !((before.get? key).any (v.same ·)) :=
  now.get?_filter _ key

end Snapshot

end Hyperfiction

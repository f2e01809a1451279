import Hyperfiction.Text.Basic

/-!
# Tables by name

A **table** binds names to values and lists its entries in the order of their names. `Table.insert` is
the only way to write, and `Table.get?_insert` is the law of reading back. The functions on bare lists
of entries (`Entries`) are the ones that a map inside a value uses too.
-/

namespace Hyperfiction

/-- Names with the values bound to them. -/
abbrev Entries (α : Type) := List (Text × α)

namespace Entries

variable {α : Type}

/-- The entries stand in the order of their names, each name once. -/
def Ordered (es : Entries α) : Prop := es.Pairwise fun a b => a.1 < b.1

/-- The value bound to a name. -/
def get? : Entries α → Text → Option α
  | [], _ => none
  | (k, v) :: es, key => if key = k then some v else get? es key

/-- Binds a name at its place; an old binding is replaced. -/
def insert : Entries α → Text → α → Entries α
  | [], key, x => [(key, x)]
  | (k, v) :: es, key, x =>
    if key = k then (key, x) :: es
    else if key < k then (key, x) :: (k, v) :: es
    else (k, v) :: insert es key x

/-- Inserts the second entries into the first ones, in order. -/
def insertAll (es new : Entries α) : Entries α := new.foldl (fun es e => insert es e.1 e.2) es

@[simp] theorem get?_nil (key : Text) : get? ([] : Entries α) key = none := rfl

@[simp] theorem get?_insert_self (es : Entries α) (key : Text) (x : α) :
    get? (insert es key x) key = some x := by
  induction es with
  | nil => simp [insert, get?]
  | cons e es ih =>
    obtain ⟨k, v⟩ := e
    by_cases h : key = k
    · simp [insert, get?, h]
    · by_cases h' : key < k <;> simp [insert, get?, h, h', ih]

theorem get?_insert_of_ne {key other : Text} (es : Entries α) (x : α) (h : other ≠ key) :
    get? (insert es key x) other = get? es other := by
  induction es with
  | nil => simp [insert, get?, h]
  | cons e es ih =>
    obtain ⟨k, v⟩ := e
    by_cases hk : key = k
    · subst hk; simp [insert, get?, h]
    · by_cases h' : key < k <;> simp [insert, get?, hk, h', h, ih]

theorem mem_insert {es : Entries α} {key : Text} {x : α} {e : Text × α}
    (h : e ∈ insert es key x) : e = (key, x) ∨ e ∈ es := by
  induction es with
  | nil => simpa [insert] using h
  | cons f es ih =>
    obtain ⟨k, v⟩ := f
    simp only [insert] at h
    split at h
    · simp only [List.mem_cons] at h ⊢; grind
    · split at h
      · simpa using h
      · simp only [List.mem_cons] at h ⊢; grind

private theorem lt_of_not_lt {a b : Text} (hne : a ≠ b) (h : ¬ a < b) : b < a :=
  (Std.lt_of_le_of_ne (Std.not_lt.1 h) (Ne.symm hne))

theorem Ordered.insert {es : Entries α} (h : Ordered es) (key : Text) (x : α) :
    Ordered (es.insert key x) := by
  induction es with
  | nil => simp [Entries.insert, Ordered]
  | cons e es ih =>
    obtain ⟨k, v⟩ := e
    simp only [Ordered, List.pairwise_cons] at h
    simp only [Entries.insert]
    split
    · subst_vars; simpa [Ordered] using h
    · split
      · rename_i hlt
        simp only [Ordered, List.pairwise_cons, List.mem_cons]
        refine ⟨?_, h⟩
        rintro e (rfl | he)
        · exact hlt
        · exact Std.lt_trans hlt (h.1 e he)
      · rename_i hne hlt
        simp only [Ordered, List.pairwise_cons]
        refine ⟨fun e he => ?_, ih h.2⟩
        rcases mem_insert he with rfl | he
        · exact lt_of_not_lt hne hlt
        · exact h.1 e he

end Entries

/-- Names with the values bound to them, in the order of the names. -/
structure Table (α : Type) where
  entries : Entries α
  ordered : entries.Ordered

namespace Table

variable {α : Type}

/-- The table without entries. -/
def empty : Table α := ⟨[], List.Pairwise.nil⟩

instance : Inhabited (Table α) := ⟨empty⟩

/-- The value bound to a name. -/
def get? (t : Table α) (key : Text) : Option α := t.entries.get? key

/-- Is the name bound? -/
def contains (t : Table α) (key : Text) : Bool := (t.get? key).isSome

/-- Binds a name; an old binding is replaced. -/
def insert (t : Table α) (key : Text) (x : α) : Table α :=
  ⟨t.entries.insert key x, t.ordered.insert key x⟩

/-- The table of a list of bindings; of two for one name the later stays. -/
def ofList (es : List (Text × α)) : Table α := es.foldl (fun t e => t.insert e.1 e.2) empty

/-- The bound names, in order. -/
def keys (t : Table α) : List Text := t.entries.map (·.1)

/-- The number of bound names. -/
def size (t : Table α) : Nat := t.entries.length

/-- The table of those entries that pass a test. -/
def filter (t : Table α) (p : Text → α → Bool) : Table α :=
  ⟨t.entries.filter fun e => p e.1 e.2, t.ordered.filter _⟩

/-- The first table with the entries of the second laid over it. -/
def overlay (t changes : Table α) : Table α :=
  changes.entries.foldl (fun t e => t.insert e.1 e.2) t

@[simp] theorem get?_empty (key : Text) : (empty : Table α).get? key = none := rfl

theorem get?_insert (t : Table α) (key other : Text) (x : α) :
    (t.insert key x).get? other = if other = key then some x else t.get? other := by
  by_cases h : other = key
  · subst h; simp [get?, insert]
  · simp [get?, insert, h, Entries.get?_insert_of_ne]

end Table

end Hyperfiction

import Hyperfiction.Eval.Setting
import Hyperfiction.Proofs.Fallible

/-!
# Buffers that are cut at positions

A text that is worked on in place is a buffer of bytes, and a part of it is named by two positions. Such a
range is refused where it is not in order, reaches past the end, or cuts a character in two: a refusal is a
`Fault`, and a computation in which every range is checked is `Guarded`. A list that is cut at places has
the same rules (`Guarded.part`).

A range is granted exactly when the text falls into three pieces there (`Text.slice_eq_ok_iff`), which is
how ranges of positions and pieces of texts meet. `Act.sure` makes a guarded computation of one that has
nothing to check; whatever equals it raises no fault.
-/

namespace Hyperfiction

/-- Why a computation on a buffer goes no further. -/
inductive Fault where
  /-- A range that is out of order, out of the buffer, or has an end inside a character. -/
  | range (s : Span)
  /-- A place of a list at which nothing stands. -/
  | place
  /-- A number taken from a smaller one. -/
  | negative
  /-- A loop that does not move on. -/
  | stuck

/-- A computation that is refused at its first fault. -/
abbrev Guarded := Except Fault

/-- A computation on a run that is refused at its first fault. -/
abbrev GuardedAct := StateT Run Guarded

/-! ### Boundaries -/

namespace Text

/-- Does a character end, or the text begin, at the position? -/
def IsBoundary (t : Text) (n : Nat) : Prop := (t.dropTo? n).isSome

instance (t : Text) (n : Nat) : Decidable (t.IsBoundary n) :=
  inferInstanceAs (Decidable ((t.dropTo? n).isSome = true))

/-- A text is dropped to a position that a part of it takes. -/
theorem dropTo?_eq_some_iff {t u : Text} {n : Nat} :
    t.dropTo? n = some u ↔ ∃ s, t = s ++ u ∧ n = width s := by
  constructor
  · intro h
    obtain ⟨s, rfl, rfl⟩ := eq_append_of_dropTo? h
    exact ⟨s, rfl, rfl⟩
  · rintro ⟨s, rfl, rfl⟩
    exact dropTo?_append s u

/-- **A position is a boundary** if a part of the text takes it. -/
theorem isBoundary_iff {t : Text} {n : Nat} :
    t.IsBoundary n ↔ ∃ s u, t = s ++ u ∧ n = width s := by
  rw [IsBoundary, Option.isSome_iff_exists, exists_comm]
  exact exists_congr fun u => dropTo?_eq_some_iff

theorem isBoundary_append (s u : Text) : (s ++ u).IsBoundary (width s) :=
  isBoundary_iff.mpr ⟨s, u, rfl, rfl⟩

theorem IsBoundary.le_width {t : Text} {n : Nat} (h : t.IsBoundary n) : n ≤ width t := by
  obtain ⟨s, u, rfl, rfl⟩ := isBoundary_iff.mp h
  rw [width_append]
  omega

theorem takePast_append (s u : Text) : takePast (s ++ u) (width s) = s := by
  induction s with
  | nil => cases u <;> rfl
  | cons c s ih =>
    have hpos := c.utf8Size_pos
    obtain ⟨n, hn⟩ : ∃ n, width (c :: s) = n + 1 := ⟨width (c :: s) - 1, by rw [width_cons]; omega⟩
    have hsub : n + 1 - c.utf8Size = width s := by rw [← hn, width_cons]; omega
    rw [hn, List.cons_append, takePast, hsub, ih]

theorem dropPast_append (s u : Text) : dropPast (s ++ u) (width s) = u := by
  have h := takePast_append_dropPast (s ++ u) (width s)
  rw [takePast_append] at h
  exact List.append_cancel_left h

theorem width_eq_zero_iff {t : Text} : width t = 0 ↔ t = [] := by
  cases t with
  | nil => simp
  | cons c t =>
    have := c.utf8Size_pos
    simp only [width_cons, reduceCtorEq, iff_false]
    omega

/-- Two pieces that a text begins with, of which the first is not the wider one. -/
theorem exists_append_of_width_le {s u a b : Text} (h : s ++ u = a ++ b) (hle : width s ≤ width a) :
    ∃ m, a = s ++ m ∧ u = m ++ b := by
  obtain ⟨m, rfl, rfl⟩ | ⟨m, rfl, rfl⟩ := List.append_eq_append_iff.mp h
  · exact ⟨m, rfl, rfl⟩
  · cases m with
    | nil => exact ⟨[], by simp, by simp⟩
    | cons c m =>
      have hpos := c.utf8Size_pos
      rw [width_append, width_cons] at hle
      omega

/-! ### Ranges of a text -/

/-- The text from a position on. -/
def suffixFrom (t : Text) (start : Nat) : Guarded Text :=
  match t.dropTo? start with
  | some u => .ok u
  | none => .error (.range ⟨start, width t⟩)

/-- The text between two positions. -/
def slice (t : Text) (start stop : Nat) : Guarded Text :=
  if start ≤ stop ∧ t.IsBoundary start ∧ t.IsBoundary stop then
    .ok (takePast (dropPast t start) (stop - start))
  else .error (.range ⟨start, stop⟩)

/-- The text with what stands between two positions replaced. -/
def replace (t : Text) (start stop : Nat) (written : Text) : Guarded Text :=
  if start ≤ stop ∧ t.IsBoundary start ∧ t.IsBoundary stop then
    .ok (takePast t start ++ written ++ dropPast t stop)
  else .error (.range ⟨start, stop⟩)

@[simp] theorem suffixFrom_append (s u : Text) : (s ++ u).suffixFrom (width s) = .ok u := by
  rw [suffixFrom, dropTo?_append]

/-- The three parts of a text have boundaries between them. -/
private theorem granted_append (s m u : Text) :
    width s ≤ width s + width m ∧ (s ++ (m ++ u)).IsBoundary (width s) ∧
      (s ++ (m ++ u)).IsBoundary (width s + width m) := by
  refine ⟨by omega, isBoundary_append _ _, ?_⟩
  rw [← width_append, ← List.append_assoc]
  exact isBoundary_append _ _

theorem slice_append (s m u : Text) :
    (s ++ (m ++ u)).slice (width s) (width s + width m) = .ok m := by
  rw [slice, if_pos (granted_append s m u), dropPast_append, Nat.add_sub_cancel_left, takePast_append]

theorem slice_zero_append (s u : Text) : (s ++ u).slice 0 (width s) = .ok s := by
  have h := slice_append [] s u
  rwa [List.nil_append, width_nil, Nat.zero_add] at h

theorem replace_append (s m u written : Text) :
    (s ++ (m ++ u)).replace (width s) (width s + width m) written = .ok (s ++ written ++ u) := by
  rw [replace, if_pos (granted_append s m u), takePast_append, ← width_append, ← List.append_assoc,
    dropPast_append]

/-- **A range is granted** exactly when it is a piece of the text. -/
theorem slice_eq_ok_iff {t m : Text} {start stop : Nat} :
    t.slice start stop = .ok m ↔
      ∃ s u, t = s ++ (m ++ u) ∧ start = width s ∧ stop = width s + width m := by
  constructor
  · intro h
    rw [slice] at h
    split at h
    · rename_i hr
      obtain ⟨hle, hstart, hstop⟩ := hr
      obtain ⟨s, v, rfl, rfl⟩ := isBoundary_iff.mp hstart
      obtain ⟨a, u, ha, rfl⟩ := isBoundary_iff.mp hstop
      obtain ⟨m', rfl, rfl⟩ := exists_append_of_width_le ha hle
      rw [dropPast_append, width_append, Nat.add_sub_cancel_left, takePast_append] at h
      obtain rfl := Except.ok.inj h
      exact ⟨s, u, rfl, rfl, width_append s m'⟩
    · cases h
  · rintro ⟨s, u, rfl, rfl, rfl⟩
    exact slice_append s m u

end Text

/-! ### Ranges of a list -/

namespace Guarded

variable {α : Type}

/-- The items of a list between two places. -/
def part (xs : List α) (start stop : Nat) : Guarded (List α) :=
  if start ≤ stop ∧ stop ≤ xs.length then .ok ((xs.take stop).drop start)
  else .error (.range ⟨start, stop⟩)

/-- The item at a place. -/
def item (xs : List α) (i : Nat) : Guarded α :=
  match xs[i]? with
  | some x => .ok x
  | none => .error .place

/-- The difference of two numbers, the greater one first. -/
def minus (m n : Nat) : Guarded Nat := if n ≤ m then .ok (m - n) else .error .negative

theorem part_append (xs ys zs : List α) :
    part (xs ++ (ys ++ zs)) xs.length (xs.length + ys.length) = .ok ys := by
  rw [part, if_pos ⟨by omega, by simp only [List.length_append]; omega⟩, ← List.append_assoc,
    ← List.length_append, List.take_left, List.drop_left]

theorem minus_eq_ok {m n : Nat} (h : n ≤ m) : minus m n = .ok (m - n) := if_pos h

@[simp] theorem ok_bind {β : Type} (a : α) (f : α → Guarded β) : (Except.ok a >>= f) = f a := rfl

@[simp] theorem pure_eq_ok (a : α) : (pure a : Guarded α) = .ok a := rfl

@[simp] theorem map_ok {β : Type} (f : α → β) (a : α) :
    (f <$> (Except.ok a : Guarded α)) = .ok (f a) := rfl

end Guarded

/-! ### Acts without a fault -/

namespace Act

variable {α β : Type}

/-- A computation that has nothing to check, as a guarded one. -/
def sure (x : Act α) : GuardedAct α := fun run => .ok (x.run run)

@[simp] theorem sure_pure (a : α) : sure (pure a) = pure a := rfl

@[simp] theorem sure_bind (x : Act α) (f : α → Act β) :
    sure x >>= (fun a => sure (f a)) = sure (x >>= f) := rfl

@[simp] theorem lift_ok_bind (a : α) (f : α → GuardedAct β) :
    ((liftM (Except.ok a : Guarded α) : GuardedAct α) >>= f) = f a := rfl

end Act

end Hyperfiction

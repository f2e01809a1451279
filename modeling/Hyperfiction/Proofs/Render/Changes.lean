import Hyperfiction.Proofs.Eval.Related
import Hyperfiction.Proofs.Render.Drafted

/-!
# What a passage does to the variables

All that compiling a passage does to its run is to draw words and to bind variables, whatever its text is:
what both of these keep, a draft keeps (`draft_keeps`). It follows that no variable is ever lost, and with
it that the changes told of a passage are exactly the difference between the variables given and the ones
left (`Compiler.exactDiff_changes`). Values are compared there by strict equality, which does not depend
on its direction (`Value.same_comm`); an undefined number is never the same, so a variable that holds one
is always told as changed.
-/

namespace Hyperfiction

open Act

/-! ### Strict equality -/

open Float.Model in
private theorem compare_unpacked_swap (a b : UnpackedFloat) :
    b.compare a = (a.compare b).map Ordering.swap := by
  cases a with
  | notANumber => cases b <;> rfl
  | zero s =>
    cases b with
    | notANumber | zero u => rfl
    | infinity u | finite u m e h => cases u <;> rfl
  | infinity s =>
    cases b with
    | infinity u => cases s <;> cases u <;> rfl
    | notANumber | zero u | finite u m e h => cases s <;> rfl
  | finite s m e h =>
    cases b with
    | infinity u => cases u <;> rfl
    | notANumber | zero u => cases s <;> rfl
    | finite u n f k =>
      -- Numbers of one sign are compared by exponent and digits, and both are swapped with them.
      have hdigits : (compare f e).then (compare n m) =
          ((compare e f).then (compare m n)).swap := by
        rw [Ordering.swap_then, Int.compare_swap, Nat.compare_swap]
      cases s with
      | positive =>
        cases u with
        | positive => exact congrArg some hdigits
        | negative => rfl
      | negative =>
        cases u with
        | positive => rfl
        | negative => exact congrArg (fun o => some o.swap) hdigits

theorem Number.beq_comm (x y : Float) : (x == y) = (y == x) := by
  have hswap := compare_unpacked_swap x.toModel.unpack y.toModel.unpack
  change (x.toModel.unpack.compare y.toModel.unpack == some .eq) =
    (y.toModel.unpack.compare x.toModel.unpack == some .eq)
  rw [hswap]
  rcases x.toModel.unpack.compare y.toModel.unpack with _ | _ | _ | _ <;> rfl

namespace Value

mutual

/-- **Strict equality has no direction.** -/
theorem same_comm : ∀ v w : Value, v.same w = w.same v
  | .boolean _, .boolean _ | .text _, .text _ => by
    rw [same, same]
    exact Bool.beq_comm
  | .number x, .number y => by
    rw [same, same]
    exact Number.beq_comm x y
  | .list vs, .list ws => by
    rw [same, same]
    exact sameItems_comm vs ws
  | .map es, .map fs => by
    rw [same, same]
    exact sameEntries_comm es fs
  | .boolean _, .number _ | .boolean _, .text _ | .boolean _, .list _ | .boolean _, .map _
  | .number _, .boolean _ | .number _, .text _ | .number _, .list _ | .number _, .map _
  | .text _, .boolean _ | .text _, .number _ | .text _, .list _ | .text _, .map _
  | .list _, .boolean _ | .list _, .number _ | .list _, .text _ | .list _, .map _
  | .map _, .boolean _ | .map _, .number _ | .map _, .text _ | .map _, .list _ => by
    simp only [same]

theorem sameItems_comm : ∀ vs ws : List Value, sameItems vs ws = sameItems ws vs
  | [], [] => rfl
  | [], _ :: _ | _ :: _, [] => by simp only [sameItems]
  | v :: vs, w :: ws => by
    rw [sameItems, sameItems, same_comm v w, sameItems_comm vs ws]

theorem sameEntries_comm : ∀ es fs : List (Text × Value), sameEntries es fs = sameEntries fs es
  | [], [] => rfl
  | [], _ :: _ | _ :: _, [] => by simp only [sameEntries]
  | (k, v) :: es, (l, w) :: fs => by
    have hkey : (k == l) = (l == k) := Bool.beq_comm
    rw [sameEntries, sameEntries, hkey, same_comm v w, sameEntries_comm es fs]

end

end Value

/-! ### What draws and bindings keep -/

/-- **Drafting only draws and binds**: what every draw and every binding keeps, it keeps. -/
theorem draft_keeps {P : Run → Prop} (hdraw : ∀ r n, P r → P { r with used := n })
    (hbind : ∀ r x v, P r → P { r with store := r.store.insert x v }) (w : Setting) (body : Text)
    {r : Run} (h : P r) : P ((draft w body).run r).2 :=
  (draft_made w body).keeps hdraw (fun r x v _ => hbind r x v) h

/-- No variable is lost while a passage is drafted. -/
theorem contains_draft (w : Setting) (body : Text) {r : Run} {x : Text} (h : r.store.contains x) :
    ((draft w body).run r).2.store.contains x := by
  refine draft_keeps (P := fun r => r.store.contains x) (fun _ _ hr => hr) (fun r y v hr => ?_) w
    body h
  exact (Table.contains_insert r.store y x v).mpr (.inr hr)

/-! ### The changes of a passage -/

/-- The changes are exactly what has to be laid over the variables `before` to come to those `now`. -/
structure Snapshot.ExactDiff (before now changes : Snapshot) : Prop where
  /-- No variable is lost. -/
  kept : ∀ x, before.contains x → now.contains x
  /-- The changes bind variables of `now` to their values. -/
  own : ∀ x v, changes.get? x = some v → now.get? x = some v
  /-- None of the changes is to the same value. -/
  changed : ∀ x v u, changes.get? x = some v → before.get? x = some u → v.same u = false
  /-- Laid over `before`, the changes bind the variables of `now` and no others. -/
  contains_iff : ∀ x, (before.overlay changes).contains x ↔ now.contains x
  /-- They are bound to their values then, or to the same ones. -/
  value : ∀ x u v, (before.overlay changes).get? x = some u → now.get? x = some v →
    u = v ∨ u.same v

/-- If no variable is lost, the changes between two snapshots are an exact difference. -/
theorem Snapshot.exactDiff_changesSince {before now : Snapshot}
    (h : ∀ x, before.contains x → now.contains x) :
    before.ExactDiff now (now.changesSince before) := by
  have hchanges : ∀ x v, (now.changesSince before).get? x = some v ↔
      now.get? x = some v ∧ ∀ u, before.get? x = some u → v.same u = false := by
    intro x v
    rw [get?_changesSince, Option.filter_eq_some_iff]
    cases before.get? x <;> simp
  -- A variable that is not among the changes had the same value before.
  have hsame : ∀ x v, now.get? x = some v → (now.changesSince before).get? x = none →
      ∃ u, before.get? x = some u ∧ v.same u := by
    intro x v hnow hnone
    rw [get?_changesSince, hnow] at hnone
    have hany : (before.get? x).any (v.same ·) := by simpa using hnone
    exact (Option.any_eq_true _ _).mp hany
  refine ⟨h, fun x v hv => ((hchanges x v).mp hv).1, fun x v u hv hu => ((hchanges x v).mp hv).2 u hu,
    fun x => ?_, fun x u v hu hv => ?_⟩
  · rw [Table.contains_overlay]
    constructor
    · rintro (hx | hx)
      · obtain ⟨v, hv⟩ := Option.isSome_iff_exists.mp hx
        exact Option.isSome_iff_exists.mpr ⟨v, ((hchanges x v).mp hv).1⟩
      · exact h x hx
    · intro hx
      obtain ⟨v, hv⟩ := Option.isSome_iff_exists.mp hx
      cases hget : (now.changesSince before).get? x with
      | some u => exact .inl (Option.isSome_iff_exists.mpr ⟨u, hget⟩)
      | none =>
        obtain ⟨u, hu, -⟩ := hsame x v hv hget
        exact .inr (Option.isSome_iff_exists.mpr ⟨u, hu⟩)
  · rw [Table.get?_overlay] at hu
    cases hget : (now.changesSince before).get? x with
    | some v' =>
      obtain rfl : v' = u := by simpa [hget] using hu
      obtain rfl : v' = v := Option.some.inj (((hchanges x v').mp hget).1.symm.trans hv)
      exact .inl rfl
    | none =>
      obtain ⟨u', hu', hvu⟩ := hsame x v hv hget
      obtain rfl : u' = u := by simpa [hget, hu'] using hu
      exact .inr (by rwa [Value.same_comm])

/-- **The changes of a passage are an exact difference** between the variables it is compiled for and the
ones that its draft leaves, for every text, all visits, tags, random words and limits. -/
theorem Compiler.exactDiff_changes (c : Compiler) (w : Setting) (p : PassageRecord)
    (snapshot : Snapshot) (used : Nat) :
    snapshot.ExactDiff ((draft w p.body).run ⟨snapshot, used⟩).2.store
      (c.compile w p snapshot used).1.changes :=
  Snapshot.exactDiff_changesSince fun _ hx => contains_draft w p.body hx

end Hyperfiction

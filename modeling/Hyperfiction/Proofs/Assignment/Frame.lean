import Hyperfiction.Proofs.Assignment.Joined
import Hyperfiction.Proofs.Eval.Related
import Hyperfiction.Proofs.Table

/-!
# What assignments leave alone

Assignments change the variables that they are to and no others, and take none away
(`Assignment.runText_changesOnly`). An operation has no result exactly where it divides by zero
(`Operation.result?_eq_none_iff`), and an assignment is without effect exactly then: it leaves the run as it
was, and those behind it go on from there; every other assignment binds its target
(`Assignment.runText_frame`).
-/

namespace Hyperfiction

/-- **Nothing but a division by zero**, or a remainder by zero, has no result. -/
theorem Operation.result?_eq_none_iff {op : Operation} {x y : Float} :
    op.result? x y = none ↔ (op = .div ∨ op = .mod) ∧ y == 0 := by
  cases op with
  | add | sub | mul => simp [result?]
  | div =>
    simp only [result?, true_or, true_and]
    constructor
    · intro h
      split at h
      · assumption
      · split at h <;> cases h
    · exact fun h => if_pos h
  | mod => simp [result?]

namespace Snapshot

/-- The variables outside `names` have the same values before and after, and no variable is taken away. -/
structure ChangesOnly (names : List Text) (before after : Snapshot) : Prop where
  get?_eq : ∀ x ∉ names, after.get? x = before.get? x
  contains : ∀ x, before.contains x → after.contains x

namespace ChangesOnly

variable {names : List Text} {s t u : Snapshot}

protected theorem refl (names : List Text) (s : Snapshot) : s.ChangesOnly names s :=
  ⟨fun _ _ => rfl, fun _ h => h⟩

/-- One of the variables is bound. -/
theorem insert (h : s.ChangesOnly names t) {x : Text} (hx : x ∈ names) (v : Value) :
    s.ChangesOnly names (t.insert x v) where
  get?_eq y hy := by
    have hne : y ≠ x := fun heq => hy (heq ▸ hx)
    rw [Table.get?_insert, if_neg hne]
    exact h.get?_eq y hy
  contains y hy := (Table.contains_insert t x y v).mpr (.inr (h.contains y hy))

end ChangesOnly

end Snapshot

/-- Does the right side divide by an operand that is zero among the variables, or take the remainder by it? -/
def RightSide.dividesByZero (store : Snapshot) : RightSide → Bool
  | .arithmetic _ op operand => (op == .div || op == .mod) && store.operand operand == 0
  | _ => false

namespace Assignment

variable {words : Words} {a : Assignment} {r : Run}

/-- An assignment binds its target to the value of its right side, if there is one. -/
private theorem run_of_value {v : Option Value} {after : Run}
    (h : (value? words a.target a.value).run r = (v, after)) :
    (run words a).run r = (v.elim (pure ()) (Act.bindTo a.target) : Act Unit).run after := by
  rw [run, StateT.run_bind, h]
  cases v <;> rfl

/-- **There is no value** exactly where a right side divides by zero. -/
theorem value?_eq_none_iff (words : Words) (target : Text) (right : RightSide) (r : Run) :
    ((value? words target right).run r).1 = none ↔ right.dividesByZero r.store := by
  cases right with
  | arithmetic source op operand =>
    change (op.result? (r.store.numberOrZero (source.name target)) (r.store.operand operand)).map
      Value.number = none ↔ _
    rw [Option.map_eq_none_iff, Operation.result?_eq_none_iff, RightSide.dividesByZero]
    simp
  | _ => constructor <;> (intro h; cases h)

/-- A division by zero leaves the run as it was. -/
theorem run_of_dividesByZero (words : Words) (h : a.value.dividesByZero r.store) :
    (run words a).run r = ((), r) := by
  have hnone := (value?_eq_none_iff words a.target a.value r).mpr h
  -- No form that has no value draws.
  have hafter : ((value? words a.target a.value).run r).2 = r := by
    cases hright : a.value with
    | arithmetic source op operand => rfl
    | _ =>
      rw [hright] at h
      cases h
  have hvalue : (value? words a.target a.value).run r = (none, r) := Prod.ext hnone hafter
  exact run_of_value hvalue

/-- **Every other assignment binds its target.** -/
theorem contains_run (words : Words) (h : ¬ a.value.dividesByZero r.store) :
    ((run words a).run r).2.store.contains a.target := by
  obtain ⟨v, hv⟩ := Option.ne_none_iff_exists'.mp
    (mt (value?_eq_none_iff words a.target a.value r).mp h)
  rw [run_of_value (Prod.ext hv rfl)]
  exact (Table.contains_insert _ _ _ v).mpr (.inl rfl)

/-- What a text of assignments changes is among the variables that they are to. -/
theorem runText_changesOnly (words : Words) (t : Text) (r : Run) :
    r.store.ChangesOnly (textTargets t) ((runText words t).run r).2.store := by
  have hmade : Act.Made words (fun _ => True) (· ∈ textTargets t) (runText words t) :=
    runText_made words (fun _ _ => trivial) fun _ hx => hx
  exact hmade.keeps (P := fun s => r.store.ChangesOnly (textTargets t) s.store) (fun _ _ hs => hs)
    (fun _ _ v hx hs => hs.insert hx v) (.refl _ _)

/-- **A text of assignments** changes only the variables that they are to. Of its assignments one that divides
by zero leaves the run that it finds as it was, and those behind it run on from there; all others bind their
targets. -/
theorem runText_frame (words : Words) (t : Text) (r : Run) :
    r.store.ChangesOnly (textTargets t) ((runText words t).run r).2.store ∧
      ∀ before a after, ofText t = before ++ a :: after →
        let here := ((runAll words before).run r).2
        (a.value.dividesByZero here.store → (run words a).run here = ((), here) ∧
          (runText words t).run r = (runAll words after).run here) ∧
        (¬ a.value.dividesByZero here.store → ((run words a).run here).2.store.contains a.target) := by
  refine ⟨runText_changesOnly words t r, fun before a after hsplit => ?_⟩
  intro here
  refine ⟨fun hzero => ?_, contains_run words⟩
  have hleft : (run words a).run here = ((), here) := run_of_dividesByZero words hzero
  refine ⟨hleft, ?_⟩
  have hsteps : (runText words t).run r = (runAll words after).run ((run words a).run here).2 := by
    rw [runText, hsplit, runAll_append]
    rfl
  rw [hsteps, hleft]

/-- A division by a variable without a value, and an assignment behind it. -/
theorem runText_frame_missing :
    let t := "$x to $x / $none, $z to true".toList
    let r : Run := ⟨Table.empty.insert "x".toList (.text "8".toList), 0⟩
    let words : Words := fun _ => 0
    ∃ a after, ofText t = a :: after ∧ a.value.dividesByZero r.store ∧
      r.store.ChangesOnly (textTargets t) ((runText words t).run r).2.store ∧
      (runText words t).run r = (runAll words after).run r ∧
      ((runText words t).run r).2.store.contains "z".toList := by
  intro t r words
  have hne : ofText t ≠ [] := List.ne_nil_of_length_pos (by decide +kernel)
  obtain ⟨a, after, hread⟩ := List.exists_cons_of_ne_nil hne
  have hzero : a.value.dividesByZero r.store := by
    have hfirst : (ofText t).head?.all (fun a => a.value.dividesByZero r.store) := by decide +kernel
    rwa [hread] at hfirst
  obtain ⟨hframe, hsplit⟩ := runText_frame words t r
  exact ⟨a, after, hread, hzero, hframe, ((hsplit [] a after hread).1 hzero).2, by decide +kernel⟩

end Assignment

end Hyperfiction

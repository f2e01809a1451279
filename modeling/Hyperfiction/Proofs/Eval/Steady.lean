import Hyperfiction.Proofs.Eval.Made

/-!
# Acts that draw nothing

Every draw uses up at least one random word (`Draw.lt_used_below`), and nothing gives one back. An act
that ends with as many words used as it began with has therefore drawn none, and then it does the same
at every place of the stream of words (`Act.Made.steady`).
-/

namespace Hyperfiction

/-! ### Draws use words up -/

namespace Draw

private theorem lt_used_belowWithin (words : Words) (range tries used : Nat) :
    used < (belowWithin words range tries used).used := by
  induction tries generalizing used with
  | zero => exact Nat.lt_succ_self used
  | succ tries ih =>
    rw [belowWithin]
    split
    · exact Nat.lt_succ_self used
    · exact Nat.lt_trans (Nat.lt_succ_self used) (ih (used + 1))

/-- A number is drawn from at least one word. -/
theorem lt_used_below (words : Words) (range used : Nat) : used < (below words range used).used := by
  rw [below]
  split
  · exact Nat.lt_succ_self used
  · exact lt_used_belowWithin words range _ used

theorem lt_used_between (words : Words) (a b : Int64) (used : Nat) :
    used < (between words a b used).used :=
  lt_used_below words _ used

end Draw

/-! ### Acts -/

namespace Act

variable {α β : Type} {words : Words} {reads writes : Text → Prop}

/-- The act is **steady**: it gives no random words back, and where it draws none it does the same at
every place of the stream. -/
structure Steady (x : Act α) : Prop where
  le_used : ∀ r, r.used ≤ (x.run r).2.used
  run_eq : ∀ r, (x.run r).2.used = r.used → ∀ n,
    x.run { r with used := n } = ((x.run r).1, { (x.run r).2 with used := n })

/-- One act behind another draws nothing exactly when neither does. -/
theorem Steady.bind {x : Act α} {f : α → Act β} (hx : Steady x) (hf : ∀ a, Steady (f a)) :
    Steady (x >>= f) := by
  constructor
  · intro r
    exact Nat.le_trans (hx.le_used r) ((hf _).le_used _)
  · intro r hr n
    have hfirst := hx.le_used r
    have hsecond := (hf (x.run r).1).le_used (x.run r).2
    change ((f (x.run r).1).run (x.run r).2).2.used = r.used at hr
    have hx' : (x.run r).2.used = r.used := by omega
    have hf' : ((f (x.run r).1).run (x.run r).2).2.used = (x.run r).2.used := by omega
    rw [StateT.run_bind, hx.run_eq r hx' n]
    exact (hf (x.run r).1).run_eq (x.run r).2 hf' n

/-- **An act that draws nothing does the same at every place of the stream**, if it is made of looks,
draws and bindings. -/
theorem Made.steady {x : Act α} (h : Made words reads writes x) : Steady x := by
  induction h with
  | pure a => exact ⟨fun _ => Nat.le_refl _, fun _ _ _ => rfl⟩
  | bind _ _ hx hf => exact hx.bind hf
  | @look _ f hagree _ hf =>
    refine ⟨fun r => (hf r).le_used r, fun r hr n => ?_⟩
    change (f { r with used := n }).run { r with used := n } = _
    rw [hagree { r with used := n } r fun _ _ => rfl]
    exact (hf r).run_eq r hr n
  | bindTo hx v => exact ⟨fun _ => Nat.le_refl _, fun _ _ _ => rfl⟩
  | drawBelow range =>
    have hlt (r : Run) : r.used < ((Act.drawBelow words range).run r).2.used :=
      Draw.lt_used_below words range r.used
    exact ⟨fun r => Nat.le_of_lt (hlt r), fun r hr => absurd hr (Nat.ne_of_gt (hlt r))⟩
  | drawBetween a b =>
    have hlt (r : Run) : r.used < ((Act.drawBetween words a b).run r).2.used :=
      Draw.lt_used_between words a b r.used
    exact ⟨fun r => Nat.le_of_lt (hlt r), fun r hr => absurd hr (Nat.ne_of_gt (hlt r))⟩

end Act

end Hyperfiction

import Hyperfiction.Proofs.Eval.Made

/-!
# Two runs of evaluation side by side

`Act.Related I R x y` says that two acts, started in runs that the relation `I` holds between, end in
results related by `R` and in runs between which `I` holds again. `Act.Framed I reads writes` says what
`I` has to respect: the variables that may be read have the same values, the same words are drawn, and
assignments to variables that may be written keep it. An act that is made of such looks, draws and
bindings then does the same in both runs (`Act.Made.related`): conditions
(`Condition.textHolds_related`) and assignments (`Assignment.runText_related`), as long as they name no
other variables. With one run on both sides this is an invariant of runs (`Act.Made.keeps`); with two it is
noninterference.
-/

namespace Hyperfiction

namespace Act

variable {α β γ δ : Type} {I : Run → Run → Prop}

/-- Started in runs that `I` holds between, two acts give results that `R` relates, and end in runs
that `I` holds between. -/
def Related (I : Run → Run → Prop) (R : α → β → Prop) (x : Act α) (y : Act β) : Prop :=
  ∀ r₁ r₂, I r₁ r₂ → R (x.run r₁).1 (y.run r₂).1 ∧ I (x.run r₁).2 (y.run r₂).2

theorem Related.pure {R : α → β → Prop} {a : α} {b : β} (h : R a b) :
    Related I R (pure a) (pure b) :=
  fun _ _ hI => ⟨h, hI⟩

theorem Related.bind {R : α → β → Prop} {S : γ → δ → Prop} {x : Act α} {y : Act β}
    {f : α → Act γ} {g : β → Act δ} (hx : Related I R x y)
    (hf : ∀ a b, R a b → Related I S (f a) (g b)) : Related I S (x >>= f) (y >>= g) := by
  intro r₁ r₂ hI
  obtain ⟨hR, hI'⟩ := hx r₁ r₂ hI
  exact hf _ _ hR _ _ hI'

/-- The rule for acts that give the same result. -/
theorem Related.bind_eq {S : γ → δ → Prop} {x y : Act α} {f : α → Act γ} {g : α → Act δ}
    (hx : Related I Eq x y) (hf : ∀ a, Related I S (f a) (g a)) :
    Related I S (x >>= f) (y >>= g) :=
  hx.bind fun a _ hab => hab ▸ hf a

theorem Related.mono {R S : α → β → Prop} {x : Act α} {y : Act β} (h : Related I R x y)
    (hRS : ∀ a b, R a b → S a b) : Related I S x y :=
  fun r₁ r₂ hI => ⟨hRS _ _ (h r₁ r₂ hI).1, (h r₁ r₂ hI).2⟩

/-- The rule for acts that begin with a look at the run. -/
theorem Related.get_bind {S : γ → δ → Prop} {f : Run → Act γ} {g : Run → Act δ}
    (h : ∀ r₁ r₂, I r₁ r₂ → Related I S (f r₁) (g r₂)) : Related I S (get >>= f) (get >>= g) :=
  fun r₁ r₂ hI => h r₁ r₂ hI r₁ r₂ hI

/-- Between runs that `I` holds between, the variables in `reads` have the same values and the same
words come next; draws keep `I`, and so do assignments to variables in `writes`. -/
structure Framed (I : Run → Run → Prop) (reads writes : Text → Prop) : Prop where
  get? : ∀ {r₁ r₂ x}, I r₁ r₂ → reads x → r₁.store.get? x = r₂.store.get? x
  used : ∀ {r₁ r₂}, I r₁ r₂ → r₁.used = r₂.used
  draw : ∀ {r₁ r₂}, I r₁ r₂ → ∀ n, I { r₁ with used := n } { r₂ with used := n }
  bind : ∀ {r₁ r₂ x}, I r₁ r₂ → writes x → ∀ v,
    I { r₁ with store := r₁.store.insert x v } { r₂ with store := r₂.store.insert x v }

variable {reads writes : Text → Prop}

private theorem drawBelow_related (hI : Framed I reads writes) (words : Words) (range : Nat) :
    Related I Eq (drawBelow words range) (drawBelow words range) := by
  intro r₁ r₂ h
  have hused := hI.used h
  refine ⟨?_, ?_⟩
  · change (Draw.below words range r₁.used).result = (Draw.below words range r₂.used).result
    rw [hused]
  · change I { r₁ with used := (Draw.below words range r₁.used).used }
      { r₂ with used := (Draw.below words range r₂.used).used }
    rw [hused]
    exact hI.draw h _

/-- The same words are drawn between two bounds. -/
private theorem drawBetween_related (hI : Framed I reads writes) (words : Words) (a b : Int64) :
    Related I Eq (drawBetween words a b) (drawBetween words a b) := by
  intro r₁ r₂ h
  have hused := hI.used h
  refine ⟨?_, ?_⟩
  · change (Draw.between words a b r₁.used).result = (Draw.between words a b r₂.used).result
    rw [hused]
  · change I { r₁ with used := (Draw.between words a b r₁.used).used }
      { r₂ with used := (Draw.between words a b r₂.used).used }
    rw [hused]
    exact hI.draw h _

/-- **An act does the same in two runs** if it is made of looks, draws and bindings that the relation
between them respects. -/
theorem Made.related {words : Words} {x : Act α} (h : Made words reads writes x)
    (hI : Framed I reads writes) : Related I Eq x x := by
  induction h with
  | pure a => exact .pure rfl
  | bind _ _ hx hf => exact hx.bind_eq hf
  | look hagree _ hf =>
    refine Related.get_bind fun r₁ r₂ hr => ?_
    rw [hagree r₁ r₂ fun x hx => hI.get? hr hx]
    exact hf r₂
  | bindTo hx v => exact fun _ _ hr => ⟨rfl, hI.bind hr hx v⟩
  | drawBelow range => exact drawBelow_related hI words range
  | drawBetween a b => exact drawBetween_related hI words a b

/-- **What draws and bindings keep** an act keeps, if that is what all bindings of the variables that it may
write keep. -/
theorem Made.keeps {words : Words} {x : Act α} {P : Run → Prop} (h : Made words reads writes x)
    (hdraw : ∀ r n, P r → P { r with used := n })
    (hbind : ∀ r y v, writes y → P r → P { r with store := r.store.insert y v }) {r : Run} (hr : P r) :
    P (x.run r).2 := by
  -- A run beside itself, in which that is what it keeps.
  have hframed : Framed (fun r₁ r₂ => r₁ = r₂ ∧ P r₁) reads writes :=
    ⟨fun h _ => by rw [h.1], fun h => by rw [h.1], fun h n => ⟨by rw [h.1], hdraw _ n h.2⟩,
      fun h hy v => ⟨by rw [h.1], hbind _ _ v hy h.2⟩⟩
  exact (h.related hframed r r ⟨rfl, hr⟩).2.2

/-- An act that binds no variable leaves the variables as they were. -/
theorem Made.store_eq {words : Words} {x : Act α} (h : Made words reads (fun _ => False) x) (r : Run) :
    (x.run r).2.store = r.store :=
  h.keeps (P := fun s => s.store = r.store) (fun _ _ hs => hs) (fun _ _ _ hy => hy.elim) rfl

/-- What each of two runs keeps by itself, they keep side by side. -/
theorem Related.and_keeps {R : α → β → Prop} {x : Act α} {y : Act β} {P : Run → Prop} (h : Related I R x y)
    (hx : ∀ r, P r → P (x.run r).2) (hy : ∀ r, P r → P (y.run r).2) :
    Related (fun r₁ r₂ => I r₁ r₂ ∧ P r₁ ∧ P r₂) R x y :=
  fun r₁ r₂ hr => ⟨(h r₁ r₂ hr.1).1, (h r₁ r₂ hr.1).2, hx r₁ hr.2.1, hy r₂ hr.2.2⟩

end Act

variable {I : Run → Run → Prop} {reads writes : Text → Prop}

/-- **Conditions hold alike** in runs that agree on their variables. -/
theorem Condition.textHolds_related (hI : Act.Framed I reads writes) (w : Setting) {t : Text}
    (h : ∀ x ∈ textNames t, reads x) : Act.Related I Eq (textHolds w t) (textHolds w t) :=
  (textHolds_made w h).related hI

/-- **Assignments do the same** in runs that agree on the variables they read. -/
theorem Assignment.runText_related (hI : Act.Framed I reads writes) (words : Words) {t : Text}
    (hr : ∀ x ∈ textNames t, reads x) (hw : ∀ x ∈ textTargets t, writes x) :
    Act.Related I Eq (runText words t) (runText words t) :=
  (runText_made words hr hw).related hI

end Hyperfiction

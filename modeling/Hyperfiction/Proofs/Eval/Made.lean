import Hyperfiction.Assignment.Run
import Hyperfiction.Eval.Condition

/-!
# What acts are made of

Evaluation looks at variables, draws random words and binds variables, and does nothing else to its run.
`Act.Made words reads writes x` says so of an act `x`: it is put together of looks at variables in
`reads`, draws from `words` and bindings of variables in `writes`. Expressions (`Expr.evaluate_made`),
conditions (`Condition.textHolds_made`) and assignments (`Assignment.runText_made`) are such acts, as far
as they name no other variables; what every look, every draw and every binding keeps they keep, by
induction on how they are made.
-/

namespace Hyperfiction

namespace Act

/-- The act is **made** of looks at the variables in `reads`, draws, and bindings of the variables in
`writes`. -/
inductive Made (words : Words) (reads writes : Text → Prop) : {α : Type} → Act α → Prop
  | pure {α : Type} (a : α) : Made words reads writes (Pure.pure a : Act α)
  | bind {α β : Type} {x : Act α} {f : α → Act β} :
    Made words reads writes x → (∀ a, Made words reads writes (f a)) →
      Made words reads writes (x >>= f)
  /-- What follows a look depends on the variables that may be read and on nothing else of the run. -/
  | look {α : Type} {f : Run → Act α} :
    (∀ r₁ r₂ : Run, (∀ x, reads x → r₁.store.get? x = r₂.store.get? x) → f r₁ = f r₂) →
      (∀ r, Made words reads writes (f r)) → Made words reads writes (get >>= f)
  | bindTo {x : Text} (hx : writes x) (v : Value) : Made words reads writes (bindTo x v)
  | drawBelow (range : Nat) : Made words reads writes (drawBelow words range)
  | drawBetween (a b : Int64) : Made words reads writes (drawBetween words a b)

end Act

/-! ### The variables that are named -/

/-- The variable that a name stands for, whose `$` may be in front. -/
def Text.bareName : Text → Text
  | '$' :: bare => bare
  | bare => bare

theorem Snapshot.lookup?_eq (s : Snapshot) (name : Text) :
    s.lookup? name = s.get? (Text.bareName name) := by
  unfold Snapshot.lookup?
  split
  · rfl
  · rename_i hbare
    rw [Text.bareName]
    exact hbare

namespace Snapshot

variable {s₁ s₂ : Snapshot} {reads : Text → Prop}

theorem lookup?_congr (h : ∀ x, reads x → s₁.get? x = s₂.get? x) {name : Text}
    (hn : reads (Text.bareName name)) : s₁.lookup? name = s₂.lookup? name := by
  rw [lookup?_eq, lookup?_eq, h _ hn]

end Snapshot

theorem Act.lookup?_made {words : Words} {reads writes : Text → Prop} {x : Text}
    (hx : reads (Text.bareName x)) : Act.Made words reads writes (Act.lookup? x) :=
  .look (fun _ _ h => by rw [Snapshot.lookup?_congr h hx]) fun _ => .pure _

namespace Expr

mutual

/-- The variables that the value of an expression may depend on. -/
def names : Expr → List Text
  | .number _ | .quoted _ | .boolean _ | .word _ | .it | .visited _ => []
  | .var name => [Text.bareName name]
  | .neg e => names e
  | .binary _ left right => names left ++ names right
  | .call _ args => namesAll args
  | .item object index => names object ++ names index

/-- The variables that the values of some expressions may depend on. -/
def namesAll : List Expr → List Text
  | [] => []
  | e :: es => names e ++ namesAll es

end

variable {reads writes : Text → Prop}

mutual

/-- **An expression is made** of looks at its variables and draws. -/
theorem evaluate_made (w : Setting) :
    ∀ e : Expr, (∀ x ∈ e.names, reads x) → Act.Made w.words reads writes (e.evaluate w)
  | .number _, _ | .quoted _, _ | .boolean _, _ | .word _, _ | .it, _ | .visited _, _ => by
    rw [evaluate]
    exact .pure _
  | .var name, h => by
    rw [evaluate]
    exact Act.lookup?_made (h _ (by simp [names]))
  | .neg e, h => by
    rw [evaluate]
    exact (evaluate_made w e (by simpa [names] using h)).bind fun v => .pure _
  | .binary op left right, h => by
    rw [evaluate]
    refine (evaluate_made w left fun x hx => h x (by simp [names, hx])).bind fun v => ?_
    cases v with
    | none => exact .pure _
    | some v =>
      refine (evaluate_made w right fun x hx => h x (by simp [names, hx])).bind fun u => ?_
      cases u <;> exact .pure _
  | .call name args, h => by
    have hargs : ∀ x ∈ namesAll args, reads x := by simpa [names] using h
    rw [evaluate]
    split
    · exact evaluateRandom_made w args hargs
    · split
      · exact .pure _
      · exact (Act.Made.drawBelow _).bind fun i => evaluateNth_made w args hargs i
    · exact (evaluateAll_made w args hargs).bind fun vs => .pure _
    · exact (evaluateAll_made w args hargs).bind fun vs => .pure _
    · exact .pure _
  | .item object index, h => by
    rw [evaluate]
    refine (evaluate_made w object fun x hx => h x (by simp [names, hx])).bind fun v => ?_
    cases v with
    | none => exact .pure _
    | some v =>
      dsimp only
      split
      · exact .pure _
      · exact (evaluate_made w index fun x hx => h x (by simp [names, hx])).bind
          fun place => .pure _

theorem evaluateRandom_made (w : Setting) :
    ∀ es : List Expr, (∀ x ∈ namesAll es, reads x) →
      Act.Made w.words reads writes (evaluateRandom w es)
  | [lo, hi], h => by
    rw [evaluateRandom]
    refine (evaluate_made w lo fun x hx => h x (by simp [namesAll, hx])).bind fun v => ?_
    split
    · exact .pure _
    · refine (evaluate_made w hi fun x hx => h x (by simp [namesAll, hx])).bind fun u => ?_
      split
      · exact .pure _
      · exact (Act.Made.drawBetween _ _).bind fun n => .pure _
  | [], _ | [_], _ | _ :: _ :: _ :: _, _ => by
    simp only [evaluateRandom]
    exact .pure _

theorem evaluateNth_made (w : Setting) :
    ∀ es : List Expr, (∀ x ∈ namesAll es, reads x) → ∀ n,
      Act.Made w.words reads writes (evaluateNth w es n)
  | [], _, _ => by
    rw [evaluateNth]
    exact .pure _
  | e :: es, h, 0 => by
    rw [evaluateNth]
    exact evaluate_made w e fun x hx => h x (by simp [namesAll, hx])
  | e :: es, h, n + 1 => by
    rw [evaluateNth]
    exact evaluateNth_made w es (fun x hx => h x (by simp [namesAll, hx])) n

/-- Arguments read the variables that they name. -/
theorem evaluateAll_made (w : Setting) :
    ∀ es : List Expr, (∀ x ∈ namesAll es, reads x) →
      Act.Made w.words reads writes (evaluateAll w es)
  | [], _ => by
    rw [evaluateAll]
    exact .pure _
  | e :: es, h => by
    rw [evaluateAll]
    refine (evaluate_made w e fun x hx => h x (by simp [namesAll, hx])).bind fun v => ?_
    exact (evaluateAll_made w es fun x hx => h x (by simp [namesAll, hx])).bind fun vs => .pure _

end

end Expr

/-! ### Conditions -/

namespace Condition

/-- The variables that a bare operand reads: a word reads the variable of its name. -/
def truthNames : Expr → List Text
  | .word name => [Text.bareName name]
  | e => e.names

mutual

/-- The variables that a condition may depend on. -/
def names : Condition → List Text
  | .not c => names c
  | .all parts => namesAll parts
  | .any parts => namesAll parts
  | .compare _ left right => left.names ++ right.names
  | .truth e => truthNames e
  | .invalid _ => []

/-- The variables that some conditions may depend on. -/
def namesAll : List Condition → List Text
  | [] => []
  | c :: cs => names c ++ namesAll cs

end

variable {reads writes : Text → Prop}

/-- The truth of an expression is made of looks at the variables it names, and draws. -/
private theorem isTrue_made (w : Setting) {e : Expr} (h : ∀ x ∈ truthNames e, reads x) :
    Act.Made w.words reads writes (isTrue w e) := by
  unfold isTrue
  split
  · exact (Act.lookup?_made (h _ (by simp [truthNames]))).bind fun v => .pure _
  · have he : ∀ x ∈ e.names, reads x := by
      intro x hx
      refine h x ?_
      unfold truthNames
      split <;> simp_all
    exact (Expr.evaluate_made w e he).bind fun v => .pure _

mutual

/-- **A condition is made** of looks at its variables and draws. -/
theorem holds_made (w : Setting) :
    ∀ c : Condition, (∀ x ∈ c.names, reads x) → Act.Made w.words reads writes (c.holds w)
  | .not c, h => by
    rw [holds]
    exact (holds_made w c (by simpa [names] using h)).bind fun b => .pure _
  | .all parts, h | .any parts, h => by
    rw [holds]
    exact (answers_made w parts (by simpa [names] using h)).bind fun bs => .pure _
  | .compare op left right, h => by
    rw [holds]
    refine (Expr.evaluate_made w left fun x hx => h x (by simp [names, hx])).bind fun l => ?_
    exact (Expr.evaluate_made w right fun x hx => h x (by simp [names, hx])).bind fun r => .pure _
  | .truth e, h => by
    rw [holds]
    exact isTrue_made w (by simpa [names] using h)
  | .invalid _, _ => by
    rw [holds]
    exact .pure _

theorem answers_made (w : Setting) :
    ∀ cs : List Condition, (∀ x ∈ namesAll cs, reads x) →
      Act.Made w.words reads writes (answers w cs)
  | [], _ => by
    rw [answers]
    exact .pure _
  | c :: cs, h => by
    rw [answers]
    refine (holds_made w c fun x hx => h x (by simp [namesAll, hx])).bind fun b => ?_
    exact (answers_made w cs fun x hx => h x (by simp [namesAll, hx])).bind fun bs => .pure _

end

/-- The variables that the condition of a text may depend on. -/
def textNames (t : Text) : List Text := (ofText t).names

/-- **A condition is made** of looks at the variables its text names, and draws. -/
theorem textHolds_made (w : Setting) {t : Text} (h : ∀ x ∈ textNames t, reads x) :
    Act.Made w.words reads writes (textHolds w t) :=
  holds_made w (ofText t) h

end Condition

/-! ### Assignments -/

namespace Assignment

/-- The variable that an assignment to `target` reads an old value from. -/
def sourceName (target : Text) (source : Source) : Text := Text.bareName (source.name target)

/-- The variables that a right side reads for an assignment to `target`. -/
def rightNames (target : Text) : RightSide → List Text
  | .arithmetic source _ operand => sourceName target source :: operand.names
  | .append source items | .merge source items => sourceName target source :: Expr.namesAll items
  | .list items => Expr.namesAll items
  | .random lo hi => lo.names ++ hi.names
  | .copy name => [Text.bareName name]
  | .emptyMap | .number _ | .boolean _ | .text _ => []

/-- The variables that an assignment reads. -/
def names (a : Assignment) : List Text := rightNames a.target a.value

end Assignment

namespace Snapshot

variable {s₁ s₂ : Snapshot} {reads : Text → Prop}

/-- The number in a variable depends on that variable alone. -/
private theorem numberOrZero_congr (h : ∀ x, reads x → s₁.get? x = s₂.get? x) {name : Text}
    (hn : reads (Text.bareName name)) : s₁.numberOrZero name = s₂.numberOrZero name := by
  rw [numberOrZero, numberOrZero, lookup?_congr h hn]

/-- An operand depends on the variables it names. -/
private theorem operand_congr (h : ∀ x, reads x → s₁.get? x = s₂.get? x) {e : Expr}
    (hn : ∀ x ∈ e.names, reads x) : s₁.operand e = s₂.operand e := by
  cases e with
  | var name => exact numberOrZero_congr h (hn _ (by simp [Expr.names]))
  | _ => rfl

private theorem literal?_congr (h : ∀ x, reads x → s₁.get? x = s₂.get? x) {e : Expr}
    (hn : ∀ x ∈ e.names, reads x) : s₁.literal? e = s₂.literal? e := by
  cases e with
  | var name => exact lookup?_congr h (hn _ (by simp [Expr.names]))
  | _ => rfl

/-- The items of a list depend on the variables they name. -/
private theorem literals_congr (h : ∀ x, reads x → s₁.get? x = s₂.get? x) {es : List Expr}
    (hn : ∀ x ∈ Expr.namesAll es, reads x) :
    es.filterMap s₁.literal? = es.filterMap s₂.literal? := by
  induction es with
  | nil => rfl
  | cons e es ih =>
    have he : s₁.literal? e = s₂.literal? e :=
      literal?_congr h fun x hx => hn x (by simp [Expr.namesAll, hx])
    have hes := ih fun x hx => hn x (by simp [Expr.namesAll, hx])
    rw [List.filterMap_cons, List.filterMap_cons, he, hes]

end Snapshot

namespace Assignment

variable {reads writes : Text → Prop}

/-- **The value of an assignment** is made of looks at the variables it reads, and draws. -/
theorem value?_made (words : Words) {a : Assignment} (h : ∀ x ∈ a.names, reads x) :
    Act.Made words reads writes (value? words a.target a.value) := by
  obtain ⟨target, right⟩ := a
  -- All that a right side reads it reads in the run in which it begins.
  refine .look (fun r₁ r₂ hget => ?_) fun r => ?_
  · cases right with
    | arithmetic source op operand =>
      have hold : r₁.store.numberOrZero (source.name target) = r₂.store.numberOrZero (source.name target) :=
        Snapshot.numberOrZero_congr hget (h _ (by simp [names, rightNames, sourceName]))
      have hoperand : r₁.store.operand operand = r₂.store.operand operand :=
        Snapshot.operand_congr hget fun x hx => h x (by simp [names, rightNames, hx])
      dsimp only
      rw [hold, hoperand]
    | append source items | merge source items =>
      have hold : r₁.store.lookup? (source.name target) = r₂.store.lookup? (source.name target) :=
        Snapshot.lookup?_congr hget (h _ (by simp [names, rightNames, sourceName]))
      have hitems : items.filterMap r₁.store.literal? = items.filterMap r₂.store.literal? :=
        Snapshot.literals_congr hget fun x hx => h x (by simp [names, rightNames, hx])
      dsimp only
      rw [hold, hitems]
    | list items =>
      have hitems : items.filterMap r₁.store.literal? = items.filterMap r₂.store.literal? :=
        Snapshot.literals_congr hget fun x hx => h x (by simp [names, rightNames, hx])
      dsimp only
      rw [hitems]
    | random lo hi =>
      have hlo : r₁.store.operand lo = r₂.store.operand lo :=
        Snapshot.operand_congr hget fun x hx => h x (by simp [names, rightNames, hx])
      have hhi : r₁.store.operand hi = r₂.store.operand hi :=
        Snapshot.operand_congr hget fun x hx => h x (by simp [names, rightNames, hx])
      dsimp only
      rw [hlo, hhi]
    | copy name =>
      have hold : r₁.store.lookup? name = r₂.store.lookup? name :=
        Snapshot.lookup?_congr hget (h _ (by simp [names, rightNames]))
      dsimp only
      rw [hold]
    | emptyMap | number _ | boolean _ | text _ => rfl
  · cases right with
    | random lo hi => exact (Act.Made.drawBetween _ _).bind fun n => .pure _
    | _ => exact .pure _

/-- The variables that the assignments of a text read. -/
def textNames (t : Text) : List Text := (ofText t).flatMap names

/-- The variables that the assignments of a text are to. -/
def textTargets (t : Text) : List Text := (ofText t).map target

/-- **An assignment is made** of looks at the variables it reads, draws, and a binding of its target. -/
theorem run_made (words : Words) {a : Assignment} (hr : ∀ x ∈ a.names, reads x) (hw : writes a.target) :
    Act.Made words reads writes (run words a) := by
  refine (value?_made words hr).bind fun v => ?_
  cases v with
  | none => exact .pure _
  | some v => exact .bindTo hw v

private theorem runAll_made (words : Words) {as : List Assignment}
    (hr : ∀ x ∈ as.flatMap names, reads x) (hw : ∀ x ∈ as.map target, writes x) :
    Act.Made words reads writes (runAll words as) := by
  induction as with
  | nil => exact .pure _
  | cons a as ih =>
    have hvalue : Act.Made words reads writes (run words a) :=
      run_made words (fun x hx => hr x (by simp [hx])) (hw _ (by simp))
    refine hvalue.bind fun _ => ih (fun x hx => ?_) (fun x hx => ?_)
    · exact hr x (by rw [List.flatMap_cons]; exact List.mem_append_right _ hx)
    · exact hw x (List.mem_cons_of_mem _ hx)

/-- **Assignments are made** of looks at the variables they read, draws, and bindings of their
targets. -/
theorem runText_made (words : Words) {t : Text} (hr : ∀ x ∈ textNames t, reads x)
    (hw : ∀ x ∈ textTargets t, writes x) : Act.Made words reads writes (runText words t) :=
  runAll_made words hr hw

end Assignment

end Hyperfiction

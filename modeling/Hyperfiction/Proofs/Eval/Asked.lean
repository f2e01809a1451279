import Hyperfiction.Eval.Condition

/-!
# What evaluation asks about the visits

Expressions and conditions depend on the visits and on the tags of passages only through the answers to
the queries in them (`Expr.queries`, `Condition.queries`). In two settings that draw the same words and
give these queries the same answers, they do the same in every run (`Expr.evaluate_congr`,
`Condition.holds_congr`).
-/

namespace Hyperfiction

variable {w₁ w₂ : Setting}

namespace Expr

mutual

/-- The queries that the value of an expression may depend on. -/
def queries : Expr → List Query
  | .number _ | .quoted _ | .boolean _ | .word _ | .var _ | .it => []
  | .visited q => [q]
  | .neg e => queries e
  | .binary _ left right => queries left ++ queries right
  | .call _ args => queriesAll args
  | .item object index => queries object ++ queries index

/-- The queries that the values of some expressions may depend on. -/
def queriesAll : List Expr → List Query
  | [] => []
  | e :: es => queries e ++ queriesAll es

end

mutual

/-- **An expression does the same** in settings that answer its queries alike. -/
theorem evaluate_congr (hwords : w₁.words = w₂.words) :
    ∀ e : Expr, (∀ q ∈ e.queries, q.holds w₁ = q.holds w₂) → e.evaluate w₁ = e.evaluate w₂
  | .number _, _ | .quoted _, _ | .boolean _, _ | .word _, _ | .var _, _ | .it, _ => by
    rw [evaluate, evaluate]
  | .visited q, h => by
    rw [evaluate, evaluate, h q (by simp [queries])]
  | .neg e, h => by
    rw [evaluate, evaluate, evaluate_congr hwords e (by simpa [queries] using h)]
  | .binary op left right, h => by
    have hleft := evaluate_congr hwords left fun q hq => h q (by simp [queries, hq])
    have hright := evaluate_congr hwords right fun q hq => h q (by simp [queries, hq])
    rw [evaluate, evaluate, hleft, hright]
  | .call name args, h => by
    have hargs : ∀ q ∈ queriesAll args, q.holds w₁ = q.holds w₂ := by simpa [queries] using h
    rw [evaluate, evaluate, evaluateRandom_congr hwords args hargs, evaluateAll_congr hwords args hargs,
      hwords]
    simp only [evaluateNth_congr hwords args hargs]
  | .item object index, h => by
    have hobject := evaluate_congr hwords object fun q hq => h q (by simp [queries, hq])
    have hindex := evaluate_congr hwords index fun q hq => h q (by simp [queries, hq])
    rw [evaluate, evaluate, hobject, hindex]

theorem evaluateRandom_congr (hwords : w₁.words = w₂.words) :
    ∀ es : List Expr, (∀ q ∈ queriesAll es, q.holds w₁ = q.holds w₂) →
      evaluateRandom w₁ es = evaluateRandom w₂ es
  | [lo, hi], h => by
    have hlo := evaluate_congr hwords lo fun q hq => h q (by simp [queriesAll, hq])
    have hhi := evaluate_congr hwords hi fun q hq => h q (by simp [queriesAll, hq])
    rw [evaluateRandom, evaluateRandom, hlo, hhi, hwords]
  | [], _ | [_], _ | _ :: _ :: _ :: _, _ => by
    simp only [evaluateRandom]

theorem evaluateNth_congr (hwords : w₁.words = w₂.words) :
    ∀ es : List Expr, (∀ q ∈ queriesAll es, q.holds w₁ = q.holds w₂) → ∀ n,
      evaluateNth w₁ es n = evaluateNth w₂ es n
  | [], _, _ => by
    rw [evaluateNth, evaluateNth]
  | e :: es, h, 0 => by
    rw [evaluateNth, evaluateNth, evaluate_congr hwords e fun q hq => h q (by simp [queriesAll, hq])]
  | e :: es, h, n + 1 => by
    rw [evaluateNth, evaluateNth,
      evaluateNth_congr hwords es (fun q hq => h q (by simp [queriesAll, hq])) n]

/-- Arguments have the same values where the questions in them have the same answers. -/
theorem evaluateAll_congr (hwords : w₁.words = w₂.words) :
    ∀ es : List Expr, (∀ q ∈ queriesAll es, q.holds w₁ = q.holds w₂) →
      evaluateAll w₁ es = evaluateAll w₂ es
  | [], _ => by
    rw [evaluateAll, evaluateAll]
  | e :: es, h => by
    have he := evaluate_congr hwords e fun q hq => h q (by simp [queriesAll, hq])
    have hes := evaluateAll_congr hwords es fun q hq => h q (by simp [queriesAll, hq])
    rw [evaluateAll, evaluateAll, he, hes]

end

end Expr

namespace Condition

mutual

/-- The queries that a condition may depend on. -/
def queries : Condition → List Query
  | .not c => queries c
  | .all parts => queriesAll parts
  | .any parts => queriesAll parts
  | .compare _ left right => left.queries ++ right.queries
  | .truth e => e.queries
  | .invalid _ => []

/-- The queries that some conditions may depend on. -/
def queriesAll : List Condition → List Query
  | [] => []
  | c :: cs => queries c ++ queriesAll cs

end

/-- The truth of an expression depends on the answers to its questions. -/
private theorem isTrue_congr (hwords : w₁.words = w₂.words) {e : Expr}
    (h : ∀ q ∈ e.queries, q.holds w₁ = q.holds w₂) : isTrue w₁ e = isTrue w₂ e := by
  unfold isTrue
  split
  · rfl
  · rw [Expr.evaluate_congr hwords e h]

mutual

/-- **A condition holds alike** in settings that answer its queries alike. -/
theorem holds_congr (hwords : w₁.words = w₂.words) :
    ∀ c : Condition, (∀ q ∈ c.queries, q.holds w₁ = q.holds w₂) → c.holds w₁ = c.holds w₂
  | .not c, h => by
    rw [holds, holds, holds_congr hwords c (by simpa [queries] using h)]
  | .all parts, h | .any parts, h => by
    rw [holds, holds, answers_congr hwords parts (by simpa [queries] using h)]
  | .compare op left right, h => by
    have hleft := Expr.evaluate_congr hwords left fun q hq => h q (by simp [queries, hq])
    have hright := Expr.evaluate_congr hwords right fun q hq => h q (by simp [queries, hq])
    rw [holds, holds, hleft, hright]
  | .truth e, h => by
    rw [holds, holds, isTrue_congr hwords (by simpa [queries] using h)]
  | .invalid _, _ => by
    rw [holds, holds]

theorem answers_congr (hwords : w₁.words = w₂.words) :
    ∀ cs : List Condition, (∀ q ∈ queriesAll cs, q.holds w₁ = q.holds w₂) →
      answers w₁ cs = answers w₂ cs
  | [], _ => by
    rw [answers, answers]
  | c :: cs, h => by
    have hc := holds_congr hwords c fun q hq => h q (by simp [queriesAll, hq])
    have hcs := answers_congr hwords cs fun q hq => h q (by simp [queriesAll, hq])
    rw [answers, answers, hc, hcs]

end

end Condition

end Hyperfiction

import Hyperfiction.Proofs.Eval.Asked
import Hyperfiction.Proofs.Markup.Pass

/-!
# The visits as a set

All that a passage can learn of the visits are the answers to queries, and these depend only on which
passages are among the visits (`Query.holds_of_visits`): neither the order nor the number of the visits
matters to them. `Setting.Alike` holds between settings that answer all queries alike. Each stage of a
passage is the same act in such settings, at every depth of its hooks (`draft_congr`), and so compiling
comes to the same passage and the same draws (`Compiler.compile_of_visits`).
-/

namespace Hyperfiction

/-! ### Settings that answer alike -/

/-- The settings answer all queries alike, and differ in nothing else but visits and tags. -/
structure Setting.Alike (w₁ w₂ : Setting) : Prop where
  words : w₁.words = w₂.words
  limits : w₁.limits = w₂.limits
  answers : ∀ q : Query, q.holds w₁ = q.holds w₂

/-- **Queries ask for the set of visits** only. -/
theorem Query.holds_of_visits {v₁ v₂ : List Text} (h : ∀ name, name ∈ v₁ ↔ name ∈ v₂)
    (tags : Table (List Text)) (words : Words) (limits : Limits) (q : Query) :
    q.holds ⟨v₁, tags, words, limits⟩ = q.holds ⟨v₂, tags, words, limits⟩ := by
  rw [Bool.eq_iff_iff]
  cases q with
  | passage name => simp [holds, Setting.hasVisited, h]
  | tag part => simp [holds, Setting.hasVisitedTag, h]

/-! ### The stages of a passage -/

section Stages

variable {w₁ w₂ : Setting} (h : w₁.Alike w₂)
include h

/-- The same branch is taken where questions have the same answers. -/
private theorem take_congr {body₁ body₂ : Text → Act Text} (hbody : ∀ t, body₁ t = body₂ t)
    (bs : List Branch) : Chain.take w₁ body₁ bs = Chain.take w₂ body₂ bs := by
  induction bs with
  | nil => rfl
  | cons b bs ih =>
    have hholds : b.holds w₁ = b.holds w₂ := by
      unfold Branch.holds
      split
      · exact Condition.holds_congr h.words _ fun q _ => h.answers q
      · rfl
    rw [Chain.take, Chain.take, hholds, hbody, ih]

private theorem resolve_congr {body₁ body₂ : Text → Act Text} (hbody : ∀ t, body₁ t = body₂ t)
    (k : Conditional) : k.resolve w₁ body₁ = k.resolve w₂ body₂ := by
  cases k with
  | chain c => rw [Conditional.resolve_chain, Conditional.resolve_chain, take_congr h hbody]
  | guard g => rw [Conditional.resolve, Conditional.resolve, h.answers, hbody]
  | stray => rfl

private theorem printMacro_congr (m : Invocation) : printMacro w₁ m = printMacro w₂ m := by
  have htext (t : Text) : printText w₁ t = printText w₂ t := by
    rw [printText, printText]
    cases Expr.ofText? t with
    | none => rfl
    | some e => simp only [Expr.evaluate_congr h.words e fun q _ => h.answers q]
  rw [printMacro, printMacro, htext, htext]

private theorem resolvePrints_congr (t : Text) : resolvePrints w₁ t = resolvePrints w₂ t := by
  have hmacro : printMacro w₁ = printMacro w₂ := funext (printMacro_congr h)
  rw [resolvePrints_eq_pass, resolvePrints_eq_pass, h.limits, hmacro]

/-- Conditionals are resolved alike, if bodies are. -/
private theorem reduceWith_congr {body₁ body₂ : Text → Act Text} (hbody : ∀ t, body₁ t = body₂ t)
    (t : Text) : reduceWith w₁ body₁ t = reduceWith w₂ body₂ t := by
  have hresolve : Conditional.resolve w₁ body₁ = Conditional.resolve w₂ body₂ :=
    funext (resolve_congr h hbody)
  rw [reduceWith_eq_pass, reduceWith_eq_pass, h.limits, hresolve]

/-- Bodies that are taken become the same at every depth. -/
private theorem reduceBody_congr (room : Nat) (t : Text) :
    reduceBody w₁ room t = reduceBody w₂ room t := by
  induction room generalizing t with
  | zero => rfl
  | succ room ih =>
    rw [reduceBody, reduceBody, reduceWith_congr h ih, h.words]
    simp only [resolvePrints_congr h]

/-- **A draft is the same** in settings that answer all queries alike. -/
theorem draft_congr (body : Text) : draft w₁ body = draft w₂ body := by
  have hreduce (t : Text) : reduceChains w₁ t = reduceChains w₂ t := by
    rw [reduceChains, reduceChains, h.limits]
    exact reduceWith_congr h (reduceBody_congr h _) t
  have hsettled : settled w₁ body = settled w₂ body := by
    rw [settled, settled, h.words, h.limits]
    simp only [hreduce]
  have hwritten (t : Text) : written w₁ t = written w₂ t := by
    rw [written, written, resolvePrints_congr h]
  rw [draft, draft, hsettled]
  simp only [hwritten]

end Stages

/-- **Compiling sees the visits as a set**: with the same passages among them, in any order and any
number of times, it gives the same passage and uses the same words. -/
theorem Compiler.compile_of_visits (c : Compiler) (tags : Table (List Text)) (words : Words)
    (p : PassageRecord) (snapshot : Snapshot) (used : Nat) {v₁ v₂ : List Text}
    (h : ∀ name, name ∈ v₁ ↔ name ∈ v₂) :
    c.compile (c.setting v₁ tags words) p snapshot used =
      c.compile (c.setting v₂ tags words) p snapshot used := by
  have halike : (c.setting v₁ tags words).Alike (c.setting v₂ tags words) :=
    ⟨rfl, rfl, Query.holds_of_visits h tags words c.limits⟩
  rw [compile, compile, draft_congr halike]

/-- Two visits of the hall are one to a passage that asks for it in a condition and, inside the hook of
that, for a tag and in a print for another passage. -/
theorem Compiler.compile_of_visits_repeated :
    (∀ name : Text, name ∈ ["Hall".toList, "Cellar".toList, "Hall".toList] ↔
      name ∈ ["Cellar".toList, "Hall".toList]) ∧
    let c : Compiler := {}
    let tags : Table (List Text) := Table.ofList [("Cellar".toList, ["dark".toList])]
    let p : PassageRecord := ⟨"Attic".toList, [],
      ("(if: (visited: \"Hall\"))[(visited: where its tags contains \"dark\")[" ++
        "(print: (either: (visited: Cellar), 2))]]").toList⟩
    c.compile (c.setting ["Hall".toList, "Cellar".toList, "Hall".toList] tags (Words.seeded 7)) p
        Table.empty 0 =
      c.compile (c.setting ["Cellar".toList, "Hall".toList] tags (Words.seeded 7)) p Table.empty 0 := by
  have hsame (name : Text) : name ∈ ["Hall".toList, "Cellar".toList, "Hall".toList] ↔
      name ∈ ["Cellar".toList, "Hall".toList] := by
    simp only [List.mem_cons, List.not_mem_nil, or_false]
    grind
  exact ⟨hsame, compile_of_visits {} _ (Words.seeded 7) _ Table.empty 0 hsame⟩

end Hyperfiction

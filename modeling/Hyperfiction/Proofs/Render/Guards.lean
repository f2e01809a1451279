import Hyperfiction.Proofs.Condition.Asking
import Hyperfiction.Proofs.Markup.Pass
import Hyperfiction.Render.Passage

/-!
# Guards as chains

A guard and a chain whose condition is the query of the guard guard the same hook, but they read the query
in two ways: the guard takes its argument up to the matching bracket and reads it by itself, the chain
reads all of its condition. They do the same in every setting exactly if the tokens of the argument are
the same between parentheses (`Guard.reduceChains_eq_chain_iff`). A name with an apostrophe that begins a
word, or with a bracket in quotes, is one that the guard knows and the chain does not
(`Guard.reduceChains_ne_chain_apostrophe`).
-/

namespace Hyperfiction

namespace Guard

/-- A guard with its hook. -/
def written (q body : Text) : Text := (Doc.guardCall q).source ++ (⟨[], body⟩ : Hook).source

/-- The chain that has the query of the guard as its condition. -/
def asChain (q body : Text) : Text :=
  (Doc.ifCall (Condition.asking q)).source ++ (⟨[], body⟩ : Hook).source

/-! ### What they become -/

section Reduced

variable {w : Setting} {limit : Nat} (hlimit : w.limits.maxReductions = limit + 1)
include hlimit

/-- A text that is one conditional is resolved to its body. -/
private theorem reduceChains_of_find? {t : Text} {k : Conditional}
    (h : Conditional.find? t = some ([], k, [])) :
    reduceChains w t = k.resolve w (reduceBody w w.limits.maxDepth) := by
  rw [reduceChains, reduceWith_eq_pass, hlimit, Finder.pass_of_eq_some Conditional.finder _ h,
    Finder.pass_of_eq_none Conditional.finder _ rfl]
  simp

variable {q body : Text} (hq : Bracket.round.Balanced q) (hbody : Bracket.square.Balanced body)
  (hlink : body.head? ≠ some '[')
include hq hbody hlink

/-- A guard gives its body if the question has the answer. -/
theorem reduceChains_written {query : Query} (hquery : Query.ofText? q = some query) :
    reduceChains w (written q body) =
      if query.holds w then reduceBody w w.limits.maxDepth body else pure [] := by
  have hhook : (⟨[], body⟩ : Hook).Readable := ⟨by simp, hbody, hlink⟩
  have hm : (Doc.guardCall q).Readable := ⟨show Invocation.IsName "visited".toList by decide, hq⟩
  have hn : Invocation.isNamed guardNames (Doc.guardCall q).name :=
    show Invocation.isNamed guardNames "visited".toList by decide
  have hread := read?_source_append (g := ⟨Doc.guardCall q, ⟨[], body⟩, query⟩) hm hn hquery hhook []
  rw [List.append_nil] at hread
  exact reduceChains_of_find? hlimit (Conditional.find?_guard hm.isName hn ⟨_, rfl⟩ hread)

/-- A chain that asks gives its body if the condition holds. -/
theorem reduceChains_asChain :
    reduceChains w (asChain q body) = (do
      let holds ← Condition.textHolds w (Condition.asking q)
      if holds then reduceBody w w.limits.maxDepth body else pure []) := by
  have hhook : (⟨[], body⟩ : Hook).Readable := ⟨by simp, hbody, hlink⟩
  have hasking : Bracket.round.Balanced (Condition.asking q) := by
    have hname : Bracket.round.Balanced "visited:".toList := by decide
    have hspace : Bracket.round.Balanced [' '] := by decide
    have hsource : Condition.asking q =
        [' '] ++ (Bracket.round.opener :: ("visited:".toList ++ q) ++ [Bracket.round.closer]) := by
      rw [Condition.asking_eq]
      simp [Bracket.opener, Bracket.closer]
    rw [hsource]
    exact hspace.append (hname.append hq).enclosed
  have hm : (Doc.ifCall (Condition.asking q)).Readable :=
    ⟨show Invocation.IsName "if".toList by decide, hasking⟩
  have hn : Invocation.isNamed ifNames (Doc.ifCall (Condition.asking q)).name :=
    show Invocation.isNamed ifNames "if".toList by decide
  have hread := Chain.read?_source_append hm hn hhook (.none Chain.endsAt_nil)
  have hsource : (⟨⟨[], some (Doc.ifCall (Condition.asking q)), ⟨[], body⟩⟩, []⟩ : Chain).source ++ [] =
      asChain q body := by
    simp [Chain.source, Chain.branches, Branch.source, asChain]
  rw [hsource] at hread
  have hfind : Conditional.find? (asChain q body) = some ([], .chain _, []) :=
    Conditional.find?_chain hm.isName hn ⟨(⟨[], body⟩ : Hook).source, rfl⟩ hread
  rw [reduceChains_of_find? hlimit hfind, Conditional.resolve_chain]
  rfl

end Reduced

private theorem run_choice (holds : Bool) (run : Run) {s t : Text} :
    ((if holds then pure s else pure t : Act Text).run run).1 = if holds then s else t := by
  cases holds <;> rfl

/-- A question holds as a condition if it has the answer. -/
private theorem holds_visited (w : Setting) (query : Query) :
    Condition.holds w (.truth (.visited query)) = pure (query.holds w) := by
  rw [Condition.holds, Condition.isTrue, Expr.evaluate]
  · rfl
  · exact fun name h => Expr.noConfusion h

/-- **A guard does what a chain does** with its query as the condition, in every setting and with every
hook, exactly if the tokens of its argument are the same between parentheses: quotations among them are
closed, and parentheses have their partner. The limits are effective ones, as in every run: they allow at
least one step. -/
theorem reduceChains_eq_chain_iff {q : Text} (hq : Bracket.round.Balanced q)
    (hblank : Text.isBlankText q = false) :
    (∀ body : Text, Bracket.square.Balanced body → body.head? ≠ some '[' →
      ∀ (visits : List Text) (tags : Table (List Text)) (words : Words) (l : Limits) (run : Run),
        (reduceChains ⟨visits, tags, words, l.effective⟩ (written q body)).run run =
          (reduceChains ⟨visits, tags, words, l.effective⟩ (asChain q body)).run run) ↔
      Token.Enclosable (Token.read q) := by
  obtain ⟨query, hquery⟩ := Query.exists_ofText? hblank
  constructor
  · intro hagree
    by_contra hopen
    -- A hook that stays as it is shows what the guard and the condition say.
    let words : Words := fun _ => 0
    let l : Limits := { maxDepth := 0 }
    let run : Run := ⟨Table.empty, 0⟩
    obtain ⟨visits, tags, hyes, hno, hsame⟩ :=
      Condition.exists_textHolds_asking_eq hopen hquery words l.effective
    have hshown (visits : List Text) :
        (if query.holds ⟨visits, tags, words, l.effective⟩ then "x".toList else []) =
          if ((Condition.textHolds ⟨visits, tags, words, l.effective⟩ (Condition.asking q)).run run).1
          then "x".toList else [] := by
      have h := congrArg Prod.fst (hagree "x".toList (by decide) (by decide) visits tags words l run)
      have hlimit : l.effective.maxReductions = 999 + 1 := rfl
      rw [reduceChains_written hlimit hq (by decide) (by decide) hquery,
        reduceChains_asChain hlimit hq (by decide) (by decide)] at h
      exact (run_choice _ run).symm.trans (h.trans (run_choice _ _))
    have hvisited := hshown visits
    have hfirst := hshown []
    rw [hsame, ← hfirst, hyes, hno] at hvisited
    cases hvisited
  · intro hclosed body hbody hlink visits tags words l run
    obtain ⟨limit, hlimit⟩ : ∃ n, l.effective.maxReductions = n + 1 :=
      Nat.exists_eq_succ_of_ne_zero (Nat.one_le_iff_ne_zero.mp (Nat.le_max_right _ _))
    rw [reduceChains_written hlimit hq hbody hlink hquery, reduceChains_asChain hlimit hq hbody hlink,
      Condition.textHolds, Condition.ofText_asking hclosed hquery, holds_visited, pure_bind]

/-- A name with an apostrophe may stand in quotes. -/
theorem reduceChains_eq_chain_quoted :
    let q : Text := " \"Rock 'n Roll\"".toList
    Bracket.round.Balanced q ∧ Text.isBlankText q = false ∧
      ∀ body : Text, Bracket.square.Balanced body → body.head? ≠ some '[' →
        ∀ (visits : List Text) (tags : Table (List Text)) (words : Words) (l : Limits) (run : Run),
          (reduceChains ⟨visits, tags, words, l.effective⟩ (written q body)).run run =
            (reduceChains ⟨visits, tags, words, l.effective⟩ (asChain q body)).run run := by
  intro q
  have hq : Bracket.round.Balanced q := by decide +kernel
  have hblank : Text.isBlankText q = false := by decide +kernel
  exact ⟨hq, hblank, (reduceChains_eq_chain_iff hq hblank).mpr (by decide +kernel)⟩

/-- The quotation that the apostrophe of a bare name begins takes in the bracket of the call, so that the
condition of the chain is none and never holds. -/
theorem reduceChains_ne_chain_apostrophe :
    let w : Setting := ⟨["Rock 'n Roll".toList], Table.empty, fun _ => 0, Limits.effective {}⟩
    let q : Text := " Rock 'n Roll".toList
    (Bracket.round.Balanced q ∧ Text.isBlankText q = false) ∧
      (written q ['x'] = "(visited: Rock 'n Roll)[x]".toList ∧
        asChain q ['x'] = "(if: (visited: Rock 'n Roll))[x]".toList) ∧
      ((reduceChains w (written q ['x'])).run ⟨Table.empty, 0⟩).1 = ['x'] ∧
      ((reduceChains w (asChain q ['x'])).run ⟨Table.empty, 0⟩).1 = [] := by
  decide +kernel

end Guard

end Hyperfiction

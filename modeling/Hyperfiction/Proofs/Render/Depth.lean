import Hyperfiction.Proofs.Markup.Pass
import Hyperfiction.Proofs.Token.Front

/-!
# Bodies deeper than the limit

A body nested deeper than the limit is taken as it stands, but it does not stay so: the bodies around it
go on with the text that it is part of, and their assignments and prints are looked for in it too.

* `reduceChainsWith` is the resolution of chains and guards with any text in the place of the bodies
  that are too deep, and `KeptLiteral` says of a run that they are mere text: whatever is put in their
  place stands in the result, and nothing else depends on it.
* In chains that always hold, what is put in the place of a body one level too deep goes through one
  **round** of assignments and prints for each level of the limit (`reduceChainsWith_nested`).
* So bodies that are too deep are mere text for all passages exactly under a limit that lets no body in,
  or where no chain is resolved at all (`keptLiteral_iff`).
-/

namespace Hyperfiction

open Invocation

/-! ### Something else in the place of bodies that are too deep -/

/-- What a body becomes that is taken, with room for `room` more levels of bodies, where `keep` writes
those that are too deep. -/
def reduceBodyWith (w : Setting) (keep : Text → Text) : Nat → Text → Act Text
  | 0, t => pure (keep t)
  | room + 1, t => do
    let reduced ← reduceWith w (reduceBodyWith w keep room) t
    let run ← runSets w.words reduced
    resolvePrints w run

/-- The text with its chains and guards resolved, where `keep` writes the bodies that are too deep. -/
def reduceChainsWith (w : Setting) (keep : Text → Text) (t : Text) : Act Text :=
  reduceWith w (reduceBodyWith w keep w.limits.maxDepth) t

theorem reduceBodyWith_id (w : Setting) (room : Nat) :
    reduceBodyWith w id room = reduceBody w room := by
  induction room with
  | zero => rfl
  | succ room ih =>
    funext t
    rw [reduceBodyWith, reduceBody, ih]

/-- The resolution writes the bodies that are too deep as they stand. -/
theorem reduceChainsWith_id (w : Setting) (t : Text) :
    reduceChainsWith w id t = reduceChains w t := by
  rw [reduceChainsWith, reduceBodyWith_id, reduceChains]

/-- A piece of a result: text, or the place of a body that is too deep. -/
inductive Piece where
  | text (t : Text)
  | body (t : Text)

/-- The text of some pieces, where `keep` writes the bodies. -/
def Piece.fill (keep : Text → Text) (ps : List Piece) : Text :=
  ps.flatMap fun
    | text t => t
    | body t => keep t

/-- The bodies that are too deep are **mere text** in a run: whatever is put in their place stands in the
result, and neither the text around it nor the run depends on it. -/
def KeptLiteral (w : Setting) (t : Text) (run : Run) : Prop :=
  ∃ (ps : List Piece) (after : Run), ∀ keep : Text → Text,
    (reduceChainsWith w keep t).run run = (Piece.fill keep ps, after)

/-! ### No room for bodies -/

/-- An act that writes pieces: its run does not depend on what is put in the place of the bodies. -/
private def WritesPieces (act : (Text → Text) → Act Text) : Prop :=
  ∀ run : Run, ∃ (ps : List Piece) (after : Run), ∀ keep : Text → Text,
    (act keep).run run = (Piece.fill keep ps, after)

private theorem WritesPieces.pure (t : Text) : WritesPieces fun _ => pure t := by
  intro run
  refine ⟨[.text t], run, fun keep => ?_⟩
  change (t, run) = (Piece.fill keep [.text t], run)
  simp [Piece.fill]

private theorem WritesPieces.body (t : Text) : WritesPieces fun keep => Pure.pure (keep t) := by
  intro run
  refine ⟨[.body t], run, fun keep => ?_⟩
  change (keep t, run) = (Piece.fill keep [.body t], run)
  simp [Piece.fill]

/-- What comes first decides how it goes on. -/
private theorem WritesPieces.of_bind {α : Type} (x : Act α) {f : α → (Text → Text) → Act Text}
    (h : ∀ a, WritesPieces (f a)) : WritesPieces fun keep => x >>= fun a => f a keep :=
  fun run => h (x.run run).1 (x.run run).2

/-- Pieces are written one behind another. -/
private theorem WritesPieces.append {x y : (Text → Text) → Act Text} (hx : WritesPieces x)
    (hy : WritesPieces y) (before : Text) :
    WritesPieces fun keep => (do
      let s ← x keep
      let t ← y keep
      Pure.pure (before ++ s ++ t)) := by
  intro run
  -- The second act starts in a run that is the same for all that is put in the place of the bodies.
  obtain ⟨ps, middle, hps⟩ := hx run
  obtain ⟨qs, after, hqs⟩ := hy middle
  refine ⟨.text before :: ps ++ qs, after, fun keep => ?_⟩
  change (before ++ ((x keep).run run).1 ++ ((y keep).run ((x keep).run run).2).1,
    ((y keep).run ((x keep).run run).2).2) = _
  rw [hps keep, hqs keep]
  simp [Piece.fill]

private theorem writesPieces_take (w : Setting) (bs : List Branch) :
    WritesPieces fun keep => Chain.take w (fun t => pure (keep t)) bs := by
  induction bs with
  | nil => exact .pure []
  | cons b bs ih =>
    refine WritesPieces.of_bind (b.holds w) fun holds => ?_
    cases holds with
    | true => exact .body b.hook.body
    | false => exact ih

/-- **A conditional writes pieces**, its bodies among them. -/
private theorem writesPieces_resolve (w : Setting) (k : Conditional) :
    WritesPieces fun keep => k.resolve w fun t => pure (keep t) := by
  cases k with
  | chain c =>
    simp only [Conditional.resolve_chain]
    exact writesPieces_take w c.branches
  | guard g =>
    simp only [Conditional.resolve]
    split
    · exact .body g.hook.body
    · exact .pure []
  | stray => exact .pure ['(']

/-- Without room, a pass over chains and guards writes the bodies that are taken among the text. -/
private theorem writesPieces_pass (w : Setting) (limit : Nat) (t : Text) :
    WritesPieces fun keep =>
      Conditional.finder.pass (Conditional.resolve w fun t => pure (keep t)) limit t := by
  induction limit generalizing t with
  | zero =>
    simp only [Finder.pass_zero]
    exact .pure t
  | succ limit ih =>
    cases hfind : Conditional.finder.find? t with
    | none =>
      simp only [Finder.pass_of_eq_none _ _ hfind]
      exact .pure t
    | some p =>
      obtain ⟨before, k, rest⟩ := p
      simp only [Finder.pass_of_eq_some _ _ hfind]
      exact (writesPieces_resolve w k).append (ih rest) before

theorem keptLiteral_of_maxDepth {w : Setting} (h : w.limits.maxDepth = 0) (t : Text) (run : Run) :
    KeptLiteral w t run := by
  have hbody : ∀ keep, reduceBodyWith w keep w.limits.maxDepth = fun t => pure (keep t) := by
    intro keep
    rw [h]
    rfl
  simp only [KeptLiteral, reduceChainsWith, hbody, reduceWith_eq_pass]
  exact writesPieces_pass w w.limits.maxReductions t run

theorem keptLiteral_of_maxReductions {w : Setting} (h : w.limits.maxReductions = 0) (t : Text)
    (run : Run) : KeptLiteral w t run := by
  simp only [KeptLiteral, reduceChainsWith, reduceWith_eq_pass, h, Finder.pass_zero]
  exact WritesPieces.pure t run

/-! ### Rounds -/

/-- What a body does with its text when its chains and guards are resolved. -/
def round (w : Setting) (t : Text) : Act Text := do
  let run ← runSets w.words t
  resolvePrints w run

/-- Some rounds, one behind another. -/
def rounds (w : Setting) : Nat → Text → Act Text
  | 0, t => pure t
  | n + 1, t => do
    let u ← round w t
    rounds w n u

/-- The last of some rounds. -/
theorem rounds_succ (w : Setting) (n : Nat) (t : Text) :
    rounds w (n + 1) t = (do
      let u ← rounds w n t
      round w u) := by
  induction n generalizing t with
  | zero => simp [rounds]
  | succ n ih =>
    rw [rounds, rounds, bind_assoc]
    congr 1
    funext u
    exact ih u

theorem round_nil (w : Setting) : round w [] = pure [] := by
  rw [round, runSets_of_noHead (noHead_nil _), pure_bind, resolvePrints_of_noHead (noHead_nil _)]

/-- Nothing comes of no text in any number of rounds. -/
theorem rounds_nil (w : Setting) (n : Nat) : rounds w n [] = pure [] := by
  induction n with
  | zero => rfl
  | succ n ih => rw [rounds, round_nil, pure_bind, ih]

/-! ### Chains that always hold -/

theorem Token.read_true : Token.read " true".toList = [⟨[' '], .yes, "true".toList⟩] := by
  have hend : ([] : Text).head?.any continuesWord = false := rfl
  have hword : ∀ c ∈ 't' :: "rue".toList, continuesWord c :=
    List.all_eq_true.mp (show "true".toList.all continuesWord = true by decide +kernel)
  have htrue := readBehind_word hend (by decide +kernel) hword (by decide) (by decide) false
  rw [List.append_nil, readBehind_nil] at htrue
  exact (readBehind_blank (by decide) false _).trans (congrArg (indent ' ') htrue)

theorem Condition.textHolds_true (w : Setting) :
    Condition.textHolds w " true".toList = pure true := by
  have hexpr : Expr.ofTokens? [⟨[' '], .yes, "true".toList⟩] = some (.boolean true) := by
    simp [Expr.ofTokens?, Expr.whole, Expr.sumAt, Expr.joined, Expr.signed, Expr.primary,
      Expr.joinMore]
  have hcompare : comparison? [⟨[' '], .yes, "true".toList⟩] = none := rfl
  have hsimple : simple [⟨[' '], .yes, "true".toList⟩] = .truth (.boolean true) := by
    rw [simple, hcompare, hexpr]
  have htokens : ofTokens [⟨[' '], .yes, "true".toList⟩] = .truth (.boolean true) := by
    rw [ofTokens, ← hsimple]
    · rfl
    · simp
    · simp
  rw [textHolds, ofText, Token.read_true, htokens, holds]
  rfl

/-- The chain of one branch that always holds. -/
def Chain.always (t : Text) : Chain := ⟨⟨[], some ⟨"if".toList, " true".toList⟩, ⟨[], t⟩⟩, []⟩

/-- A chain that always holds becomes its body. -/
theorem reduceWith_always {w : Setting} (h : w.limits.maxReductions ≠ 0) (body : Text → Act Text)
    {t : Text} (ht : (⟨[], t⟩ : Hook).Readable) :
    reduceWith w body (Chain.always t).source = body t := by
  obtain ⟨limit, hlimit⟩ := Nat.exists_eq_succ_of_ne_zero h
  have hm : (⟨"if".toList, " true".toList⟩ : Invocation).Readable := ⟨by decide, rfl⟩
  have hn : isNamed ifNames "if".toList := by decide
  have hread : Chain.read? (Chain.always t).source = some (Chain.always t, []) := by
    have := Chain.read?_source_append hm hn ht (.none Chain.endsAt_nil)
    rwa [List.append_nil] at this
  have hfind : Conditional.finder.find? (Chain.always t).source =
      some ([], .chain (Chain.always t), []) :=
    Conditional.find?_chain hm.isName hn ⟨(⟨[], t⟩ : Hook).source, by
      simp [Chain.always, Chain.source, Chain.branches, Branch.source]⟩ hread
  have hresolve : Conditional.resolve w body (.chain (Chain.always t)) = body t := by
    rw [Conditional.resolve_chain]
    change (do
      let holds ← Condition.textHolds w " true".toList
      if holds then body t else pure []) = body t
    rw [Condition.textHolds_true]
    rfl
  have hnil : Conditional.finder.find? [] = none := Conditional.find?_eq_none (noHead_nil _)
  rw [reduceWith_eq_pass, hlimit, Finder.pass_of_eq_some _ _ hfind, hresolve,
    Finder.pass_of_eq_none _ _ hnil]
  simp

/-- The text in some chains that always hold, one in another. -/
def nested : Nat → Text → Text
  | 0, t => t
  | n + 1, t => (Chain.always (nested n t)).source

theorem readable_nested {t : Text} (ht : (⟨[], t⟩ : Hook).Readable) (n : Nat) :
    (⟨[], nested n t⟩ : Hook).Readable := by
  induction n with
  | zero => exact ht
  | succ n ih =>
    have hcall : Bracket.square.Balanced (⟨"if".toList, " true".toList⟩ : Invocation).source := by
      decide
    have hsource : nested (n + 1) t = (⟨"if".toList, " true".toList⟩ : Invocation).source ++
        (⟨[], nested n t⟩ : Hook).source := by
      simp [nested, Chain.always, Chain.source, Chain.branches, Branch.source]
    refine ⟨ih.gap, ?_, ?_⟩
    · rw [hsource]
      exact hcall.append ih.balanced.enclosed
    · rw [hsource]
      simp [Invocation.source]

/-- **A nested body is reduced from the inside**, one round for each level. -/
private theorem reduceBodyWith_nested {w : Setting} (h : w.limits.maxReductions ≠ 0)
    (keep : Text → Text) {t : Text} (ht : (⟨[], t⟩ : Hook).Readable) (n : Nat) :
    reduceBodyWith w keep n (nested n t) = rounds w n (keep t) := by
  induction n with
  | zero => rfl
  | succ n ih =>
    -- The innermost level has its round first, so the outer one adds the last.
    rw [reduceBodyWith, nested, reduceWith_always h _ (readable_nested ht n), ih, rounds_succ]
    rfl

/-- **A body one level too deep** goes through one round for each level of the limit, in chains that
always hold. -/
theorem reduceChainsWith_nested {w : Setting} (h : w.limits.maxReductions ≠ 0)
    (keep : Text → Text) {t : Text} (ht : (⟨[], t⟩ : Hook).Readable) :
    reduceChainsWith w keep (nested (w.limits.maxDepth + 1) t) =
      rounds w w.limits.maxDepth (keep t) := by
  rw [reduceChainsWith, nested, reduceWith_always h _ (readable_nested ht _),
    reduceBodyWith_nested h keep ht]

/-! ### The limits under which bodies that are too deep are mere text -/

/-- An assignment runs in the first round and leaves nothing for the others. -/
private theorem rounds_set (w : Setting) (n : Nat) {m : Invocation} (hm : m.Readable)
    (hn : isNamed setNames m.name) :
    rounds w (n + 1) m.source = (do
      Assignment.runText w.words m.args
      pure []) := by
  have hset : runSets w.words m.source = (do
      Assignment.runText w.words m.args
      pure []) := by
    have hnil : Invocation.find? setNames [] = none := find?_eq_none (noHead_nil _)
    have hrun := runSetsAt_set hm hn w.words []
    rwa [List.append_nil, runSetsAt_of_eq_none hnil, ← runSets_eq_runSetsAt] at hrun
  rw [rounds, round, hset]
  simp only [bind_assoc, pure_bind, resolvePrints_of_noHead (noHead_nil _), rounds_nil]

/-- **Where bodies that are too deep are mere text.** They are, in all passages, exactly if no body is
let in at all or no chain is resolved. Under any other limits an assignment that is put in the place of
such a body runs. -/
theorem keptLiteral_iff (l : Limits) :
    (∀ visits tags words t run, KeptLiteral ⟨visits, tags, words, l⟩ t run) ↔
      l.maxDepth = 0 ∨ l.maxReductions = 0 := by
  constructor
  · intro hkept
    by_contra hlimits
    rw [not_or] at hlimits
    obtain ⟨n, hn⟩ := Nat.exists_eq_succ_of_ne_zero hlimits.1
    have hreadable : (⟨[], []⟩ : Hook).Readable := ⟨by simp, rfl, by simp⟩
    have hset : (⟨"set".toList, "$x to true".toList⟩ : Invocation).Readable := ⟨by decide, rfl⟩
    let w : Setting := ⟨[], Table.empty, fun _ => 0, l⟩
    obtain ⟨ps, after, hrun⟩ := hkept w.visits w.tags w.words (nested (l.maxDepth + 1) [])
      ⟨Table.empty, 0⟩
    have hempty := hrun fun _ => []
    have hassign := hrun fun _ => (⟨"set".toList, "$x to true".toList⟩ : Invocation).source
    rw [reduceChainsWith_nested (w := w) hlimits.2 _ hreadable] at hempty hassign
    have hdepth : w.limits.maxDepth = n + 1 := hn
    rw [hdepth, rounds_nil] at hempty
    rw [hdepth, rounds_set w n hset (by decide)] at hassign
    -- With nothing in the place of the body no variable is bound, with the assignment one is.
    have hnone : after.store.keys = [] := by
      rw [← congrArg (fun p => p.2.store.keys) hempty]
      rfl
    have hbound : ((Assignment.runText (fun _ => 0) "$x to true".toList).run
        ⟨Table.empty, 0⟩).2.store.keys = ["x".toList] := by
      decide +kernel
    have hsome : after.store.keys = ["x".toList] := by
      rw [← congrArg (fun p => p.2.store.keys) hassign]
      exact hbound
    rw [hnone] at hsome
    exact absurd hsome (by simp)
  · rintro (h | h) visits tags words t run
    · exact keptLiteral_of_maxDepth h t run
    · exact keptLiteral_of_maxReductions h t run

/-- With room for one level, an assignment in the third body from outside runs and is gone. -/
theorem not_keptLiteral_second_body :
    let w : Setting := ⟨[], Table.empty, fun _ => 0, { maxDepth := 1 }⟩
    let t : Text := "(if: true)[(if: true)[(set: $x to true)]]".toList
    let result := (reduceChains w t).run ⟨Table.empty, 0⟩
    (result.1, result.2.store.keys) = ([], ["x".toList]) ∧ ¬ KeptLiteral w t ⟨Table.empty, 0⟩ := by
  intro w t result
  have hresult : (result.1, result.2.store.keys) = ([], ["x".toList]) := by decide +kernel
  refine ⟨hresult, ?_⟩
  rintro ⟨ps, after, hrun⟩
  have hempty : ((reduceChainsWith w (fun _ => []) t).run ⟨Table.empty, 0⟩).2.store.keys = [] := by
    decide +kernel
  have hkeep := hrun id
  rw [reduceChainsWith_id] at hkeep
  rw [hrun] at hempty
  have hkeys : after.store.keys = ["x".toList] := by
    have := congrArg (fun p => p.2.store.keys) hkeep
    rw [← this]
    exact (Prod.mk.inj hresult).2
  rw [hkeys] at hempty
  exact absurd hempty (by simp)

end Hyperfiction

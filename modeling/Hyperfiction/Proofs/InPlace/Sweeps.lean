import Hyperfiction.Proofs.InPlace.Conditionals
import Hyperfiction.Render.Passage

/-!
# Macros swept out of a buffer

Macros that write text are replaced in the buffer (`InPlace.resolvePrints_eq`), and so are orphans, with
the hooks that are attached to them (`InPlace.removeOrphans_eq`); assignments are left out when the buffer
is copied, those that stand outside all square brackets once they have run (`InPlace.runSets_eq`,
`InPlace.stripSets_eq`). With these the body of a branch is resolved in its own buffer, to the depth that
there is room for (`InPlace.reduceChains_eq`).
-/

namespace Hyperfiction

/-- Going over cuts runs the assignments outside brackets, where `depthAfter` counts these from the start
of the text. -/
theorem Cuts.copy_runText (words : Words) (done : Text) (cs : List (Cut Invocation)) (tail : Text) :
    Cuts.copy Invocation.source (fun here m => do
        if Bracket.square.depthAfter 0 here = 0 then
          Assignment.runText words m.args
          pure (some [])
        else pure none) done cs tail =
      runSetsFrom words (Bracket.square.depthAfter 0 done) cs tail := by
  induction cs generalizing done with
  | nil => rfl
  | cons c cs ih =>
    rw [Cuts.copy, runSetsFrom]
    simp only [ih, Bracket.depthAfter_append]
    split
    · simp only [bind_assoc, pure_bind, Option.getD_some, List.append_nil]
    · rw [pure_bind, Option.getD_none]

/-- Where what is written for an item asks for nothing, neither does the pass. -/
theorem Cuts.rewrite_pure {α : Type} {m : Type → Type} [Monad m] [LawfulMonad m] (source f : α → Text)
    (limit : Nat) (cs : List (Cut α)) (tail : Text) :
    (Cuts.rewrite source (fun a => pure (f a)) limit cs tail : m Text) =
      pure (Id.run (Cuts.rewrite source (fun a => pure (f a)) limit cs tail)) := by
  induction limit generalizing cs with
  | zero => rfl
  | succ limit ih =>
    cases cs with
    | nil => rfl
    | cons c cs =>
      rw [Cuts.rewrite, pure_bind, ih, pure_bind]
      rfl

namespace InPlace

/-! ### Prints -/

/-- Does a text hold a comparison? -/
def hasComparison (t : Text) : Guarded Bool := do
  return (← tokens t).any fun k => k.kind.isComparison

/-- The expression that a text writes. -/
def exprOf (t : Text) : Guarded (Option Expr) := do operand t (← tokens t)

/-- The text that an argument of a print writes. -/
def printText (w : Setting) (args : Text) : GuardedAct Text := do
  if ← hasComparison args then return []
  match ← exprOf args with
  | none => return []
  | some e => Act.sure do
    let v ← e.evaluate w
    return (v.map Value.toText).getD []

/-- Writes what a printing macro writes over it. -/
def replacePrint (w : Setting) (t : Text) (found : Located Invocation) : GuardedAct (Text × Nat) := do
  let call ← t.slice found.span.start found.span.stop
  let written ←
    if Invocation.isNamed ["print".toList] found.item.name then printText w found.item.args
    else printText w call
  let t ← t.replace found.span.start found.span.stop written
  return (t, found.span.start + Text.width written)

/-- The text with its printing macros replaced by what they write. -/
def resolvePrints (w : Setting) (t : Text) : GuardedAct Text :=
  rewrite (fun t start => findMacro? t start printNames) (replacePrint w) w.limits.maxReductions t 0

/-! ### Orphans -/

/-- Removes an orphan, with the hook that is attached to it. -/
def replaceOrphan (t : Text) (found : Located Invocation) : GuardedAct (Text × Nat) := do
  let stop := ((← attached? t found.span.stop).map Span.stop).getD found.span.stop
  let _ ← t.slice found.span.start stop
  let t ← t.replace found.span.start stop []
  return (t, found.span.start)

/-- The text without its first orphans, at most `limit` of them. -/
def removeOrphans (limit : Nat) (t : Text) : GuardedAct Text :=
  rewrite (fun t start => findMacro? t start Orphan.names) replaceOrphan limit t 0

/-! ### Assignments -/

/-- Runs an assignment that stands outside all square brackets, and leaves it out. -/
def runSet (words : Words) (t : Text) (found : Located Invocation) : GuardedAct (Option Text) := do
  if (← bracketDepth t found.span.start) = 0 then
    Act.sure (Assignment.runAll words (← assignmentsOf found.item.args))
    return some []
  else return none

/-- Runs the assignments of a text that stand outside square brackets, and writes the text without
them. -/
def runSets (words : Words) (t : Text) : GuardedAct Text :=
  copying t (fun start => findMacro? t start setNames) (runSet words t) 0 0

/-- The text without its assignments. -/
def stripSets (t : Text) : GuardedAct Text :=
  copying t (fun start => findMacro? t start setNames) (fun _ => pure (some [])) 0 0

/-! ### Bodies -/

/-- What a body becomes that is taken, with room for `room` more levels of bodies. -/
def reduceBody (w : Setting) : Nat → Text → GuardedAct Text
  | 0, t => pure t
  | room + 1, t => do
    let reduced ← reduceWith w (reduceBody w room) t
    let run ← runSets w.words reduced
    resolvePrints w run

/-- The text with its chains and guards resolved. -/
def reduceChains (w : Setting) (t : Text) : GuardedAct Text :=
  reduceWith w (reduceBody w w.limits.maxDepth) t

/-! ### The same texts -/

variable {w : Setting}

theorem hasComparison_eq (t : Text) : hasComparison t = .ok (Token.hasComparison t) := by
  rw [hasComparison, tokens_eq, Guarded.ok_bind, Guarded.pure_eq_ok, Token.hasComparison]
  congr 1
  rw [← Function.comp_def Token.Kind.isComparison, ← List.any_map, TokenAt.map_kind_list,
    List.any_map]
  rfl

theorem exprOf_eq (t : Text) : exprOf t = .ok (Expr.ofText? t) := by
  rw [exprOf, tokens_eq, Guarded.ok_bind]
  exact operand_eq (reads_tokens t)

theorem printText_eq (w : Setting) (args : Text) :
    printText w args = Act.sure (Hyperfiction.printText w args) := by
  rw [printText, Hyperfiction.printText, hasComparison_eq, exprOf_eq]
  simp only [Act.lift_ok_bind]
  split
  · rfl
  · cases Expr.ofText? args <;> rfl

/-- The macro that is found in the rest of a text is found in place. -/
private theorem find_of_find? {names : List Text} (done : Text) {u before behind : Text}
    {m : Invocation} (h : Invocation.find? names u = some (before, m, behind)) :
    findMacro? (done ++ u) (Text.width done) names =
      .ok (some ⟨m, ⟨Text.width (done ++ before), Text.width (done ++ before ++ m.source)⟩⟩) := by
  rw [findMacro?_append, h, Text.width_append (done ++ before), Text.width_append]
  rfl

private theorem find_of_none {names : List Text} (done : Text) {u : Text}
    (h : Invocation.find? names u = none) :
    findMacro? (done ++ u) (Text.width done) names = .ok none := by
  rw [findMacro?_append, h]
  rfl

private theorem replacePrint_append (s : Text) (m : Invocation) (r : Text) :
    replacePrint w (s ++ (m.source ++ r))
        ⟨m, ⟨Text.width s, Text.width (s ++ m.source)⟩⟩ = Act.sure (do
      let written ← printMacro w m
      pure (s ++ written ++ r, Text.width (s ++ written))) := by
  rw [replacePrint, printMacro]
  simp only [Text.width_append, Text.slice_append, Text.replace_append, Act.lift_ok_bind,
    printText_eq]
  split <;> rfl

theorem rewrites_prints :
    Rewrites (Invocation.finder printNames) (printMacro w)
      (fun t start => findMacro? t start printNames) (replacePrint w) where
  none := fun done _ h => find_of_none done h
  some := by
    intro done u before behind m h
    have hhandle := replacePrint_append (w := w) (done ++ before) m behind
    rw [List.append_assoc, ← Invocation.eq_append_of_find? h] at hhandle
    exact ⟨_, find_of_find? done h, hhandle⟩

/-- **Prints written in the buffer** are those of the text. -/
theorem resolvePrints_eq (t : Text) :
    resolvePrints w t = Act.sure (Hyperfiction.resolvePrints w t) :=
  rewrite_zero_eq rewrites_prints w.limits.maxReductions t

/-- An orphan is found by its macro, and ends where the hook attached to that ends. -/
private theorem exists_hook_of_find? (done : Text) {u before behind : Text} {o : Orphan}
    (h : Orphan.find? u = some (before, o, behind)) :
    findMacro? (done ++ u) (Text.width done) Orphan.names =
        .ok (some ⟨o.call, ⟨Text.width (done ++ before), Text.width (done ++ before ++ o.call.source)⟩⟩) ∧
      ∃ hook, attached? (done ++ u) (Text.width (done ++ before ++ o.call.source)) = .ok hook ∧
        (hook.map Span.stop).getD (Text.width (done ++ before ++ o.call.source)) =
          Text.width (done ++ before) + Text.width o.source := by
  simp only [Orphan.find?, Option.map_eq_some_iff, Prod.exists] at h
  obtain ⟨b, m, v, hfound, hp⟩ := h
  have hattached := attached?_append (done ++ b ++ m.source) v
  rw [List.append_assoc, List.append_assoc, ← Invocation.eq_append_of_find? hfound] at hattached
  split at hp
  · rename_i k r hk
    simp only [Prod.mk.injEq] at hp
    obtain ⟨rfl, rfl, rfl⟩ := hp
    refine ⟨find_of_find? done hfound, _, hattached, ?_⟩
    rw [hk]
    simp only [Option.map_some, Option.getD_some, Orphan.source, Text.width_append, Nat.add_assoc]
  · rename_i hk
    simp only [Prod.mk.injEq] at hp
    obtain ⟨rfl, rfl, rfl⟩ := hp
    refine ⟨find_of_find? done hfound, _, hattached, ?_⟩
    rw [hk]
    simp only [Option.map_none, Option.getD_none, Orphan.source, List.append_nil, Text.width_append]

/-- The loop over orphans rewrites as the pass does. -/
private theorem rewrites_orphans :
    Rewrites Orphan.finder (fun _ => pure []) (fun t start => findMacro? t start Orphan.names)
      replaceOrphan where
  none := fun done _ h => find_of_none done (Option.map_eq_none_iff.mp h)
  some := by
    intro done u before behind o h
    obtain ⟨hfind, hook, hattached, hstop⟩ := exists_hook_of_find? done h
    have hu : done ++ before ++ (o.source ++ behind) = done ++ u := by
      rw [List.append_assoc, ← Orphan.eq_append_of_find? h]
    have hslice := Text.slice_append (done ++ before) o.source behind
    have hreplace := Text.replace_append (done ++ before) o.source behind []
    rw [hu] at hslice hreplace
    refine ⟨_, hfind, ?_⟩
    rw [replaceOrphan, hattached]
    simp only [Act.lift_ok_bind, hstop, hslice, hreplace, pure_bind, Act.sure_pure, List.append_nil]

/-- **Orphans removed from the buffer** are those of the text. -/
theorem removeOrphans_eq (limit : Nat) (t : Text) :
    removeOrphans limit t = pure (Hyperfiction.removeOrphans limit t) := by
  have hrewrite := rewrite_zero_eq rewrites_orphans limit t
  rwa [Cuts.rewrite_pure] at hrewrite

/-- The loop over assignments runs those outside of brackets, and copies the rest. -/
private theorem copies_sets (words : Words) (t : Text) :
    Copies (Invocation.finder setNames) (fun here m => do
        if Bracket.square.depthAfter 0 here = 0 then
          Assignment.runText words m.args
          pure (some [])
        else pure none)
      t (fun start => findMacro? t start setNames) (runSet words t) where
  none := by
    rintro s u rfl h
    exact find_of_none s h
  some := by
    rintro s u before behind m rfl h
    refine ⟨m, find_of_find? s h, ?_⟩
    have hdepth := bracketDepth_append (s ++ before) (m.source ++ behind)
    rw [List.append_assoc, ← Invocation.eq_append_of_find? h] at hdepth
    rw [runSet, hdepth, assignmentsOf_eq]
    simp only [Act.lift_ok_bind]
    split <;> rfl

/-- **Assignments run out of the buffer** are those of the text. -/
theorem runSets_eq (words : Words) (t : Text) :
    runSets words t = Act.sure (Hyperfiction.runSets words t) := by
  have hcopy := Cuts.copy_runText words [] ((Invocation.finder setNames).cuts t).items
    ((Invocation.finder setNames).cuts t).tail
  exact (copying_zero_eq (copies_sets words t)).trans (congrArg Act.sure hcopy)

/-- **A buffer copied without its assignments** is the text without them. -/
theorem stripSets_eq (t : Text) : stripSets t = pure (Hyperfiction.stripSets t) := by
  have hcopies : Copies (Invocation.finder setNames) (fun _ _ => pure (some [])) t
      (fun start => findMacro? t start setNames) (fun _ => pure (some [])) := by
    refine ⟨?_, ?_⟩
    · rintro s u rfl h
      exact find_of_none s h
    · rintro s u before behind m rfl h
      exact ⟨m, find_of_find? s h, rfl⟩
  exact copying_pure_eq hcopies

/-- **A body is reduced in place**, at every depth. -/
theorem reduceBody_eq (room : Nat) (t : Text) :
    reduceBody w room t = Act.sure (Hyperfiction.reduceBody w room t) := by
  induction room generalizing t with
  | zero => rfl
  | succ room ih =>
    rw [reduceBody, Hyperfiction.reduceBody, reduceWith_eq ih]
    simp only [runSets_eq, resolvePrints_eq, Act.sure_bind]

/-- **Chains resolved in the buffer**, with all that is nested in them, are those of the text. -/
theorem reduceChains_eq (t : Text) :
    reduceChains w t = Act.sure (Hyperfiction.reduceChains w t) :=
  reduceWith_eq (reduceBody_eq w.limits.maxDepth) t

end InPlace

end Hyperfiction

import Hyperfiction.Proofs.Document.Basic
import Hyperfiction.Proofs.Markup.Pass

/-!
# The meaning of documents

What a document does is said along its tree, without a text that is scanned and rewritten:

* `Doc.assign` runs the assignments of a sequence itself, in order; those in hooks are not its own.
* `Doc.resolve` gives the text of a sequence. Chains and guards are resolved in order: a chain takes the
  body of its first branch whose condition holds, and the conditions behind it are not asked.
* `Doc.conclude` is what happens to a body that is taken: it is resolved, its own assignments run, and
  `finish` has the last word on its text.

The first step from the markup to the meaning is made here: the pass that runs assignments runs those
of the sequence and leaves the document without them (`Doc.runSets_render`), as it skips all hooks
(`Doc.skipsSets_render`).
-/

namespace Hyperfiction

open Invocation

/-- Runs the assignments of the sequence. -/
def Doc.assign (words : Words) : Doc → Act Unit
  | .done => pure ()
  | .text _ rest => rest.assign words
  | .set args rest => do
    Assignment.runText words args
    rest.assign words
  | .chain _ _ _ rest => rest.assign words
  | .guard _ _ rest => rest.assign words

/-- What becomes of a body that is taken, where `resolved` resolves its text. -/
def Doc.conclude (w : Setting) (finish : Text → Act Text) (body : Doc) (resolved : Act Text) :
    Act Text := do
  let t ← resolved
  body.assign w.words
  finish t

mutual

/-- The text of the sequence without its assignments, with its chains and guards resolved. -/
def Doc.resolve (w : Setting) (finish : Text → Act Text) : Doc → Act Text
  | .done => pure []
  | .text t rest => do
    let behind ← rest.resolve w finish
    pure (t ++ behind)
  | .set _ rest => rest.resolve w finish
  | .chain c body more rest => do
    let holds ← Condition.textHolds w c
    let chosen ← (if holds then body.conclude w finish (body.resolve w finish)
      else more.resolve w finish)
    let behind ← rest.resolve w finish
    pure (chosen ++ behind)
  | .guard q body rest => do
    let chosen ← (if (Query.ofText? q).any (·.holds w) then
        body.conclude w finish (body.resolve w finish)
      else pure [])
    let behind ← rest.resolve w finish
    pure (chosen ++ behind)

/-- The text of the first branch that holds; there is none if none does. -/
def Branches.resolve (w : Setting) (finish : Text → Act Text) : Branches → Act Text
  | .none => pure []
  | .otherwise _ body => body.conclude w finish (body.resolve w finish)
  | .elseIf c body more => do
    let holds ← Condition.textHolds w c
    if holds then body.conclude w finish (body.resolve w finish) else more.resolve w finish

end

/-- The meaning of a document as the body of a passage: its assignments run before its chains and
guards are resolved. -/
def Doc.meaning (w : Setting) (d : Doc) : Act Text := do
  d.assign w.words
  d.resolve w pure

/-! ### Limits -/

/-- The number of chains and guards of the sequence. -/
def Doc.count : Doc → Nat
  | .done => 0
  | .text _ rest => rest.count
  | .set _ rest => rest.count
  | .chain _ _ _ rest => rest.count + 1
  | .guard _ _ rest => rest.count + 1

/-- All bodies of the branches are as `P` says. -/
def Branches.ForBodies (P : Doc → Prop) : Branches → Prop
  | .none => True
  | .otherwise _ body => P body
  | .elseIf _ body more => P body ∧ more.ForBodies P

/-- All bodies of the chains and guards of the sequence are as `P` says. -/
def Doc.ForBodies (P : Doc → Prop) : Doc → Prop
  | .done => True
  | .text _ rest => rest.ForBodies P
  | .set _ rest => rest.ForBodies P
  | .chain _ body more rest => P body ∧ more.ForBodies P ∧ rest.ForBodies P
  | .guard _ body rest => P body ∧ rest.ForBodies P

/-- No sequence has more than `limit` chains and guards, and they are nested at most `room` deep. -/
def Doc.Fits (limit : Nat) : Nat → Doc → Prop
  | 0, d => d.count = 0
  | room + 1, d => d.count ≤ limit ∧ d.ForBodies (Doc.Fits limit room)

/-- Whether all bodies of branches are as a test says can be computed. -/
def Branches.decidableForBodies {P : Doc → Prop} [DecidablePred P] :
    ∀ more : Branches, Decidable (more.ForBodies P)
  | .none => .isTrue trivial
  | .otherwise _ body => inferInstanceAs (Decidable (P body))
  | .elseIf _ body more =>
    have : Decidable (more.ForBodies P) := more.decidableForBodies
    inferInstanceAs (Decidable (P body ∧ more.ForBodies P))

instance {P : Doc → Prop} [DecidablePred P] (more : Branches) : Decidable (more.ForBodies P) :=
  more.decidableForBodies

/-- Whether all bodies of a sequence are as a test says can be computed. -/
def Doc.decidableForBodies {P : Doc → Prop} [DecidablePred P] :
    ∀ d : Doc, Decidable (d.ForBodies P)
  | .done => .isTrue trivial
  | .text _ rest => rest.decidableForBodies
  | .set _ rest => rest.decidableForBodies
  | .chain _ body more rest =>
    have : Decidable (rest.ForBodies P) := rest.decidableForBodies
    inferInstanceAs (Decidable (P body ∧ more.ForBodies P ∧ rest.ForBodies P))
  | .guard _ body rest =>
    have : Decidable (rest.ForBodies P) := rest.decidableForBodies
    inferInstanceAs (Decidable (P body ∧ rest.ForBodies P))

instance {P : Doc → Prop} [DecidablePred P] (d : Doc) : Decidable (d.ForBodies P) :=
  d.decidableForBodies

/-- Whether a document keeps to limits can be computed. -/
@[reducible]
def Doc.decidableFits (limit : Nat) : ∀ room : Nat, DecidablePred (Doc.Fits limit room)
  | 0 => fun d => inferInstanceAs (Decidable (d.count = 0))
  | room + 1 => fun d =>
    have : DecidablePred (Doc.Fits limit room) := Doc.decidableFits limit room
    inferInstanceAs (Decidable (d.count ≤ limit ∧ d.ForBodies (Doc.Fits limit room)))

instance (limit room : Nat) (d : Doc) : Decidable (d.Fits limit room) :=
  Doc.decidableFits limit room d

/-- A document that fits has no more chains and guards than the limit. -/
theorem Doc.Fits.count_le {limit room : Nat} {d : Doc} (h : d.Fits limit room) :
    d.count ≤ limit := by
  cases room with
  | zero =>
    have hcount : d.count = 0 := h
    omega
  | succ room => exact h.1

/-- A sequence without chains and guards has no bodies. -/
theorem Doc.forBodies_of_count {P : Doc → Prop} : ∀ d : Doc, d.count = 0 → d.ForBodies P
  | .done, _ => trivial
  | .text _ rest, h | .set _ rest, h => Doc.forBodies_of_count rest h
  | .chain _ _ _ _, h | .guard _ _ _, h => by simp [Doc.count] at h

/-! ### Assignments outside all hooks -/

namespace Doc

/-- The document without the assignments of the sequence. -/
def dropSets : Doc → Doc
  | .done => .done
  | .text t rest => .text t rest.dropSets
  | .set _ rest => rest.dropSets
  | .chain c body more rest => .chain c body more rest.dropSets
  | .guard q body rest => .guard q body rest.dropSets

/-- A document is well formed without its own assignments. -/
theorem wellFormed_dropSets {own inner : Text → Prop} :
    ∀ d : Doc, d.WellFormed own inner → d.dropSets.WellFormed own inner
  | .done, _ => trivial
  | .text _ rest, h => ⟨h.1, wellFormed_dropSets rest h.2⟩
  | .set _ rest, h => wellFormed_dropSets rest h.2
  | .chain _ _ _ rest, h => ⟨h.1, h.2.1, h.2.2.1, wellFormed_dropSets rest h.2.2.2⟩
  | .guard _ _ rest, h => ⟨h.1, h.2.1, h.2.2.1, wellFormed_dropSets rest h.2.2.2⟩

theorem count_dropSets : ∀ d : Doc, d.dropSets.count = d.count
  | .done => rfl
  | .text _ rest | .set _ rest => count_dropSets rest
  | .chain _ _ _ rest | .guard _ _ rest => congrArg (· + 1) (count_dropSets rest)

theorem forBodies_dropSets {P : Doc → Prop} :
    ∀ d : Doc, d.ForBodies P → d.dropSets.ForBodies P
  | .done, _ => trivial
  | .text _ rest, h | .set _ rest, h => forBodies_dropSets rest h
  | .chain _ _ _ rest, h => ⟨h.1, h.2.1, forBodies_dropSets rest h.2.2⟩
  | .guard _ _ rest, h => ⟨h.1, forBodies_dropSets rest h.2⟩

/-- The assignments of a document itself are not among what its chains and guards resolve to. -/
theorem resolve_dropSets (w : Setting) (finish : Text → Act Text) :
    ∀ d : Doc, d.dropSets.resolve w finish = d.resolve w finish
  | .done => rfl
  | .text _ rest | .chain _ _ _ rest | .guard _ _ rest => by
    simp only [dropSets, resolve, resolve_dropSets w finish rest]
  | .set _ rest => by
    rw [dropSets, resolve]
    exact resolve_dropSets w finish rest

/-- A macro that begins no assignment is skipped. -/
private theorem Argument.skipsSets {t : Text} (h : Argument t) {name : Text} (hn : IsName name)
    (hs : isNamed setNames name = false) (ho : '[' ∉ name) (hc : ']' ∉ name) (words : Words)
    (depth : Nat) : SkipsSets words depth (⟨name, t⟩ : Invocation).source :=
  skipsSets_of_noHead (sealed_source _) (noHead_source hn hs h.noSet) (h.noOpener_source ho)
    (h.noCloser_source hc) words depth

mutual

/-- **In brackets the assignments of a document are text.** -/
theorem skipsSets_render (words : Words) : ∀ {d : Doc}, d.WellFormed Inline Inline →
    ∀ depth, SkipsSets words (depth + 1) d.render
  | .done, _, depth => by
    rw [render]
    exact .nil words (depth + 1)
  | .text t rest, h, depth => by
    obtain ⟨ht, hrest⟩ := h
    rw [render]
    exact (skipsSets_of_noHead ht.isSealed (ht.noHead.mono (by simp)) ht.noOpener ht.noCloser words
      (depth + 1)).append (skipsSets_render words hrest depth)
  | .set args rest, h, depth => by
    obtain ⟨hargs, hrest⟩ := h
    have hm : (setCall args).Readable := hargs.argument.readable (by decide)
    rw [render]
    exact (skipsSets_set hm (show isNamed setNames "set".toList by decide)
      (hargs.argument.noOpener_source (by decide)) (hargs.argument.noCloser_source (by decide))
      words depth).append (skipsSets_render words hrest depth)
  | .chain c body more rest, h, depth => by
    obtain ⟨hc, hbody, hmore, hrest⟩ := h
    have hcall : SkipsSets words (depth + 1) (ifCall c).source :=
      hc.skipsSets (by decide) (by decide) (by decide) (by decide) words (depth + 1)
    have hfirst := hcall.append (SkipsSets.hook (skipsSets_render words hbody (depth + 1)))
    rw [render]
    refine SkipsSets.append ?_ (skipsSets_render words hrest depth)
    simpa [Chain.source, Chain.branches, Branch.source] using
      hfirst.append (skipsSets_list words hmore (depth + 1))
  | .guard q body rest, h, depth => by
    obtain ⟨hq, -, hbody, hrest⟩ := h
    have hcall : SkipsSets words (depth + 1) (guardCall q).source :=
      hq.skipsSets (by decide) (by decide) (by decide) (by decide) words (depth + 1)
    rw [render]
    exact (hcall.append (SkipsSets.hook (skipsSets_render words hbody (depth + 1)))).append
      (skipsSets_render words hrest depth)

theorem skipsSets_list (words : Words) : ∀ {more : Branches}, more.WellFormed Inline →
    ∀ depth, SkipsSets words depth (more.list.flatMap Branch.source)
  | .none, _, depth => by
    rw [Branches.list]
    exact .nil words depth
  | .otherwise true body, h, depth => by
    rw [Branches.list]
    simpa [Branch.source] using SkipsSets.hook (skipsSets_render words h depth)
  | .otherwise false body, h, depth => by
    have hcall : SkipsSets words depth elseCall.source :=
      argument_nil.skipsSets (by decide) (by decide) (by decide) (by decide) words depth
    rw [Branches.list]
    simpa [Branch.source] using hcall.append (SkipsSets.hook (skipsSets_render words h depth))
  | .elseIf c body more, h, depth => by
    obtain ⟨hc, hbody, hmore⟩ := h
    have hcall : SkipsSets words depth (elseIfCall c).source :=
      hc.skipsSets (by decide) (by decide) (by decide) (by decide) words depth
    have hfirst := hcall.append (SkipsSets.hook (skipsSets_render words hbody depth))
    rw [Branches.list]
    simpa [Branch.source] using hfirst.append (skipsSets_list words hmore depth)

end

/-- **The assignments outside all hooks run**, and the document without them is left. -/
theorem runSets_render (words : Words) : ∀ {d : Doc}, d.WellFormed Inline Inline →
    runSets words d.render = (do
      d.assign words
      pure d.dropSets.render)
  | .done => fun _ => by
    rw [render, runSets_of_noHead (noHead_nil _)]
    rfl
  | .text t rest => fun h => by
    obtain ⟨ht, hrest⟩ := h
    have hskip := skipsSets_of_noHead ht.isSealed (ht.noHead.mono (by simp)) ht.noOpener
      ht.noCloser words 0
    rw [render, hskip.runSets_append, runSets_render words hrest]
    simp [assign, dropSets, render]
  | .set args rest => fun h => by
    obtain ⟨hargs, hrest⟩ := h
    have hm : (setCall args).Readable := hargs.argument.readable (by decide)
    have hdepth : Bracket.square.depthAfter 0 (setCall args).source = 0 :=
      Bracket.depthAfter_of_not_mem (hargs.argument.noOpener_source (by decide))
        (hargs.argument.noCloser_source (by decide)) 0
    have ih := runSets_render words hrest
    rw [runSets_eq_runSetsAt] at ih ⊢
    rw [render, runSetsAt_set hm (show isNamed setNames "set".toList by decide), hdepth, ih, assign,
      bind_assoc]
    rfl
  | .chain c body more rest => fun h => by
    obtain ⟨hc, hbody, hmore, hrest⟩ := h
    have hcall : SkipsSets words 0 (ifCall c).source :=
      hc.skipsSets (by decide) (by decide) (by decide) (by decide) words 0
    have hfirst := hcall.append (SkipsSets.hook (skipsSets_render words hbody 0))
    have hskip : SkipsSets words 0 (chainOf c body more).source := by
      simpa [chainOf, Chain.source, Chain.branches, Branch.source] using
        hfirst.append (skipsSets_list words hmore 0)
    rw [render, ← chainOf, hskip.runSets_append, runSets_render words hrest]
    simp [assign, dropSets, render, chainOf]
  | .guard q body rest => fun h => by
    obtain ⟨hq, -, hbody, hrest⟩ := h
    have hcall : SkipsSets words 0 (guardCall q).source :=
      hq.skipsSets (by decide) (by decide) (by decide) (by decide) words 0
    have hskip := hcall.append (SkipsSets.hook (skipsSets_render words hbody 0))
    rw [render, hskip.runSets_append, runSets_render words hrest]
    simp [assign, dropSets, render]

end Doc

end Hyperfiction

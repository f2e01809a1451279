import Hyperfiction.Proofs.Document.Meaning
import Hyperfiction.Proofs.Eval.Related

/-!
# The markup of a document reduced

The passes over the markup of a document follow its meaning. `Doc.Resolved d s u` relates two texts of a
sequence: `s` is its text as the meaning has it and `u` its markup when the pass over chains and guards
is done, where its own assignments still stand. The pass leads to such a text
(`Doc.resolve_related`), the next pass runs the assignments and leaves the first one
(`Doc.Resolved.runSets_eq`), and so a body that is taken becomes what `Doc.conclude` says, at every depth
within the limits (`Doc.conclude_related`). `Doc.settled_related` says it of a whole passage.

All of it holds along a relation between two runs, and for any class of inline texts that bodies may
become; **plain** texts, free of markup, are one.
-/

namespace Hyperfiction

open Invocation Act

/-! ### Plain texts -/

/-- The characters of markup. -/
def Text.markup : Text := ['(', ')', '[', ']', '{', '}', '$']

/-- A text without markup. -/
def Text.Plain (t : Text) : Prop := ∀ c ∈ t, c ∉ Text.markup

instance : DecidablePred Text.Plain :=
  fun t => decidable_of_iff (t.all fun c => !Text.markup.contains c) (by simp [Text.Plain])

namespace Text.Plain

variable {s t : Text}

theorem not_mem (h : Plain t) {c : Char} (hc : c ∈ markup) : c ∉ t := fun hmem => h c hmem hc

theorem append (hs : Plain s) (ht : Plain t) : Plain (s ++ t) := by
  intro c hc
  rcases List.mem_append.mp hc with hc | hc
  · exact hs c hc
  · exact ht c hc

theorem inline (h : Plain t) : Doc.Inline t where
  isSealed := sealed_of_not_mem (h.not_mem (by decide))
  noHead := noHead_of_not_mem (h.not_mem (by decide))
  noOpener := h.not_mem (by decide)
  noCloser := h.not_mem (by decide)

end Text.Plain

namespace Doc

theorem Inline.append {s t : Text} (hs : Inline s) (ht : Inline t) : Inline (s ++ t) where
  isSealed := hs.isSealed.append ht.isSealed
  noHead := hs.noHead.append (.inl hs.isSealed) ht.noHead
  noOpener := by simp [hs.noOpener, ht.noOpener]
  noCloser := by simp [hs.noCloser, ht.noCloser]

end Doc

/-! ### The variables of a document -/

mutual

/-- Conditions and assignments of the document read no variables but those in `reads` and assign none
but those in `writes`. -/
def Doc.Uses (reads writes : Text → Prop) : Doc → Prop
  | .done => True
  | .text _ rest => rest.Uses reads writes
  | .set args rest =>
    (∀ x ∈ Assignment.textNames args, reads x) ∧ (∀ x ∈ Assignment.textTargets args, writes x) ∧
      rest.Uses reads writes
  | .chain c body more rest =>
    (∀ x ∈ Condition.textNames c, reads x) ∧ body.Uses reads writes ∧ more.Uses reads writes ∧
      rest.Uses reads writes
  | .guard _ body rest => body.Uses reads writes ∧ rest.Uses reads writes

/-- Conditions and assignments of the branches read no variables but those in `reads` and assign none
but those in `writes`. -/
def Branches.Uses (reads writes : Text → Prop) : Branches → Prop
  | .none => True
  | .otherwise _ body => body.Uses reads writes
  | .elseIf c body more =>
    (∀ x ∈ Condition.textNames c, reads x) ∧ body.Uses reads writes ∧ more.Uses reads writes

end

/-! ### Bodies -/

namespace Branches

variable {P Q : Doc → Prop} {inner reads writes : Text → Prop}

/-- What follows from a property of bodies holds of all bodies. -/
theorem ForBodies.imp (h : ∀ b, P b → Q b) : ∀ more : Branches, more.ForBodies P → more.ForBodies Q
  | .none, _ => trivial
  | .otherwise _ body, hb => h body hb
  | .elseIf _ body more, hb => ⟨h body hb.1, ForBodies.imp h more hb.2⟩

theorem ForBodies.and : ∀ more : Branches, more.ForBodies P → more.ForBodies Q →
    more.ForBodies fun b => P b ∧ Q b
  | .none, _, _ => trivial
  | .otherwise _ _, hp, hq => ⟨hp, hq⟩
  | .elseIf _ _ more, hp, hq => ⟨⟨hp.1, hq.1⟩, ForBodies.and more hp.2 hq.2⟩

/-- The bodies of a well-formed document are well formed. -/
theorem WellFormed.forBodies : ∀ more : Branches, more.WellFormed inner →
    more.ForBodies (Doc.WellFormed inner inner)
  | .none => fun _ => trivial
  | .otherwise _ _ => fun h => h
  | .elseIf _ _ more => fun h => ⟨h.2.1, WellFormed.forBodies more h.2.2⟩

/-- The bodies of a document use no more variables than it does. -/
theorem Uses.forBodies : ∀ more : Branches, more.Uses reads writes →
    more.ForBodies (Doc.Uses reads writes)
  | .none, _ => trivial
  | .otherwise _ _, h => h
  | .elseIf _ _ more, h => ⟨h.2.1, Uses.forBodies more h.2.2⟩

end Branches

namespace Doc

section Bodies

variable {P Q : Doc → Prop} {own inner reads writes : Text → Prop}

theorem ForBodies.imp (h : ∀ b, P b → Q b) : ∀ d : Doc, d.ForBodies P → d.ForBodies Q
  | .done, _ => trivial
  | .text _ rest, hb | .set _ rest, hb => ForBodies.imp h rest hb
  | .chain _ body more rest, hb =>
    ⟨h body hb.1, Branches.ForBodies.imp h more hb.2.1, ForBodies.imp h rest hb.2.2⟩
  | .guard _ body rest, hb => ⟨h body hb.1, ForBodies.imp h rest hb.2⟩

theorem ForBodies.and : ∀ d : Doc, d.ForBodies P → d.ForBodies Q →
    d.ForBodies fun b => P b ∧ Q b
  | .done, _, _ => trivial
  | .text _ rest, hp, hq | .set _ rest, hp, hq => ForBodies.and rest hp hq
  | .chain _ _ more rest, hp, hq =>
    ⟨⟨hp.1, hq.1⟩, Branches.ForBodies.and more hp.2.1 hq.2.1, ForBodies.and rest hp.2.2 hq.2.2⟩
  | .guard _ _ rest, hp, hq => ⟨⟨hp.1, hq.1⟩, ForBodies.and rest hp.2 hq.2⟩

theorem WellFormed.forBodies : ∀ d : Doc, d.WellFormed own inner →
    d.ForBodies (WellFormed inner inner)
  | .done, _ => trivial
  | .text _ rest, h | .set _ rest, h => WellFormed.forBodies rest h.2
  | .chain _ _ more rest, h =>
    ⟨h.2.1, Branches.WellFormed.forBodies more h.2.2.1, WellFormed.forBodies rest h.2.2.2⟩
  | .guard _ _ rest, h => ⟨h.2.2.1, WellFormed.forBodies rest h.2.2.2⟩

theorem Uses.forBodies : ∀ d : Doc, d.Uses reads writes → d.ForBodies (Uses reads writes)
  | .done, _ => trivial
  | .text _ rest, h => Uses.forBodies rest h
  | .set _ rest, h => Uses.forBodies rest h.2.2
  | .chain _ _ more rest, h =>
    ⟨h.2.1, Branches.Uses.forBodies more h.2.2.1, Uses.forBodies rest h.2.2.2⟩
  | .guard _ _ rest, h => ⟨h.1, Uses.forBodies rest h.2⟩

/-- What is asked of a document that nests is asked of its bodies, with room for one level less. -/
theorem forBodies_of_fits {limit room : Nat} {d : Doc} (hd : d.WellFormed own inner)
    (hu : d.Uses reads writes) (hf : d.Fits limit (room + 1)) :
    d.ForBodies fun b => b.WellFormed inner inner ∧ b.Uses reads writes ∧ b.Fits limit room :=
  (hd.forBodies d).and d ((hu.forBodies d).and d hf.2)

end Bodies

/-! ### A sequence reduced -/

/-- The texts that a sequence may be made of: inline ones, one behind another. -/
structure Texts (own : Text → Prop) : Prop where
  nil : own []
  append : ∀ {s t}, own s → own t → own (s ++ t)
  inline : ∀ {t}, own t → Inline t

/-- Texts of a class have come in the place of the chains and guards of a sequence: `s` is without its
assignments, and in `u` they stand as written. -/
inductive Resolved (inner : Text → Prop) : Doc → Text → Text → Prop where
  | done : Resolved inner .done [] []
  | text {rest : Doc} {s u : Text} (t : Text) :
    Resolved inner rest s u → Resolved inner (.text t rest) (t ++ s) (t ++ u)
  | set {rest : Doc} {s u : Text} (args : Text) :
    Resolved inner rest s u → Resolved inner (.set args rest) s ((setCall args).source ++ u)
  | chain {rest : Doc} {s u x : Text} (c : Text) (body : Doc) (more : Branches) :
    inner x → Resolved inner rest s u →
      Resolved inner (.chain c body more rest) (x ++ s) (x ++ u)
  | guard {rest : Doc} {s u x : Text} (q : Text) (body : Doc) :
    inner x → Resolved inner rest s u → Resolved inner (.guard q body rest) (x ++ s) (x ++ u)

section Resolved

variable {own inner : Text → Prop} {s u : Text}

/-- What a document resolves to is in the class of its texts. -/
theorem Resolved.texts {d : Doc} (h : Resolved inner d s u) (ho : Texts own)
    (hsub : ∀ t, inner t → own t) (hd : d.WellFormed own inner) : own s := by
  induction h with
  | done => exact ho.nil
  | text t _ ih => exact ho.append hd.1 (ih hd.2)
  | set _ _ ih => exact ih hd.2
  | chain _ _ _ hx _ ih => exact ho.append (hsub _ hx) (ih hd.2.2.2)
  | guard _ _ hx _ ih => exact ho.append (hsub _ hx) (ih hd.2.2.2)

/-- A sequence without assignments is reduced to its text. -/
theorem Resolved.eq_of_dropSets : ∀ (d : Doc) {s u : Text}, Resolved inner d.dropSets s u → s = u
  | .done, _, _, h => by
    cases h
    rfl
  | .text _ rest, _, _, h => by
    cases h with
    | text t h => rw [Resolved.eq_of_dropSets rest h]
  | .set _ rest, _, _, h => Resolved.eq_of_dropSets rest h
  | .chain _ _ _ rest, _, _, h => by
    cases h with
    | chain _ _ _ _ h => rw [Resolved.eq_of_dropSets rest h]
  | .guard _ _ rest, _, _, h => by
    cases h with
    | guard _ _ _ h => rw [Resolved.eq_of_dropSets rest h]

/-- A reduced sequence is the markup of a document with the same assignments. -/
private theorem Resolved.exists_doc {d : Doc} (h : Resolved inner d s u) (hinner : Texts inner)
    (hd : d.WellFormed Inline Inline) (words : Words) :
    ∃ d' : Doc, d'.WellFormed Inline Inline ∧ d'.render = u ∧ d'.dropSets.render = s ∧
      d'.assign words = d.assign words := by
  induction h with
  | done => exact ⟨.done, trivial, rfl, rfl, rfl⟩
  | text t _ ih =>
    obtain ⟨d', hwf, rfl, rfl, hassign⟩ := ih hd.2
    exact ⟨.text t d', ⟨hd.1, hwf⟩, rfl, rfl, hassign⟩
  | set args _ ih =>
    obtain ⟨d', hwf, rfl, rfl, hassign⟩ := ih hd.2
    exact ⟨.set args d', ⟨hd.1, hwf⟩, rfl, rfl, by rw [assign, assign, hassign]⟩
  | @chain _ _ _ x _ _ _ hx _ ih =>
    obtain ⟨d', hwf, rfl, rfl, hassign⟩ := ih hd.2.2.2
    exact ⟨.text x d', ⟨hinner.inline hx, hwf⟩, rfl, rfl, hassign⟩
  | @guard _ _ _ x _ _ hx _ ih =>
    obtain ⟨d', hwf, rfl, rfl, hassign⟩ := ih hd.2.2.2
    exact ⟨.text x d', ⟨hinner.inline hx, hwf⟩, rfl, rfl, hassign⟩

/-- **The assignments of a reduced sequence run** and its text is left. -/
theorem Resolved.runSets_eq {d : Doc} (h : Resolved inner d s u) (hinner : Texts inner)
    (hd : d.WellFormed Inline Inline) (words : Words) :
    runSets words u = (do
      d.assign words
      pure s) := by
  obtain ⟨d', hwf, rfl, rfl, hassign⟩ := h.exists_doc hinner hd words
  rw [runSets_render words hwf, hassign]

end Resolved

/-! ### The pass over chains and guards -/

section Pass

variable {I : Run → Run → Prop} {writes own inner : Text → Prop} {w : Setting}
  {finish body : Text → Act Text}

/-- Two results are the same text of a class. -/
def SameIn (inner : Text → Prop) (s t : Text) : Prop := s = t ∧ inner s

/-- **Branches are resolved alike** in two runs, if their bodies are. -/
theorem Branches.resolve_related (hI : Framed I (fun _ => True) writes) (hinner : Texts inner) :
    ∀ more : Branches,
      more.ForBodies (fun b => Related I (SameIn inner) (b.conclude w finish (b.resolve w finish))
        (body b.render)) →
      Related I (SameIn inner) (more.resolve w finish) (Chain.take w body more.list)
  | .none, _ => .pure ⟨rfl, hinner.nil⟩
  | .otherwise true _, hb | .otherwise false _, hb => hb
  | .elseIf c b more, hb =>
    (Condition.textHolds_related hI w fun _ _ => trivial).bind_eq fun holds => by
      cases holds with
      | true => exact hb.1
      | false => exact Branches.resolve_related hI hinner more hb.2

/-- One step of the pass: what a chain or a guard becomes is written, and the rest behind it. -/
private theorem pass_related {t u : Text} {k : Conditional} {limit : Nat} {d rest : Doc}
    {chosen behind : Act Text} (hfind : Conditional.finder.find? t = some ([], k, u))
    (hchosen : Related I (SameIn inner) chosen (Conditional.resolve w body k))
    (hbehind : Related I (Resolved inner rest) behind
      (Conditional.finder.pass (Conditional.resolve w body) limit u))
    (hd : ∀ x s v, inner x → Resolved inner rest s v → Resolved inner d (x ++ s) (x ++ v)) :
    Related I (Resolved inner d)
      (do
        let x ← chosen
        let s ← behind
        pure (x ++ s))
      (Conditional.finder.pass (Conditional.resolve w body) (limit + 1) t) := by
  rw [Finder.pass_of_eq_some _ _ hfind]
  refine hchosen.bind fun x y hxy => ?_
  obtain ⟨rfl, hx⟩ := hxy
  exact hbehind.bind fun s v h => .pure (hd x s v hx h)

/-- **The pass over chains and guards reduces a document**, if `body` makes of each body what its
meaning is. -/
theorem resolve_related (hI : Framed I (fun _ => True) writes) (hinner : Texts inner) :
    ∀ (d : Doc) (limit : Nat), d.WellFormed Inline Inline → d.count ≤ limit →
      d.ForBodies (fun b => Related I (SameIn inner) (b.conclude w finish (b.resolve w finish))
        (body b.render)) →
      Related I (Resolved inner d) (d.resolve w finish)
        (Conditional.finder.pass (Conditional.resolve w body) limit d.render)
  | .done, limit, _, _, _ => by
    have hfind : Conditional.finder.find? (render .done) = none :=
      Conditional.find?_eq_none (noHead_nil _)
    rw [Finder.pass_of_eq_none _ _ hfind]
    exact .pure .done
  | .text t rest, limit, hd, hcount, hb => by
    obtain ⟨ht, hrest⟩ := hd
    have hfind := Conditional.find?_append (u := rest.render) (.inl ht.isSealed)
      (ht.noHead.mono (by simp))
    rw [render, Finder.pass_append _ _ hfind]
    exact (resolve_related hI hinner rest limit hrest hcount hb).bind fun s u h => .pure (.text t h)
  | .set args rest, limit, hd, hcount, hb => by
    obtain ⟨hargs, hrest⟩ := hd
    have hnone : NoHead Conditional.names (setCall args).source :=
      noHead_source (show IsName "set".toList by decide)
        (show isNamed Conditional.names "set".toList = false by decide) hargs.noConditional
    have hfind := Conditional.find?_append (u := rest.render) (.inl (sealed_source _)) hnone
    rw [render, Finder.pass_append _ _ hfind, resolve, ← bind_pure (rest.resolve w finish)]
    exact (resolve_related hI hinner rest limit hrest hcount hb).bind fun s u h => .pure (.set args h)
  | .chain c b more rest, 0, _, hcount, _ => by simp [count] at hcount
  | .chain c b more rest, limit + 1, hd, hcount, hb => by
    have hchosen : Related I (SameIn inner)
        (do
          let holds ← Condition.textHolds w c
          if holds then b.conclude w finish (b.resolve w finish) else more.resolve w finish)
        (Conditional.resolve w body (.chain (chainOf c b more))) := by
      rw [Conditional.resolve_chain]
      refine (Condition.textHolds_related hI w fun _ _ => trivial).bind_eq fun holds => ?_
      cases holds with
      | true => exact hb.1
      | false => exact Branches.resolve_related hI hinner more hb.2.1
    have hbehind :=
      resolve_related hI hinner rest limit hd.2.2.2 (by simpa [count] using hcount) hb.2.2
    rw [resolve, ← bind_assoc]
    exact pass_related (find?_chain_render hd) hchosen hbehind fun _ _ _ => .chain c b more
  | .guard q b rest, 0, _, hcount, _ => by simp [count] at hcount
  | .guard q b rest, limit + 1, hd, hcount, hb => by
    obtain ⟨query, hq⟩ := Query.exists_ofText? hd.2.1
    have hchosen : Related I (SameIn inner)
        (if (Query.ofText? q).any (·.holds w) then b.conclude w finish (b.resolve w finish)
          else pure [])
        (Conditional.resolve w body (.guard ⟨guardCall q, ⟨[], b.render⟩, query⟩)) := by
      rw [hq, Option.any_some, Conditional.resolve]
      split
      · exact hb.1
      · exact .pure ⟨rfl, hinner.nil⟩
    have hbehind :=
      resolve_related hI hinner rest limit hd.2.2.2 (by simpa [count] using hcount) hb.2
    rw [resolve]
    exact pass_related (find?_guard_render hd hq) hchosen hbehind fun _ _ _ => .guard q b

end Pass

/-! ### Bodies and passages -/

/-- The assignments of a document have like effects in two runs. -/
theorem assign_related {I : Run → Run → Prop} {reads writes : Text → Prop}
    (hI : Framed I reads writes) (words : Words) :
    ∀ d : Doc, d.Uses reads writes → Related I Eq (d.assign words) (d.assign words)
  | .done, _ => .pure rfl
  | .text _ rest, h => assign_related hI words rest h
  | .set _ rest, h =>
    (Assignment.runText_related hI words h.1 h.2.1).bind_eq fun _ =>
      assign_related hI words rest h.2.2
  | .chain _ _ _ rest, h => assign_related hI words rest h.2.2.2
  | .guard _ _ rest, h => assign_related hI words rest h.2

section Limits

variable {I : Run → Run → Prop} {writes own inner : Text → Prop} {w : Setting}
  {finish : Text → Act Text}

/-- A body becomes what it means, if the bodies in it do with one level less. -/
private theorem conclude_of_bodies (hI : Framed I (fun _ => True) writes) (hinner : Texts inner)
    (hfinish : ∀ s, inner s → Related I (SameIn inner) (finish s) (resolvePrints w s)) {room : Nat}
    {d : Doc} (hd : d.WellFormed inner inner) (hu : d.Uses (fun _ => True) writes)
    (hcount : d.count ≤ w.limits.maxReductions)
    (hb : d.ForBodies fun b =>
      Related I (SameIn inner) (b.conclude w finish (b.resolve w finish)) (reduceBody w room b.render)) :
    Related I (SameIn inner) (d.conclude w finish (d.resolve w finish))
      (reduceBody w (room + 1) d.render) := by
  -- The pass leaves the text of the body with its own assignments in it; they run next.
  have hwf : d.WellFormed Inline Inline :=
    hd.mono (fun _ h => hinner.inline h) (fun _ h => hinner.inline h)
  rw [conclude, reduceBody, reduceWith_eq_pass]
  refine (resolve_related hI hinner d _ hwf hcount hb).bind fun s u h => ?_
  rw [h.runSets_eq hinner hwf w.words, bind_assoc]
  refine (assign_related hI w.words d hu).bind_eq fun _ => ?_
  rw [pure_bind]
  exact hfinish s (h.texts hinner (fun _ hx => hx) hd)

/-- **Bodies within the limits become what they mean.** -/
theorem conclude_related (hI : Framed I (fun _ => True) writes) (hinner : Texts inner)
    (hfinish : ∀ s, inner s → Related I (SameIn inner) (finish s) (resolvePrints w s)) :
    ∀ (room : Nat) (d : Doc), d.WellFormed own inner → d.Uses (fun _ => True) writes →
      d.Fits w.limits.maxReductions room →
      d.ForBodies fun b =>
        Related I (SameIn inner) (b.conclude w finish (b.resolve w finish))
          (reduceBody w room b.render) := by
  intro room
  -- The texts of a sequence are `own` only at the top; one level deeper they are `inner`.
  induction room generalizing own with
  | zero => exact fun d _ _ hf => forBodies_of_count d hf
  | succ room ih =>
    intro d hd hu hf
    refine (forBodies_of_fits hd hu hf).imp (fun b hb => ?_) d
    obtain ⟨hwf, huses, hfits⟩ := hb
    exact conclude_of_bodies hI hinner hfinish hwf huses hfits.count_le (ih b hwf huses hfits)

/-- An inline text has no orphans. -/
theorem removeOrphans_of_inline {t : Text} (h : Inline t) (limit : Nat) :
    removeOrphans limit t = t := by
  have hfind : Orphan.finder.find? t = none := Orphan.find?_eq_none (h.noHead.mono (by simp))
  rw [removeOrphans_eq_pass, Finder.pass_of_eq_none _ _ hfind]
  rfl

/-- **A document within the limits is settled as its meaning says**: its assignments run, and its
chains and guards are resolved. -/
theorem settled_related (hI : Framed I (fun _ => True) writes) (hown : Texts own)
    (hinner : Texts inner) (hsub : ∀ t, inner t → own t)
    (hfinish : ∀ s, inner s → Related I (SameIn inner) (finish s) (resolvePrints w s)) {d : Doc}
    (hd : d.WellFormed own inner) (hu : d.Uses (fun _ => True) writes)
    (hf : d.Fits w.limits.maxReductions w.limits.maxDepth) :
    Related I (fun s t => s = t ∧ own s)
      (do
        d.assign w.words
        d.resolve w finish)
      (settled w d.render) := by
  have hwf : d.WellFormed Inline Inline :=
    hd.mono (fun _ h => hinner.inline h) (fun _ h => hown.inline h)
  have hbodies := conclude_related hI hinner hfinish w.limits.maxDepth d hd hu hf
  rw [settled, runSets_render w.words hwf, bind_assoc]
  refine (assign_related hI w.words d hu).bind_eq fun _ => ?_
  -- Assignments outside of hooks have run before the pass, so it meets the document without them.
  rw [pure_bind, ← resolve_dropSets, ← bind_pure (d.dropSets.resolve w finish), reduceChains,
    reduceWith_eq_pass]
  refine (resolve_related hI hinner d.dropSets _ (wellFormed_dropSets d hwf)
    ((count_dropSets d).le.trans hf.count_le) (forBodies_dropSets d hbodies)).bind fun s u h => ?_
  obtain rfl := h.eq_of_dropSets d
  have htexts : own s := h.texts hown hsub (wellFormed_dropSets d hd)
  rw [removeOrphans_of_inline (hown.inline htexts)]
  exact .pure ⟨rfl, htexts⟩

end Limits

end Doc

end Hyperfiction

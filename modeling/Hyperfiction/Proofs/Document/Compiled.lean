import Hyperfiction.Proofs.Document.Reduced
import Hyperfiction.Proofs.Markup.Groups

/-!
# Documents compiled

What is left of a document when its assignments have run and its chains and guards are resolved passes
through links, groups, prints and inline names unchanged, if it is plain. So a passage whose body is the
markup of a plain document is compiled to what the document means, effects included, for all variables,
visits, tags and random words (`Doc.compile_eq_meaning`).
-/

namespace Hyperfiction

open Invocation Act

/-! ### Texts that no pass changes -/

theorem Text.breakOn?_eq_none {c : Char} {needle t : Text} (h : c ∉ t) :
    Text.breakOn? (c :: needle) t = none :=
  Text.breakOn?_eq_none_iff.mpr fun _ hw hp => h (hw.subset (hp.subset List.mem_cons_self))

theorem Link.find?_eq_none {t : Text} (h : '[' ∉ t) : Link.finder.find? t = none := by
  have hbreak : Text.breakOn? (Link.opening false) t = none := Text.breakOn?_eq_none h
  change Link.find? t = none
  rw [Link.find?, hbreak]

/-- A text without `$` has no variable to write. -/
theorem substitute_of_not_mem {t : Text} (h : '$' ∉ t) (s : Snapshot) : substitute s t = t := by
  induction t with
  | nil => rw [substitute]
  | cons c t ih =>
    simp only [List.mem_cons, not_or] at h
    rw [substitute]
    simp only [Ne.symm h.1, false_and, if_false, ih h.2]

/-- A settled text without links and groups has its prints written, and that is all. -/
theorem written_of_inline {t : Text} (h : Doc.Inline t) (hg : '{' ∉ t) (w : Setting) :
    written w t = (do
      let printed ← resolvePrints w t
      return substitute (← get).store printed) := by
  have hlink : Link.strip t = t :=
    Finder.without_cuts_of_eq_none Link.finder (Link.find?_eq_none h.noOpener)
  have hset : stripSets t = t := stripSets_of_noHead (h.noHead.mono (by simp))
  rw [written, hlink, collapseGroups_of_noGroup (Bracket.atOpeners_of_not_mem hg), hset]

theorem choices_of_inline {t : Text} (h : Doc.Inline t) : Link.choices t = [] := by
  rw [Link.choices, Finder.found_cuts_of_eq_none Link.finder (Link.find?_eq_none h.noOpener)]
  rfl

/-! ### Plain documents -/

namespace Doc

/-- A sequence may be made of plain texts. -/
theorem texts_plain : Texts Text.Plain where
  nil := by simp [Text.Plain]
  append := Text.Plain.append
  inline := Text.Plain.inline

mutual

theorem uses_true : ∀ d : Doc, d.Uses (fun _ => True) (fun _ => True)
  | .done => trivial
  | .text _ rest => uses_true rest
  | .set _ rest => ⟨fun _ _ => trivial, fun _ _ => trivial, uses_true rest⟩
  | .chain _ body more rest =>
    ⟨fun _ _ => trivial, uses_true body, Branches.uses_true more, uses_true rest⟩
  | .guard _ body rest => ⟨uses_true body, uses_true rest⟩

theorem Branches.uses_true : ∀ more : Branches, more.Uses (fun _ => True) (fun _ => True)
  | .none => trivial
  | .otherwise _ body => uses_true body
  | .elseIf _ body more => ⟨fun _ _ => trivial, uses_true body, Branches.uses_true more⟩

end

end Doc

/-- A run beside itself: equality is respected by all that evaluation does. -/
theorem Act.framed_eq (reads writes : Text → Prop) : Framed (· = ·) reads writes where
  get? h _ := by rw [h]
  used h := by rw [h]
  draw h _ := by rw [h]
  bind h _ _ := by rw [h]

theorem resolvePrints_of_plain {t : Text} (h : Text.Plain t) (w : Setting) :
    resolvePrints w t = pure t :=
  resolvePrints_of_noHead (noHead_of_not_mem (h.not_mem (by decide))) w

/-- **Plain text is written as it is.** -/
theorem written_of_plain {t : Text} (h : Text.Plain t) (w : Setting) : written w t = pure t := by
  have hname : '$' ∉ t := h.not_mem (by decide)
  rw [written_of_inline h.inline (h.not_mem (by decide)), resolvePrints_of_plain h]
  funext r
  exact congrArg (fun u => (u, r)) (substitute_of_not_mem hname r.store)

/-- The draft of a plain document is its text, with its effects, and offers no choice. -/
theorem Doc.draft_render {w : Setting} {d : Doc} (hd : d.WellFormed Text.Plain Text.Plain)
    (hf : d.Fits w.limits.maxReductions w.limits.maxDepth) :
    draft w d.render = (do
      let t ← d.meaning w
      pure (t, [])) := by
  have hfinish : ∀ s, Text.Plain s →
      Related (· = ·) (SameIn Text.Plain) (pure s : Act Text) (resolvePrints w s) := by
    intro s hs
    rw [resolvePrints_of_plain hs]
    exact .pure ⟨rfl, hs⟩
  -- With a run beside itself the invariant is equality, and any variable may be read and assigned.
  have hsettled := settled_related (framed_eq _ (fun _ => True)) texts_plain texts_plain
    (fun _ h => h) hfinish hd d.uses_true hf
  have hdraft : Related (· = ·) (· = ·)
      (do
        let t ← d.meaning w
        pure (t, []))
      (draft w d.render) := by
    refine hsettled.bind fun s t hst => ?_
    obtain ⟨rfl, hs⟩ := hst
    rw [written_of_plain hs, pure_bind, choices_of_inline hs.inline]
    exact .pure rfl
  funext r
  obtain ⟨hresult, hrun⟩ := hdraft r r rfl
  exact (Prod.ext hresult hrun).symm

/-- **A passage is compiled to what its document means.** The markup of a plain document within the
limits of nesting and of macros gives the text, the final variables and the random words of its meaning,
for all variables, visits, tags and words. -/
theorem Doc.compile_eq_meaning {c : Compiler} (hc : c.filters = []) {w : Setting}
    {p : PassageRecord} {d : Doc} (hbody : p.body = d.render)
    (hd : d.WellFormed Text.Plain Text.Plain)
    (hf : d.Fits w.limits.maxReductions w.limits.maxDepth) (snapshot : Snapshot) (used : Nat) :
    let (t, run) := (d.meaning w).run ⟨snapshot, used⟩
    (draft w p.body).run ⟨snapshot, used⟩ = ((t, []), run) ∧
      c.compile w p snapshot used =
        (⟨p.name, normalize t, [], p.tags, run.store.changesSince snapshot⟩, run.used) := by
  have hdraft : (draft w p.body).run ⟨snapshot, used⟩ =
      ((((d.meaning w).run ⟨snapshot, used⟩).1, []), ((d.meaning w).run ⟨snapshot, used⟩).2) := by
    rw [hbody, draft_render hd hf]
    rfl
  refine ⟨hdraft, ?_⟩
  rw [Compiler.compile, hdraft]
  simp only [Compiler.finish, hc, Filter.applyAll, List.foldl_nil]
  rfl

/-- The chain of a document in the second hook of another: the variable set in front is read, and the
one set in the body that is taken is bound. -/
theorem Doc.compile_eq_meaning_nested :
    let inner : Doc := .chain " $x".toList (.text "deep".toList (.set "$y to true".toList .done)) .none
      .done
    let d : Doc := .set "$x to true".toList (.text "a ".toList (.chain " false".toList .done
      (.otherwise false inner) (.guard " home".toList (.text "b".toList .done) .done)))
    let w : Setting := ⟨["home".toList], Table.empty, fun _ => 0, {}⟩
    let p : PassageRecord := ⟨"start".toList, [], d.render⟩
    ((⟨[], w.limits⟩ : Compiler).compile w p Table.empty 0).1.content = "a deepb".toList ∧
      ((⟨[], w.limits⟩ : Compiler).compile w p Table.empty 0).1.changes.keys =
        ["x".toList, "y".toList] := by
  intro inner d w p
  have hd : d.WellFormed Text.Plain Text.Plain := by decide +kernel
  have hf : d.Fits w.limits.maxReductions w.limits.maxDepth := by decide +kernel
  obtain ⟨-, hcompile⟩ := Doc.compile_eq_meaning (c := ⟨[], w.limits⟩) rfl (p := p) rfl hd hf
    Table.empty 0
  rw [hcompile]
  decide +kernel

end Hyperfiction

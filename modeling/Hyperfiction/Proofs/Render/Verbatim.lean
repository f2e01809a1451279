import Hyperfiction.Proofs.Document.Compiled
import Hyperfiction.Proofs.Render.Inline

/-!
# Values shown as they are

A passage that is an inline name, or the macro that prints a variable, shows the value of the variable.
The inline name becomes the value and that is all: whatever brackets, macros and names the value has, they
are text. What a macro prints still meets the pass that replaces inline names, so it is shown as it is if
none of its inline names is bound (`Compiler.content_of_text`).
-/

namespace Hyperfiction

open Invocation

/-- An inline text is settled as it stands. -/
theorem settled_of_inline {t : Text} (h : Doc.Inline t) (w : Setting) : settled w t = pure t := by
  have hset : runSets w.words t = pure t := runSets_of_noHead (h.noHead.mono (by simp)) w.words
  have hreduce : reduceChains w t = pure t := by
    rw [reduceChains, reduceWith_eq_pass]
    exact Finder.pass_of_eq_none _ _ (Conditional.find?_eq_none (h.noHead.mono (by simp))) _
  rw [settled, hset, pure_bind, hreduce, pure_bind, Doc.removeOrphans_of_inline h]

/-- The draft of an inline text without groups has its prints and inline names written, and no choices. -/
theorem draft_of_inline {t : Text} (h : Doc.Inline t) (hg : '{' ∉ t) (w : Setting) :
    draft w t = (do
      let printed ← resolvePrints w t
      return (substitute (← get).store printed, [])) := by
  rw [draft, settled_of_inline h, pure_bind, written_of_inline h hg, choices_of_inline h]
  rfl

/-- A text that is one printing macro. -/
theorem resolvePrints_source {m : Invocation} {apart : List Text} (hm : Whole printNames apart m) {w : Setting}
    (hw : w.limits.maxReductions ≠ 0) : resolvePrints w m.source = printMacro w m := by
  obtain ⟨limit, hlimit⟩ := Nat.exists_eq_succ_of_ne_zero hw
  have hfind : (Invocation.finder printNames).find? m.source = some ([], m, []) := by
    have h := Invocation.find?_source_append hm.readable hm.named []
    rwa [List.append_nil] at h
  have hrest : (Invocation.finder printNames).find? [] = none :=
    Invocation.find?_eq_none (noHead_nil printNames)
  rw [resolvePrints_eq_pass, hlimit, Finder.pass_of_eq_some _ _ hfind]
  simp only [Finder.pass_of_eq_none _ _ hrest, pure_bind, List.nil_append, List.append_nil, bind_pure]

variable {w : Setting} {s : Snapshot} {n : Text} {v : Value}

/-- **The draft of an inline name** is the value of the variable. -/
theorem draft_name (hn : Inline.IsName n) (hv : s.get? n = some v) (used : Nat) :
    (draft w ('$' :: n)).run ⟨s, used⟩ = ((v.toText, []), ⟨s, used⟩) := by
  have hmem : ∀ c ∈ ['(', ')', '[', ']', '{', '}'], c ∉ '$' :: n :=
    fun _ hc => hn.isVariable.not_mem_bracket hc
  have hopener : '(' ∉ '$' :: n := hmem _ (by simp)
  have hinline : Doc.Inline ('$' :: n) :=
    ⟨sealed_of_not_mem hopener, noHead_of_not_mem hopener, hmem _ (by simp), hmem _ (by simp)⟩
  rw [draft_of_inline hinline (hmem _ (by simp)), resolvePrints_of_noHead (noHead_of_not_mem hopener)]
  change ((substitute s ('$' :: n), []), (⟨s, used⟩ : Run)) = _
  rw [substitute_name hn hv]

/-- **The draft of a printed variable** is its value with inline names written. -/
theorem draft_printCall (hw : w.limits.maxReductions ≠ 0) (hn : Text.IsVariable n) (hv : s.get? n = some v)
    (used : Nat) :
    (draft w (Doc.printCall n).source).run ⟨s, used⟩ = ((substitute s v.toText, []), ⟨s, used⟩) := by
  have hm := Doc.whole_printCall hn
  have hinline : Doc.Inline (Doc.printCall n).source :=
    ⟨sealed_source _, hm.noHead_source (by decide), hm.noSquare_source.1, hm.noSquare_source.2⟩
  have hgroup : '{' ∉ (Doc.printCall n).source :=
    not_mem_source hm.readable.isName (by decide) (Doc.not_mem_printCall_args hn (by decide))
  rw [draft_of_inline hinline hgroup, resolvePrints_source hm hw, printMacro_printCall w hn]
  change ((substitute s (((s.lookup? n).map Value.toText).getD []), []), (⟨s, used⟩ : Run)) = _
  rw [Snapshot.lookup?_eq, hn.bareName, hv]
  rfl

namespace Compiler

/-- Without filters the text of a passage is that of its draft, laid out. -/
theorem content_of_draft {c : Compiler} (hc : c.filters = []) {p : PassageRecord} {used : Nat} {t : Text}
    {choices : List Choice} {run : Run} (h : (draft w p.body).run ⟨s, used⟩ = ((t, choices), run)) :
    (c.compile w p s used).1.content = normalize t := by
  rw [compile, h]
  simp only [finish, hc, Filter.applyAll, List.foldl_nil]

/-- **A value that is a text is shown as it is.** Without filters, for all limits, visits, tags and random
words: the passage that is the inline name of the variable shows the text whatever is in it, and the passage
that prints the variable does if none of the inline names in the text is bound. -/
theorem content_of_text (l : Limits) (visits : List Text) (tags : Table (List Text)) (words : Words)
    (title : Text) (passageTags : List Text) (used : Nat) {s : Snapshot} {n t : Text} (hne : n ≠ [])
    (hchars : ∀ c ∈ n, isInlineChar c) (hv : s.get? n = some (.text t)) :
    let c : Compiler := ⟨[], l.effective⟩
    let content : Text → Text := fun body =>
      (c.compile (c.setting visits tags words) ⟨title, passageTags, body⟩ s used).1.content
    (¬ n.head?.any Char.isDigit → content ('$' :: n) = normalize t) ∧
      ((∀ m ∈ Inline.names t, s.get? m = none) → content (Doc.printCall n).source = normalize t) := by
  intro c content
  have hw : (c.setting visits tags words).limits.maxReductions ≠ 0 :=
    Nat.ne_of_gt (Nat.le_max_right l.maxReductions 1)
  have hvar : Text.IsVariable n := ⟨hne, fun d hd => Inline.continuesWord_of_isInlineChar (hchars d hd)⟩
  refine ⟨fun hstart => ?_, fun hunbound => ?_⟩
  · exact content_of_draft rfl (draft_name ⟨hne, hchars, hstart⟩ hv used)
  · have hdraft := draft_printCall hw hvar hv used
    rw [show (Value.text t).toText = t from rfl, substitute_of_unbound hunbound] at hdraft
    exact content_of_draft rfl hdraft

/-- A text with a link, an assignment, a group, a chain, the name of no variable, and a name that begins with
a digit: that is no inline name, so its variable may be bound. -/
theorem content_of_text_markup :
    let t := "[[a]] (set: $x to 1){ $ghost }\n  (if: true)[$1]".toList
    let s : Snapshot := (Table.empty.insert "v".toList (.text t)).insert "1".toList (.text "one".toList)
    let c : Compiler := ⟨[], Limits.effective {}⟩
    let content : Text → Text := fun body =>
      (c.compile (c.setting [] Table.empty fun _ => 0) ⟨[], [], body⟩ s 0).1.content
    "v".toList ≠ [] ∧ (∀ c ∈ "v".toList, isInlineChar c) ∧ s.get? "v".toList = some (.text t) ∧
      (∀ m ∈ Inline.names t, s.get? m = none) ∧ content "$v".toList = normalize t ∧
      content "(print: $v)".toList = normalize t := by
  intro t s c content
  have hchars : ∀ c ∈ "v".toList, isInlineChar c := List.all_eq_true.mp (by decide)
  have hv : s.get? "v".toList = some (.text t) := by
    rw [Table.get?_insert, if_neg (by decide), Table.get?_insert, if_pos rfl]
  have hnone : ∀ m ∈ Inline.names t, (s.get? m).isNone := by decide +kernel
  have hunbound : ∀ m ∈ Inline.names t, s.get? m = none := fun m hm =>
    Option.isNone_iff_eq_none.mp (hnone m hm)
  have h := content_of_text {} [] Table.empty (fun _ => 0) [] [] 0 (by decide) hchars hv
  exact ⟨by decide, hchars, hv, hunbound, h.1 (by decide), h.2 hunbound⟩

/-- A printed text is searched for inline names once more, and a name that begins with a digit is none in
running text. -/
theorem content_not_of_text :
    let content : Snapshot → String → Text := fun s body =>
      let c : Compiler := ⟨[], Limits.effective {}⟩
      (c.compile (c.setting [] Table.empty fun _ => 0) ⟨[], [], body.toList⟩ s 0).1.content
    let s : Snapshot := (Table.empty.insert "v".toList (.text "$w".toList)).insert "w".toList
      (.text "x".toList)
    let d : Snapshot := Table.empty.insert "1".toList (.text "a".toList)
    normalize "$w".toList = "$w".toList ∧ content s "$v" = "$w".toList ∧
      content s "(print: $v)" = "x".toList ∧ normalize "a".toList = "a".toList ∧
      content d "(print: $1)" = "a".toList ∧ content d "$1" = "$1".toList := by
  decide +kernel

end Compiler

end Hyperfiction

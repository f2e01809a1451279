import Hyperfiction.Proofs.InPlace.Lexer
import Hyperfiction.Proofs.Markup.Whole
import Hyperfiction.Proofs.Text.Words

/-!
# Macros in text that is set as one line

A line has the heads and brackets of its text (`Invocation.noHead_lineFrom`, `Bracket.depth?_lineFrom`): blanks
stand in no head, and what they keep apart a space keeps apart. A macro stays what it is but for the blanks in
its arguments (`Invocation.lined`), and a text whose end completes no head, with blanks there or without, ends
so on a line as well (`Invocation.Sealed.lineFrom`).
-/

namespace Hyperfiction

open Text (LineEnd endFrom squeeze)

/-! ### Brackets -/

namespace Bracket

private theorem step?_of_blank {c : Char} (hc : Text.isBlank c) (b : Bracket) (n : Nat) :
    b.step? n c = some n := by
  have hplain : Text.isBlank b.opener = false ∧ Text.isBlank b.closer = false := by cases b <;> decide
  have ho : c ≠ b.opener := by
    rintro rfl
    exact Bool.false_ne_true (hplain.1.symm.trans hc)
  have hcl : c ≠ b.closer := by
    rintro rfl
    exact Bool.false_ne_true (hplain.2.symm.trans hc)
  rw [step?, if_neg ho, if_neg hcl]

private theorem depth?_pending (b : Bracket) (n : Nat) (e : LineEnd) : b.depth? n e.pending = some n := by
  cases e with
  | gap => rw [LineEnd.pending, depth?_cons, step?_of_blank (by decide)]; rfl
  | start | word => rfl

/-- **A line leads to the depth of brackets** that its text leads to. -/
theorem depth?_lineFrom (b : Bracket) (n : Nat) (e : LineEnd) (t : Text) :
    b.depth? n (Text.lineFrom e t) = b.depth? n t := by
  induction t generalizing n e with
  | nil => rfl
  | cons c t ih =>
    cases hc : Text.isBlank c with
    | true => rw [Text.lineFrom_of_blank hc, depth?_cons, step?_of_blank hc, Option.bind_some, ih]
    | false =>
      rw [Text.lineFrom_cons hc, depth?_append, depth?_pending, Option.bind_some, depth?_cons, depth?_cons]
      exact congrArg _ (funext fun k => ih k .word)

/-- Blanks that are squeezed leave the depth of brackets as it was. -/
theorem depth?_squeeze (b : Bracket) (n : Nat) (t : Text) : b.depth? n (squeeze t) = b.depth? n t := by
  have hend (k : Nat) : b.depth? k (endFrom .word t).pending = some k := depth?_pending b k _
  rw [squeeze, depth?_append, depth?_lineFrom, funext hend]
  exact Option.bind_fun_some _

end Bracket

/-! ### Heads -/

namespace Invocation

variable {names : List Text} {e : LineEnd} {t : Text} {c : Char}

/-- No blank stands in a name. -/
theorem isBlank_of_isNameChar (h : isNameChar c) : Text.isBlank c = false := by
  simp only [isNameChar, Char.isAlphanum, Bool.or_eq_true, beq_iff_eq] at h
  rcases h with ((hletter | hdigit) | rfl) | rfl
  · exact InPlace.isBlank_of_startsWord (by simp [Token.startsWord, Text.isLetter, hletter])
  · exact Text.isBlank_of_isDigit hdigit
  · decide
  · decide

/-- A head on a line is one of the text. -/
private theorem head?_lineFrom {name v : Text} (h : head? (c :: Text.lineFrom .word t) = some (name, v)) :
    ∃ u, head? (c :: t) = some (name, u) := by
  have hname := isName_of_head? h
  obtain ⟨rfl, hline⟩ := List.cons.inj (eq_append_of_head? h)
  have hplain : ∀ d ∈ name ++ [':'], Text.isBlank d = false := by
    intro d hd
    rcases List.mem_append.mp hd with hd | hd
    · exact isBlank_of_isNameChar (hname.2 d hd)
    · rw [List.mem_singleton.mp hd]
      decide
  obtain ⟨u, rfl⟩ := Text.prefix_of_prefix_lineFrom hplain (t := t) ⟨v, by simp [hline]⟩
  refine ⟨u, ?_⟩
  simpa using head?_of_isName hname u

theorem noHead_lineFrom (h : NoHead names t) : NoHead names (Text.lineFrom e t) := by
  induction t generalizing e with
  | nil => exact noHead_nil names
  | cons c t ih =>
    obtain ⟨hhead, hrest⟩ := noHead_cons_iff.mp h
    cases hc : Text.isBlank c with
    | true =>
      rw [Text.lineFrom_of_blank hc]
      exact ih hrest
    | false =>
      have hline : NoHead names (c :: Text.lineFrom .word t) := by
        refine noHead_cons_iff.mpr ⟨?_, ih hrest⟩
        cases hline : head? (c :: Text.lineFrom .word t) with
        | none => rfl
        | some p =>
          obtain ⟨u, hu⟩ := head?_lineFrom hline
          rwa [hu] at hhead
      rw [Text.lineFrom_cons hc]
      refine NoHead.append (.inl (sealed_of_not_mem ?_)) (noHead_of_not_mem ?_) hline <;>
        cases e <;> decide

/-- **No head is left open** at the end of a line, if none is in the text without the blanks at its end. -/
theorem Sealed.lineFrom (h : Sealed (Text.trimEnd t)) (e : LineEnd) : Sealed (Text.lineFrom e t) := by
  induction t generalizing e with
  | nil => exact sealed_nil
  | cons c t ih =>
    cases hc : Text.isBlank c with
    | true =>
      rw [Text.lineFrom_of_blank hc]
      refine ih ?_ _
      rw [Text.trimEnd] at h
      cases ht : Text.trimEnd t with
      | nil => exact sealed_nil
      | cons d u =>
        rw [ht] at h
        exact h.of_cons
    | false =>
      rw [Text.trimEnd_cons hc] at h
      rw [Text.lineFrom_cons hc]
      refine Sealed.append (sealed_of_not_mem (by cases e <;> decide)) ?_
      refine Sealed.cons (fun hopen => ?_) (ih h.of_cons _)
      subst hopen
      -- If all that is written behind the bracket were a name, it would be all that the text has there.
      by_contra hall
      push Not at hall
      have hplain : ∀ d ∈ Text.lineFrom .word t, Text.isBlank d = false := fun d hd =>
        isBlank_of_isNameChar (by simpa using hall d hd)
      obtain ⟨d, hd, hnot⟩ := h.exists_mem
      rw [← Text.lineFrom_eq_trimEnd hplain] at hd
      exact hnot (by simpa using hall d hd)

/-! ### Macros -/

/-- The macro as it stands on a line. -/
def lined (m : Invocation) : Invocation := ⟨m.name, squeeze m.args⟩

/-- **A macro on a line** is the macro with its blanks squeezed, behind the space that is held back. -/
theorem lineFrom_source {m : Invocation} (hm : IsName m.name) (e : LineEnd) :
    Text.lineFrom e m.source = e.pending ++ m.lined.source ∧ endFrom e m.source = .word := by
  have hfront : ∀ c ∈ '(' :: (m.name ++ [':']), Text.isBlank c = false := by
    intro c hc
    rcases List.mem_cons.mp hc with rfl | hc
    · decide
    rcases List.mem_append.mp hc with hc | hc
    · exact isBlank_of_isNameChar (hm.2 c hc)
    · rw [List.mem_singleton.mp hc]
      decide
  have hsource : m.source = '(' :: (m.name ++ [':']) ++ (m.args ++ [')']) := by simp [source]
  obtain ⟨hline, hend⟩ := Text.lineFrom_of_not_blank (e := e) (List.cons_ne_nil _ _) hfront
  have hclose (e : LineEnd) : Text.lineFrom e [')'] = e.pending ++ [')'] ∧ endFrom e [')'] = .word :=
    Text.lineFrom_of_not_blank (List.cons_ne_nil _ _) fun c hc => by
      rw [List.mem_singleton.mp hc]
      decide
  rw [hsource, Text.lineFrom_append, Text.endFrom_append, hline, hend, Text.lineFrom_append,
    Text.endFrom_append, (hclose _).1, (hclose _).2]
  refine ⟨?_, rfl⟩
  simp [lined, source, squeeze]

theorem noHead_squeeze (h : NoHead names t) : NoHead names (squeeze t) := by
  have hpending (e : LineEnd) : NoHead names e.pending ∧ (e.pending = [] ∨ Stops e.pending) := by
    cases e with
    | gap => exact ⟨noHead_of_not_mem (by decide), .inr ⟨' ', [], rfl, by decide, by decide⟩⟩
    | start | word => exact ⟨noHead_nil names, .inl rfl⟩
  obtain ⟨hnone, hnil | hstops⟩ := hpending (endFrom .word t)
  · rw [squeeze, hnil, List.append_nil]
    exact noHead_lineFrom h
  · exact (noHead_lineFrom h).append (.inr hstops) hnone

/-- **A whole macro is whole on a line.** -/
theorem Whole.lined {apart : List Text} {m : Invocation} (h : Whole names apart m) :
    Whole names apart m.lined where
  readable := ⟨h.readable.isName, (Bracket.depth?_squeeze .round 0 m.args).trans h.readable.balanced⟩
  named := h.named
  noHead := noHead_squeeze h.noHead
  noSquare := ⟨fun hmem => (Text.mem_of_mem_squeeze hmem).elim (by decide) h.noSquare.1,
    fun hmem => (Text.mem_of_mem_squeeze hmem).elim (by decide) h.noSquare.2⟩

end Invocation

end Hyperfiction

import Hyperfiction.Proofs.Eval.Related
import Hyperfiction.Proofs.Markup.Whole
import Hyperfiction.Proofs.Render.Drafted
import Hyperfiction.Proofs.Token.Front

/-!
# Printing a variable

The macro that prints a variable is whole (`Doc.whole_printCall`) and writes the text of its value, without
any other effect (`printMacro_printCall`). Printing binds no variables: what a macro writes depends on the
variables that it names, and the run behind it has the same variables (`printMacro_related`,
`printMacro_store`).
-/

namespace Hyperfiction

open Invocation Act

/-- The macro that prints a variable. -/
def Doc.printCall (x : Text) : Invocation := ⟨"print".toList, ' ' :: '$' :: x⟩

theorem Token.read_variable {x : Text} (h : Text.IsVariable x) :
    Token.read (' ' :: '$' :: x) = [⟨[' '], .var x, '$' :: x⟩] := by
  rw [read, readBehind_blank (by decide), read_eq_var_iff.mpr h, indent]

theorem Expr.ofTokens?_variable (gap x source : Text) :
    Expr.ofTokens? [⟨gap, .var x, source⟩] = some (.var x) := by
  simp [ofTokens?, whole, sumAt, joined, signed, primary, joinMore]

/-- The name of a variable has no `$` in front. -/
theorem Text.IsVariable.bareName {x : Text} (h : Text.IsVariable x) : Text.bareName x = x := by
  cases x with
  | nil => rfl
  | cons c x =>
    have hc : c ≠ '$' := by
      rintro rfl
      exact absurd (h.2 '$' (by simp)) (by decide +kernel)
    unfold Text.bareName
    split
    · rename_i heq
      exact absurd (List.cons.inj heq).1 hc
    · rfl

/-- **A printed variable** writes its value and does nothing else. -/
theorem printMacro_printCall (w : Setting) {x : Text} (h : Text.IsVariable x) :
    printMacro w (Doc.printCall x) = (do
      let v ← Act.lookup? x
      return (v.map Value.toText).getD []) := by
  have hname : isNamed ["print".toList] (Doc.printCall x).name = true :=
    show isNamed ["print".toList] "print".toList = true by decide
  have hcompare : Token.hasComparison (' ' :: '$' :: x) = false := by
    rw [Token.hasComparison, Token.read_variable h]
    rfl
  have hexpr : Expr.ofText? (' ' :: '$' :: x) = some (.var x) := by
    rw [Expr.ofText?, Token.read_variable h, Expr.ofTokens?_variable]
  rw [printMacro, if_pos hname]
  change printText w (' ' :: '$' :: x) = _
  rw [printText]
  simp only [hcompare, hexpr, Expr.evaluate]
  rfl

/-- A variable as it is written has no brackets. -/
theorem Text.IsVariable.not_mem_bracket {x : Text} (h : Text.IsVariable x) {c : Char}
    (hc : c ∈ ['(', ')', '[', ']', '{', '}']) : c ∉ '$' :: x := by
  have hword : ['(', ')', '[', ']', '{', '}'].all (fun c => !Token.continuesWord c) = true := by
    decide +kernel
  have hdollar : ['(', ')', '[', ']', '{', '}'].all (fun c => c != '$') = true := by decide +kernel
  have hc₁ : Token.continuesWord c = false := by simpa using List.all_eq_true.mp hword c hc
  have hc₂ : c ≠ '$' := by simpa using List.all_eq_true.mp hdollar c hc
  rw [List.mem_cons, not_or]
  refine ⟨hc₂, fun hmem => ?_⟩
  rw [h.2 c hmem] at hc₁
  cases hc₁

namespace Doc

/-- The argument of a printed variable has no brackets. -/
theorem not_mem_printCall_args {x : Text} (h : Text.IsVariable x) {c : Char}
    (hc : c ∈ ['(', ')', '[', ']', '{', '}']) : c ∉ (printCall x).args := by
  have hblank : ['(', ')', '[', ']', '{', '}'].all (fun c => c != ' ') = true := by decide +kernel
  refine List.not_mem_cons_of_ne_of_not_mem ?_ (h.not_mem_bracket hc)
  simpa using List.all_eq_true.mp hblank c hc

/-- **A macro that prints a variable is whole.** -/
theorem whole_printCall {x : Text} (h : Text.IsVariable x) :
    Whole printNames Link.macroNames (printCall x) where
  readable := ⟨show IsName "print".toList by decide, Bracket.balanced_of_not_mem
    (not_mem_printCall_args h (by decide)) (not_mem_printCall_args h (by decide))⟩
  named := show isNamed Hyperfiction.printNames "print".toList by decide
  noHead := noHead_of_not_mem (not_mem_printCall_args h (by decide))
  noSquare := ⟨not_mem_printCall_args h (by decide), not_mem_printCall_args h (by decide)⟩

end Doc

/-! ### Printing in two runs -/

/-- **A macro prints alike** in runs that agree on the variables it names. -/
theorem printMacro_related {I : Run → Run → Prop} {reads writes : Text → Prop}
    (hI : Framed I reads writes) (w : Setting) {m : Invocation}
    (h : ∀ x ∈ m.printNames, reads x) : Related I Eq (printMacro w m) (printMacro w m) :=
  (printMacro_made w h).related hI

/-- Printing binds no variables. -/
theorem printMacro_store (w : Setting) (m : Invocation) (r : Run) :
    ((printMacro w m).run r).2.store = r.store := by
  have hmade : Made w.words (fun _ => True) (fun _ => False) (printMacro w m) :=
    printMacro_made w fun _ _ => trivial
  exact hmade.store_eq r

end Hyperfiction

import Hyperfiction.Proofs.Eval.Steady
import Hyperfiction.Proofs.Markup.Pass
import Hyperfiction.Proofs.Table

/-!
# What a draft is made of

Every stage of a passage, at every depth of its hooks, only looks at variables, draws words and binds
variables, because a pass is made of whatever its items are made of (`Finder.pass_made`). `draft_made`
says so of a whole draft; what is true of every act that is made so, such as that it is steady, is then
true of compiling a passage. A passage that draws no words when it is compiled is therefore the same
wherever in the stream it is compiled (`Compiler.compile_steady`).
-/

namespace Hyperfiction

open Act

/-! ### Printing macros -/

namespace Invocation

/-- The text that a printing macro evaluates. -/
def printed (m : Invocation) : Text :=
  if isNamed ["print".toList] m.name then m.args else m.source

/-- The variables that a printing macro may depend on. -/
def printNames (m : Invocation) : List Text := ((Expr.ofText? m.printed).map Expr.names).getD []

end Invocation

theorem printMacro_eq_printText (w : Setting) (m : Invocation) :
    printMacro w m = printText w m.printed := by
  rw [printMacro, Invocation.printed]
  split <;> rfl

/-- **A printing macro is made** of looks at its variables and draws. -/
theorem printMacro_made {reads writes : Text → Prop} (w : Setting) {m : Invocation}
    (h : ∀ x ∈ m.printNames, reads x) : Made w.words reads writes (printMacro w m) := by
  rw [printMacro_eq_printText, printText]
  split
  · exact .pure _
  · cases hexpr : Expr.ofText? m.printed with
    | none => exact .pure _
    | some e =>
      have he : ∀ x ∈ e.names, reads x := fun x hx =>
        h x (by simpa [Invocation.printNames, hexpr] using hx)
      exact (Expr.evaluate_made w e he).bind fun v => .pure _

/-! ### Passes -/

variable {reads writes : Text → Prop}

/-- **A pass is made** of what it writes for its items. -/
theorem Finder.pass_made {α : Type} (F : Finder α) {words : Words} {f : α → Act Text}
    (hf : ∀ a, Made words reads writes (f a)) (limit : Nat) (t : Text) :
    Made words reads writes (F.pass f limit t) := by
  induction limit generalizing t with
  | zero =>
    rw [F.pass_zero]
    exact .pure t
  | succ limit ih =>
    cases hfind : F.find? t with
    | none =>
      rw [F.pass_of_eq_none f hfind]
      exact .pure t
    | some p =>
      obtain ⟨b, a, u⟩ := p
      rw [F.pass_of_eq_some f hfind]
      exact (hf a).bind fun x => (ih u).bind fun rest => .pure _

/-- **Prints of a text** read variables and draw words; whichever variables may be bound, they bind none. -/
theorem resolvePrints_made (w : Setting) (t : Text) :
    Made w.words (fun _ => True) writes (resolvePrints w t) := by
  rw [resolvePrints_eq_pass]
  exact Finder.pass_made _ (fun m => printMacro_made w fun _ _ => trivial) _ t

/-! ### The stages of a passage -/

section Stages

/-- Any variable may be read and written. -/
private abbrev MadeFreely (w : Setting) {α : Type} (x : Act α) : Prop :=
  Made w.words (fun _ => True) (fun _ => True) x

variable (w : Setting)

private theorem take_made {body : Text → Act Text} (hbody : ∀ t, MadeFreely w (body t))
    (bs : List Branch) : MadeFreely w (Chain.take w body bs) := by
  induction bs with
  | nil => exact .pure _
  | cons b bs ih =>
    have hholds : MadeFreely w (b.holds w) := by
      unfold Branch.holds
      split
      · exact Condition.textHolds_made w fun _ _ => trivial
      · exact .pure _
    refine hholds.bind fun holds => ?_
    cases holds with
    | true => exact hbody _
    | false => exact ih

/-- A conditional is resolved freely, if its bodies are. -/
private theorem resolve_made {body : Text → Act Text} (hbody : ∀ t, MadeFreely w (body t))
    (k : Conditional) : MadeFreely w (k.resolve w body) := by
  cases k with
  | chain c =>
    rw [Conditional.resolve_chain]
    exact take_made w hbody c.branches
  | guard g =>
    rw [Conditional.resolve]
    split
    · exact hbody _
    · exact .pure _
  | stray => exact .pure _

private theorem runSetsFrom_made (cs : List (Cut Invocation)) (depth : Nat) (tail : Text) :
    MadeFreely w (runSetsFrom w.words depth cs tail) := by
  induction cs generalizing depth with
  | nil => exact .pure _
  | cons c cs ih =>
    rw [runSetsFrom]
    split
    · exact (Assignment.runText_made w.words (fun _ _ => trivial) fun _ _ => trivial).bind
        fun _ => (ih _).bind fun rest => .pure _
    · exact (ih _).bind fun rest => .pure _

private theorem runSets_made (t : Text) : MadeFreely w (runSets w.words t) :=
  runSetsFrom_made w _ _ _

/-- A pass over conditionals is made freely, if bodies are. -/
private theorem reduceWith_made {body : Text → Act Text} (hbody : ∀ t, MadeFreely w (body t))
    (t : Text) : MadeFreely w (reduceWith w body t) := by
  rw [reduceWith_eq_pass]
  exact Finder.pass_made _ (resolve_made w hbody) _ t

/-- The bodies that are taken are made so at every depth. -/
private theorem reduceBody_made (room : Nat) (t : Text) : MadeFreely w (reduceBody w room t) := by
  induction room generalizing t with
  | zero => exact .pure _
  | succ room ih =>
    rw [reduceBody]
    exact (reduceWith_made w ih t).bind fun reduced =>
      (runSets_made w reduced).bind fun run => resolvePrints_made w run

private theorem settled_made (body : Text) : MadeFreely w (settled w body) :=
  (runSets_made w body).bind fun run =>
    (reduceWith_made w (reduceBody_made w _) run).bind fun _ => .pure _

private theorem written_made (t : Text) : MadeFreely w (written w t) := by
  refine (resolvePrints_made w _).bind fun printed => .look (fun r₁ r₂ hr => ?_) fun r => .pure _
  have hstore : r₁.store = r₂.store := Table.ext_get? fun x => hr x trivial
  rw [hstore]

/-- **A draft is made** of looks, draws and bindings, whatever its text is. -/
theorem draft_made (body : Text) :
    Made w.words (fun _ => True) (fun _ => True) (draft w body) :=
  (settled_made w body).bind fun t => (written_made w t).bind fun _ => .pure _

end Stages

/-- **A passage that draws nothing** when it is compiled is the same wherever in the stream of words it
is compiled. -/
theorem Compiler.compile_steady (c : Compiler) (w : Setting) (p : PassageRecord) (snapshot : Snapshot)
    {used : Nat} (h : (c.compile w p snapshot used).2 = used) (n : Nat) :
    c.compile w p snapshot n = ((c.compile w p snapshot used).1, n) := by
  have hdraft := (draft_made w p.body).steady.run_eq ⟨snapshot, used⟩ h n
  rw [compile, hdraft]
  rfl

end Hyperfiction

import Hyperfiction.Proofs.Assignment.Single
import Hyperfiction.Proofs.Eval.Related
import Hyperfiction.Proofs.Eval.Steady

/-!
# Calls that are assigned

The same call is evaluated where it is printed, and read by rules of its own where it is assigned: an
assignment looks at the arguments only, and sees literals and variables. An item of a list that is neither
is left out, and a bound of a draw that is neither counts as 0 (`Callee.taken`). What is assigned is the
value of the call with these arguments. So a call that is assigned has the value that is printed as long
as the assignment reads every argument for what it is (`Callee.Reads`), and for a list only then
(`Assignment.runText_call`).
-/

namespace Hyperfiction

/-! ### Arguments that assignments read -/

/-- Does an assignment read the expression as an item of a list? -/
def Expr.isItem : Expr → Bool
  | .number _ | .quoted _ | .boolean _ | .word _ | .var _ => true
  | _ => false

/-- Does an assignment read the expression as a bound of a draw? -/
def Expr.isBound : Expr → Bool
  | .number _ | .var _ => true
  | _ => false

/-- The arguments that an assignment takes for those of a call. -/
def Callee.taken : Callee → List Expr → List Expr
  | .random, args => args.map fun a => if a.isBound then a else .number 0
  | _, args => args.filter Expr.isItem

/-- In the run, what an assignment takes an argument for does what the argument does: it is read, or it
has no value and draws nothing; a bound that is not read has to be 0, without its fraction. -/
def Callee.Reads (w : Setting) (r : Run) : Callee → Expr → Prop
  | .random, a => a.isBound ∨ ∃ u n, (a.evaluate w).run r = (some u, r) ∧ u.toNumber? = some n ∧
      Number.toInt64 n = Number.toInt64 0
  | _, a => a.isItem ∨ (a.evaluate w).run r = (none, r)

namespace Expr

variable (w : Setting) (r : Run)

/-- An item is evaluated to what an assignment reads for it, and draws nothing. -/
theorem evaluate_of_isItem {a : Expr} (h : a.isItem) :
    (a.evaluate w).run r = (r.store.literal? a, r) := by
  cases a <;> first | exact absurd h Bool.false_ne_true | (rw [evaluate]; rfl)

/-- An assignment reads nothing for an argument that is no item. -/
theorem literal?_of_not_isItem {a : Expr} (h : ¬ a.isItem) (s : Snapshot) : s.literal? a = none := by
  cases a <;> first | rfl | exact absurd rfl h

theorem isItem_of_isBound {a : Expr} (h : a.isBound) : a.isItem := by
  cases a <;> first | rfl | cases h

/-- The number of a bound is that of its value, or 0. -/
theorem operand_of_isBound {a : Expr} (h : a.isBound) (s : Snapshot) :
    s.operand a = ((s.literal? a).bind Value.toNumber?).getD 0 := by
  cases a <;> first | rfl | cases h

/-- As an operand, an argument that is no bound counts as 0. -/
theorem operand_of_not_isBound {a : Expr} (h : ¬ a.isBound) (s : Snapshot) : s.operand a = 0 := by
  cases a <;> first | rfl | exact absurd rfl h

/-! ### Evaluation and its run -/

theorem evaluate_store (e : Expr) : ((e.evaluate w).run r).2.store = r.store :=
  (evaluate_made w e fun _ _ => trivial).store_eq r

theorem evaluateAll_store (es : List Expr) : ((evaluateAll w es).run r).2.store = r.store :=
  (evaluateAll_made w es fun _ _ => trivial).store_eq r

/-- Arguments without draws are evaluated without draws. -/
theorem evaluateAll_steady (es : List Expr) : Act.Steady (evaluateAll w es) :=
  (@evaluateAll_made (fun _ => True) (fun _ => False) w es fun _ _ => trivial).steady

variable {w r} in
/-- Without a draw the run is the same. -/
theorem evaluate_run_eq {e : Expr} (h : ((e.evaluate w).run r).2.used ≤ r.used) :
    ((e.evaluate w).run r).2 = r := by
  have hstore := evaluate_store w r e
  have hused := (@evaluate_made (fun _ => True) (fun _ => False) w e fun _ _ => trivial).steady.le_used r
  generalize ((e.evaluate w).run r).2 = after at *
  obtain ⟨store, used⟩ := after
  obtain rfl : store = r.store := hstore
  obtain rfl : used = r.used := Nat.le_antisymm h hused
  rfl

variable {w r} in
/-- A call of `(a:)` is evaluated to the list of the values of its arguments. -/
theorem evaluate_list {name : Text} (hname : Callee.ofName? name = some .list) (args : List Expr) :
    ((Expr.call name args).evaluate w).run r =
      (some (.list ((evaluateAll w args).run r).1), ((evaluateAll w args).run r).2) := by
  rw [evaluate, hname]
  rfl

theorem evaluateAll_cons (e : Expr) (es : List Expr) :
    (evaluateAll w (e :: es)).run r =
      (((e.evaluate w).run r).1.toList ++ ((evaluateAll w es).run ((e.evaluate w).run r).2).1,
        ((evaluateAll w es).run ((e.evaluate w).run r).2).2) := by
  rw [evaluateAll]
  rfl

end Expr

/-! ### Lists -/

namespace Callee

open Hyperfiction.Expr

variable {w : Setting} {r : Run}

/-- An assignment reads an argument of a list as evaluation does exactly when it finds the same value and draws
nothing. -/
theorem reads_list_iff {a : Expr} :
    list.Reads w r a ↔ (a.evaluate w).run r = (r.store.literal? a, r) := by
  by_cases h : a.isItem
  · exact ⟨fun _ => evaluate_of_isItem w r h, fun _ => .inl h⟩
  · rw [literal?_of_not_isItem h]
    exact ⟨fun hreads => hreads.resolve_left h, .inr⟩

private theorem filterMap_cons_eq {α β : Type} (f : α → Option β) (a : α) (as : List α) :
    (a :: as).filterMap f = (f a).toList ++ as.filterMap f := by
  rw [List.filterMap_cons]
  cases f a <;> rfl

/-- The items that an assignment takes of a list are evaluated to what it reads for them. -/
theorem evaluateAll_taken (w : Setting) (r : Run) (args : List Expr) :
    (evaluateAll w (list.taken args)).run r = (args.filterMap r.store.literal?, r) := by
  change (evaluateAll w (args.filter isItem)).run r = _
  induction args with
  | nil =>
    rw [List.filter_nil, evaluateAll]
    rfl
  | cons a args ih =>
    by_cases h : a.isItem
    · rw [List.filter_cons_of_pos h, evaluateAll_cons, evaluate_of_isItem w r h, ih,
        filterMap_cons_eq]
    · rw [List.filter_cons_of_neg h, List.filterMap_cons_none (literal?_of_not_isItem h _), ih]

/-- Every item that an assignment reads is among the values. -/
theorem length_filterMap_le (w : Setting) (r : Run) (args : List Expr) :
    (args.filterMap r.store.literal?).length ≤ ((evaluateAll w args).run r).1.length := by
  induction args generalizing r with
  | nil => exact Nat.zero_le _
  | cons a args ih =>
    have hmore := ih ((a.evaluate w).run r).2
    rw [evaluate_store] at hmore
    have hone : (r.store.literal? a).toList.length ≤ ((a.evaluate w).run r).1.toList.length := by
      by_cases h : a.isItem
      · rw [evaluate_of_isItem w r h]
      · rw [literal?_of_not_isItem h]
        exact Nat.zero_le _
    rw [evaluateAll_cons, filterMap_cons_eq, List.length_append, List.length_append]
    exact Nat.add_le_add hone hmore

/-- **A list has the items that an assignment reads**, and draws nothing, exactly when the assignment
reads every argument for what it is. -/
theorem evaluateAll_eq_iff {args : List Expr} :
    (evaluateAll w args).run r = (args.filterMap r.store.literal?, r) ↔
      ∀ a ∈ args, list.Reads w r a := by
  induction args with
  | nil =>
    rw [evaluateAll]
    exact ⟨fun _ _ ha => absurd ha List.not_mem_nil, fun _ => rfl⟩
  | cons a args ih =>
    rw [List.forall_mem_cons, ← ih, reads_list_iff, evaluateAll_cons, filterMap_cons_eq]
    constructor
    · intro h
      obtain ⟨hvalues, hafter⟩ := Prod.mk.inj h
      -- Draws are never taken back, so the first argument drew nothing if all of them did not.
      have hle := (evaluateAll_steady w args).le_used ((a.evaluate w).run r).2
      rw [hafter] at hle
      have hrun := evaluate_run_eq hle
      rw [hrun] at hvalues hafter
      -- The others have a value for each item that is read, so none is left for one that is not.
      have hshort := length_filterMap_le w r args
      have hvalue : ((a.evaluate w).run r).1 = r.store.literal? a := by
        by_cases hitem : a.isItem
        · rw [evaluate_of_isItem w r hitem]
        · rw [literal?_of_not_isItem hitem] at hvalues ⊢
          have hlength := congrArg List.length hvalues
          rw [List.length_append, Option.toList_none, List.nil_append] at hlength
          exact Option.toList_eq_nil_iff.mp (List.length_eq_zero_iff.mp (by omega))
      rw [hvalue] at hvalues
      exact ⟨Prod.ext hvalue hrun, Prod.ext (List.append_cancel_left hvalues) hafter⟩
    · rintro ⟨ha, hargs⟩
      rw [ha, hargs]

end Callee

/-! ### Draws -/

/-- Draws the number of an integer between two bounds. -/
def Act.drawNumber (words : Words) (a b : Int64) : Act (Option Value) := do
  let n ← drawBetween words a b
  return some (.number (Float.ofInt n.toInt))

theorem Act.drawNumber_run (words : Words) (a b : Int64) (r : Run) :
    (drawNumber words a b).run r =
      (some (.number (Float.ofInt (Draw.between words a b r.used).result.toInt)),
        { r with used := (Draw.between words a b r.used).used }) := rfl

namespace Expr

variable {w : Setting} {r : Run}

theorem evaluate_random {name : Text} (hname : Callee.ofName? name = some .random) (args : List Expr) :
    (Expr.call name args).evaluate w = evaluateRandom w args := by
  rw [evaluate, hname]

theorem numeric_run (w : Setting) (r : Run) (e : Expr) :
    (e.numeric w).run r =
      (((e.evaluate w).run r).1.bind Value.toNumber?, ((e.evaluate w).run r).2) := rfl

/-- A call of `(random:)` evaluates both bounds in order, and draws between them. -/
theorem evaluateRandom_pair (lo hi : Expr) :
    evaluateRandom w [lo, hi] = (do
      match ← lo.numeric w with
      | none => pure none
      | some x =>
        match ← hi.numeric w with
        | none => pure none
        | some y => Act.drawNumber w.words (Number.toInt64 x) (Number.toInt64 y)) := by
  rw [evaluateRandom]
  rfl

/-- Two operands that are numbers are the bounds of a draw. -/
theorem evaluateRandom_eq_some_iff {args : List Expr} {v : Value} {after : Run} :
    (evaluateRandom w args).run r = (some v, after) ↔
      ∃ lo hi x y r₁ r₂, args = [lo, hi] ∧ (lo.numeric w).run r = (some x, r₁) ∧
        (hi.numeric w).run r₁ = (some y, r₂) ∧
        (Act.drawNumber w.words (Number.toInt64 x) (Number.toInt64 y)).run r₂ = (some v, after) := by
  constructor
  · intro h
    match args with
    | [lo, hi] =>
      rw [evaluateRandom_pair, StateT.run_bind] at h
      cases hlo : (lo.numeric w).run r with
      | mk lower r₁ =>
        rw [hlo] at h
        cases lower with
        | none => cases (Prod.mk.inj h).1
        | some x =>
          change (hi.numeric w >>= _).run r₁ = _ at h
          rw [StateT.run_bind] at h
          cases hhi : (hi.numeric w).run r₁ with
          | mk upper r₂ =>
            rw [hhi] at h
            cases upper with
            | none => cases (Prod.mk.inj h).1
            | some y => exact ⟨lo, hi, x, y, r₁, r₂, rfl, hlo, hhi, h⟩
    | [] | [_] | _ :: _ :: _ :: _ =>
      simp only [evaluateRandom] at h
      cases (Prod.mk.inj h).1
  · rintro ⟨lo, hi, x, y, r₁, r₂, rfl, hlo, hhi, hdraw⟩
    rw [evaluateRandom_pair, StateT.run_bind, hlo]
    change ((hi.numeric w >>= _).run r₁) = _
    rw [StateT.run_bind, hhi]
    exact hdraw

/-- A bound that an assignment takes is a number wherever the bound itself is one. -/
theorem numeric_taken {a : Expr} {x : Float} {r' after : Run} (hstore : r'.store = r.store)
    (h : (a.numeric w).run r' = (some x, after)) :
    ((if a.isBound then a else .number 0).numeric w).run r = (some (r.store.operand a), r) := by
  by_cases hbound : a.isBound
  · have hitem := isItem_of_isBound hbound
    rw [numeric_run, evaluate_of_isItem w r' hitem, hstore] at h
    rw [if_pos hbound, numeric_run, evaluate_of_isItem w r hitem, operand_of_isBound hbound,
      (Prod.mk.inj h).1, Option.getD_some]
  · rw [if_neg hbound, numeric_run, evaluate, operand_of_not_isBound hbound]
    rfl

/-- A bound that an assignment reads is the bound itself. -/
theorem bound_of_reads {a : Expr} {x : Float} {after : Run} (hreads : Callee.random.Reads w r a)
    (h : (a.numeric w).run r = (some x, after)) :
    after = r ∧ Number.toInt64 x = Number.toInt64 (r.store.operand a) := by
  rw [numeric_run] at h
  obtain ⟨hvalue, hafter⟩ := Prod.mk.inj h
  by_cases hbound : a.isBound
  · rw [evaluate_of_isItem w r (isItem_of_isBound hbound)] at hvalue hafter
    rw [operand_of_isBound hbound, hvalue, Option.getD_some]
    exact ⟨hafter.symm, rfl⟩
  · obtain ⟨u, n, hrun, hn, hzero⟩ := hreads.resolve_left hbound
    rw [hrun] at hvalue hafter
    rw [operand_of_not_isBound hbound, ← hzero]
    exact ⟨hafter.symm, by rw [Option.some.inj (hn.symm.trans hvalue)]⟩

end Expr

/-! ### Assignments of calls -/

namespace Assignment

/-- Running `$x to t` binds the variable to the value in the run behind. -/
def Assigns (w : Setting) (x t : Text) (r : Run) (v : Value) (after : Run) : Prop :=
  ((runText w.words ('$' :: x ++ " to ".toList ++ t)).run r).2 =
    { after with store := after.store.insert x v }

/-- An assignment draws between what it reads for the bounds. -/
theorem value?_random (words : Words) (x : Text) (lo hi : Expr) (r : Run) :
    (value? words x (.random lo hi)).run r = (Act.drawNumber words
      (Number.toInt64 (r.store.operand lo)) (Number.toInt64 (r.store.operand hi))).run r := by
  rw [value?, StateT.run_bind, StateT.run_get, Act.drawNumber]
  rfl

section Call

variable {w : Setting} {r after : Run} {x t : Text} {e : Expr} {v : Value}
  (hx : x.IsVariable) (he : Expr.ofText? t = some e)
include hx he

theorem assigns_of_value {right : RightSide} (hright : RightSide.ofExpr? e = some right)
    (hvalue : (value? w.words x right).run r = (some v, after)) : Assigns w x t r v after := by
  have hrun : (run w.words ⟨x, right⟩).run r = (Act.bindTo x v).run after := by
    rw [run, StateT.run_bind, hvalue]
    rfl
  rw [Assigns, runText, ofText_single hx he hright, runAll, StateT.run_bind, hrun]
  rfl

omit hx he in
/-- What is assigned is one value. -/
theorem eq_of_assigns {u : Value} {after' : Run} (h : Assigns w x t r v after)
    (h' : Assigns w x t r u after') (hstore : after.store = after'.store) : v = u ∧ after = after' := by
  have hsame := h.symm.trans h'
  rw [hstore] at hsame
  obtain ⟨hinsert, hused⟩ := Run.mk.inj hsame
  refine ⟨?_, ?_⟩
  · have hget := congrArg (Table.get? · x) hinsert
    simp only [Table.get?_insert, if_true] at hget
    exact Option.some.inj hget
  · obtain ⟨store, used⟩ := after
    obtain rfl : store = after'.store := hstore
    obtain rfl : used = after'.used := hused
    rfl

end Call

variable {w : Setting} {r after : Run} {x t name : Text} {args : List Expr} {c : Callee} {v : Value}

section List

variable (hx : x.IsVariable) (ht : Expr.ofText? t = some (.call name args))
  (hname : Callee.ofName? name = some .list)
include hx ht hname

theorem assigns_list : Assigns w x t r (.list (args.filterMap r.store.literal?)) r := by
  have hright : RightSide.ofExpr? (.call name args) = some (.list args) := by
    simp only [RightSide.ofExpr?, hname]
  exact assigns_of_value hx ht hright rfl

/-- A list that is assigned is the list that is evaluated where every argument is read. -/
theorem assigns_list_iff (hv : ((Expr.call name args).evaluate w).run r = (some v, after)) :
    Assigns w x t r v after ↔ ∀ a ∈ args, Callee.list.Reads w r a := by
  rw [Expr.evaluate_list hname] at hv
  obtain ⟨hvalue, hafter⟩ := Prod.mk.inj hv
  have hassigns := @assigns_list w r x t name args hx ht hname
  constructor
  · intro h
    have hstore : after.store = r.store := by rw [← hafter, Expr.evaluateAll_store]
    obtain ⟨hlist, hrun⟩ := eq_of_assigns h hassigns hstore
    refine Callee.evaluateAll_eq_iff.mp (Prod.ext ?_ (hafter.trans hrun))
    exact Value.list.inj ((Option.some.inj hvalue).trans hlist)
  · intro hreads
    rw [Callee.evaluateAll_eq_iff.mpr hreads] at hvalue hafter
    rwa [← Option.some.inj hvalue, ← hafter]

end List

section Random

variable (hx : x.IsVariable) (ht : Expr.ofText? t = some (.call name args))
  (hname : Callee.ofName? name = some .random)
  (hv : ((Expr.call name args).evaluate w).run r = (some v, after))
include hx ht hname hv

theorem assigns_random :
    (∃ u after', ((Expr.call name (Callee.random.taken args)).evaluate w).run r = (some u, after') ∧
      Assigns w x t r u after') ∧
    ((∀ a ∈ args, Callee.random.Reads w r a) → Assigns w x t r v after) := by
  rw [Expr.evaluate_random hname] at hv ⊢
  obtain ⟨lo, hi, y, z, r₁, r₂, rfl, hlo, hhi, hdraw⟩ := Expr.evaluateRandom_eq_some_iff.mp hv
  have hright : RightSide.ofExpr? (.call name [lo, hi]) = some (.random lo hi) := by
    simp only [RightSide.ofExpr?, hname]
  have hdrawn := Act.drawNumber_run w.words (Number.toInt64 (r.store.operand lo))
    (Number.toInt64 (r.store.operand hi)) r
  have hassigns := assigns_of_value hx ht hright ((value?_random _ x lo hi r).trans hdrawn)
  refine ⟨⟨_, _, ?_, hassigns⟩, fun hreads => ?_⟩
  · have hstore : r₁.store = r.store := by
      rw [← Expr.evaluate_store w r lo, ← (Prod.mk.inj hlo).2]
      rfl
    exact Expr.evaluateRandom_eq_some_iff.mpr ⟨_, _, _, _, r, r, rfl, Expr.numeric_taken rfl hlo,
      Expr.numeric_taken hstore hhi, hdrawn⟩
  · obtain ⟨rfl, hlower⟩ := Expr.bound_of_reads (hreads lo List.mem_cons_self) hlo
    obtain ⟨rfl, hupper⟩ := Expr.bound_of_reads (hreads hi (by simp)) hhi
    rw [hlower, hupper, hdrawn] at hdraw
    obtain ⟨hvalue, rfl⟩ := Prod.mk.inj hdraw
    rwa [← Option.some.inj hvalue]

end Random

/-- **A call that is assigned** has the value of the call with the arguments that the assignment takes for
its own, and the random words of that call are drawn. That is the value of the call as it stands, with its
draws, exactly when both calls evaluate alike; they do if the assignment reads every argument for what it
is, and for a list only then. -/
theorem runText_call (hx : x.IsVariable) (ht : Expr.ofText? t = some (.call name args))
    (hname : Callee.ofName? name = some c) (hc : c = .list ∨ c = .random)
    (hv : ((Expr.call name args).evaluate w).run r = (some v, after)) :
    (∃ u after', ((Expr.call name (c.taken args)).evaluate w).run r = (some u, after') ∧
      Assigns w x t r u after') ∧
    (Assigns w x t r v after ↔
      ((Expr.call name (c.taken args)).evaluate w).run r = (some v, after)) ∧
    ((∀ a ∈ args, c.Reads w r a) → Assigns w x t r v after) ∧
    (c = .list → Assigns w x t r v after → ∀ a ∈ args, c.Reads w r a) := by
  have hall : (∃ u after', ((Expr.call name (c.taken args)).evaluate w).run r = (some u, after') ∧
      Assigns w x t r u after') ∧
      ((∀ a ∈ args, c.Reads w r a) → Assigns w x t r v after) := by
    rcases hc with rfl | rfl
    · refine ⟨⟨_, r, ?_, assigns_list hx ht hname⟩, (assigns_list_iff hx ht hname hv).mpr⟩
      rw [Expr.evaluate_list hname, Callee.evaluateAll_taken]
    · exact assigns_random hx ht hname hv
  obtain ⟨⟨u, after', htaken, hassigns⟩, hreads⟩ := hall
  have hstore : after.store = after'.store := by
    have h := Expr.evaluate_store w r (.call name args)
    have h' := Expr.evaluate_store w r (.call name (c.taken args))
    rw [hv] at h
    rw [htaken] at h'
    exact h.trans h'.symm
  refine ⟨⟨u, after', htaken, hassigns⟩, ⟨fun h => ?_, fun h => ?_⟩, hreads, ?_⟩
  · obtain ⟨rfl, rfl⟩ := eq_of_assigns h hassigns hstore
    exact htaken
  · obtain ⟨hu, rfl⟩ := Prod.mk.inj (htaken.symm.trans h)
    rwa [← Option.some.inj hu]
  · rintro rfl
    exact (assigns_list_iff hx ht hname hv).mp

private theorem readBehind_a (touches : Bool) (u : Text) :
    Token.readBehind touches ('(' :: 'a' :: ':' :: u) =
      ⟨[], .leftParen, ['(']⟩ :: ⟨[], .word ['a'], ['a']⟩ :: ⟨[], .colon, [':']⟩ ::
        Token.readBehind false u :=
  Token.readBehind_call (show Text.IsWord ['a'] by decide +kernel) touches u

private theorem ofText?_variable :
    Expr.ofText? "(a: $y)".toList = some (.call "a".toList [.var "y".toList]) := by
  have hvar := Token.readBehind_variable (Token.isSeparator_paren.ends [])
    (show Text.IsVariable ['y'] by decide +kernel) false
  have hread : Token.readBehind false ('(' :: 'a' :: ':' :: ' ' :: '$' :: (['y'] ++ [')'])) =
      [⟨[], .leftParen, ['(']⟩, ⟨[], .word ['a'], ['a']⟩, ⟨[], .colon, [':']⟩,
        ⟨[' '], .var ['y'], ['$', 'y']⟩, ⟨[], .rightParen, [')']⟩] := by
    rw [readBehind_a, Token.readBehind_blank (by decide), Token.read, hvar,
      Token.readBehind_separator Token.isSeparator_paren, Token.readBehind_nil]
    rfl
  refine (congrArg Expr.ofTokens? hread).trans ?_
  simp [Expr.ofTokens?, Expr.whole, Expr.sumAt, Expr.joined, Expr.signed, Expr.primary, Expr.joinMore,
    Token.closing?, Expr.group?, Expr.call?, Expr.arguments, Expr.queryNames]

theorem runText_call_variable :
    let w : Setting := ⟨[], Table.empty, fun _ => 0, {}⟩
    let r : Run := ⟨Table.empty.insert "y".toList (.boolean true), 0⟩
    ((Expr.call "a".toList [.var "y".toList]).evaluate w).run r = (some (.list [.boolean true]), r) ∧
      Assigns w "x".toList "(a: $y)".toList r (.list [.boolean true]) r := by
  intro w r
  have hlist : Callee.ofName? "a".toList = some .list := rfl
  have hv : ((Expr.call "a".toList [.var "y".toList]).evaluate w).run r =
      (some (.list [.boolean true]), r) := by
    rw [Expr.evaluate_list hlist, Expr.evaluateAll_cons, Expr.evaluate, Expr.evaluateAll]
    rfl
  have hx : Text.IsVariable "x".toList := by decide +kernel
  exact ⟨hv, (runText_call hx ofText?_variable hlist (.inl rfl) hv).2.2.1
    (List.forall_mem_singleton.mpr (.inl rfl))⟩

private theorem ofText?_nested :
    Expr.ofText? "(a: (a:))".toList = some (.call "a".toList [.call "a".toList []]) := by
  have hread : Token.readBehind false ('(' :: 'a' :: ':' :: ' ' :: '(' :: 'a' :: ':' :: ')' :: [')']) =
      [⟨[], .leftParen, ['(']⟩, ⟨[], .word ['a'], ['a']⟩, ⟨[], .colon, [':']⟩,
        ⟨[' '], .leftParen, ['(']⟩, ⟨[], .word ['a'], ['a']⟩, ⟨[], .colon, [':']⟩,
        ⟨[], .rightParen, [')']⟩, ⟨[], .rightParen, [')']⟩] := by
    rw [readBehind_a, Token.readBehind_blank (by decide), Token.read, readBehind_a,
      Token.readBehind_separator Token.isSeparator_paren, Token.readBehind_separator Token.isSeparator_paren,
      Token.readBehind_nil]
    rfl
  refine (congrArg Expr.ofTokens? hread).trans ?_
  simp [Expr.ofTokens?, Expr.whole, Expr.sumAt, Expr.joined, Expr.signed, Expr.primary, Expr.joinMore,
    Token.closing?, Expr.group?, Expr.call?, Expr.arguments, Expr.queryNames]

/-- A list in a list has a value where it is printed, and is left out where it is assigned. -/
theorem assigned_nested_list :
    let w : Setting := ⟨[], Table.empty, fun _ => 0, {}⟩
    let r : Run := ⟨Table.empty, 0⟩
    Expr.ofText? "(a: (a:))".toList = some (.call "a".toList [.call "a".toList []]) ∧
      ((Expr.call "a".toList [.call "a".toList []]).evaluate w).run r = (some (.list [.list []]), r) ∧
      ((runText w.words "$x to (a: (a:))".toList).run r).2.store.get? "x".toList = some (.list []) ∧
      Value.list [] ≠ .list [.list []] := by
  intro w r
  have hlist : Callee.ofName? "a".toList = some .list := rfl
  have hx : Text.IsVariable "x".toList := by decide +kernel
  have hassigns : Assigns w "x".toList "(a: (a:))".toList r (.list []) r :=
    assigns_list hx ofText?_nested hlist
  refine ⟨ofText?_nested, ?_, ?_, nofun⟩
  · rw [Expr.evaluate_list hlist, Expr.evaluateAll_cons, Expr.evaluate_list hlist, Expr.evaluateAll]
    rfl
  · have hget := congrArg (fun after : Run => after.store.get? "x".toList) hassigns
    simp only [Table.get?_insert, if_true] at hget
    exact hget

end Assignment

end Hyperfiction

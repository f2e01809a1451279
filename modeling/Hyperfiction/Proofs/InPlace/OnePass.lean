import Hyperfiction.Proofs.InPlace.Counted

/-!
# One pass over the heads of a text

The pass over chains and guards rewrites one buffer, in which what it has written stands before what it has
still to read. In spite of that it is a recursion on the text (`Counted.onePass`): the first head is handled
with the text before it, and the pass goes on with the text behind, of which every position counts anew.
What a head becomes is not looked at again, the present depth is the same for all heads, and a head that
begins neither chain nor guard costs one bracket. Under a cap as many heads are handled and the text behind
them is left; no text has more heads than brackets, so a cap of that many is never reached.
-/

namespace Hyperfiction

open CountedAct

namespace Counted

/-! ### Heads handled in the text -/

/-- The first head of a text handled: what is written for the text up to its end, and the text behind. A
chain or guard is written as what it becomes at the present depth; of any other head the bracket is
passed. -/
def handleFirst (w : Setting) (t : Text) : CountedAct (Option (Text × Text)) := do
  let depth ← get
  match ← InPlace.findHead? t 0 Conditional.names with
  | none => return none
  | some start =>
    match ← resolve? w (reduceBody w pure depth) t start with
    | some (span, written) => return some ((← t.slice 0 start) ++ written, ← t.suffixFrom span.stop)
    | none => return some (← t.slice 0 (start + 1), ← t.suffixFrom (start + 1))

/-- The first `n` heads of a text handled, from left to right: what is written for the text up to the end of
the last, and the text that is left behind it. -/
def handle (w : Setting) : Nat → Text → CountedAct (Text × Text)
  | 0, t => return ([], t)
  | n + 1, t => do
    match ← handleFirst w t with
    | none => return (t, [])
    | some (written, behind) =>
      let (more, left) ← handle w n behind
      return (written ++ more, left)

variable {w : Setting} {depth : Nat} {t before behind : Text} {k : Conditional}

/-- Nothing is handled where nothing is found. -/
theorem handleFirst_of_none (h : Conditional.find? t = none) : handleFirst w t = pure none := by
  have hfind : InPlace.findHead? t 0 Conditional.names = .ok none :=
    InPlace.findHead?_of_find?_eq_none h []
  rw [handleFirst, hfind]
  rfl

/-- The first head is handled as in the pass. -/
theorem handleFirst_staysAt (h : Conditional.find? t = some (before, k, behind)) :
    StaysAt depth (handleFirst w t) ((fun written => some (before ++ written, behind)) <$>
      Act.sure (k.resolve w (Hyperfiction.reduceBody w (w.limits.maxDepth - depth)))) := by
  have ht := Conditional.eq_append_of_find? h
  have hfind : InPlace.findHead? t 0 Conditional.names = .ok (some (Text.width before)) :=
    (InPlace.findHead?_of_find?_eq_some h []).1
  have hbody : ∀ b ∈ k.bodies, StaysAt depth (reduceBody w pure depth b)
      (Act.sure (Hyperfiction.reduceBody w (w.limits.maxDepth - depth) b)) :=
    fun b _ => reduceBody_staysAt (.inl rfl) (le_refl depth)
  rw [handleFirst]
  refine StaysAt.get ?_
  rw [hfind, CountedAct.lift_ok_bind]
  by_cases hk : k = .stray
  · subst hk
    have hstray : resolve? w (reduceBody w pure depth) t (Text.width before) = pure none :=
      resolve?_of_stray h []
    -- The bracket is written with the text before it.
    have hpassed : t = (before ++ ['(']) ++ behind := by rw [ht, List.append_assoc, Conditional.source]
    have hstart : Text.width before + 1 = Text.width (before ++ ['(']) := by
      rw [Text.width_append]
      rfl
    have hslice := Text.slice_zero_append (before ++ ['(']) behind
    have hsuffix := Text.suffixFrom_append (before ++ ['(']) behind
    rw [← hpassed, ← hstart] at hslice hsuffix
    simp only [hstray, pure_bind, hslice, hsuffix, CountedAct.lift_ok_bind]
    exact .pure _
  · have hresolve := resolve?_staysAt (w := w) hk h hbody []
    have hsplit : t = (before ++ k.source) ++ behind := by rw [ht, List.append_assoc]
    have hslice := Text.slice_zero_append before (k.source ++ behind)
    have hsuffix := Text.suffixFrom_append (before ++ k.source) behind
    rw [← ht] at hslice
    rw [← hsplit, Text.width_append] at hsuffix
    rw [← bind_pure_comp]
    refine hresolve.bind fun written => ?_
    simp only [List.nil_append, hslice, hsuffix, CountedAct.lift_ok_bind]
    exact .pure _

/-- The heads that are handled are those of the pass. -/
theorem handle_staysAt (n : Nat) (t : Text) :
    StaysAt depth (do
        let (written, left) ← handle w n t
        return written ++ left)
      (Act.sure (Conditional.finder.pass
        (Conditional.resolve w (Hyperfiction.reduceBody w (w.limits.maxDepth - depth))) n t)) := by
  induction n generalizing t with
  | zero =>
    rw [Finder.pass_zero]
    exact .pure t
  | succ n ih =>
    cases hfind : Conditional.find? t with
    | none =>
      rw [handle, handleFirst_of_none hfind, Finder.pass_of_eq_none _ _ hfind, pure_bind, pure_bind]
      simp only [List.append_nil]
      exact .pure t
    | some p =>
      obtain ⟨before, k, behind⟩ := p
      rw [handle, bind_assoc, Finder.pass_of_eq_some _ _ hfind, ← Act.sure_bind]
      refine (handleFirst_staysAt hfind).bind fun written => ?_
      have hmore := (ih behind).map fun rest => before ++ written ++ rest
      simp only [bind_assoc, pure_bind, List.append_assoc] at hmore ⊢
      exact hmore

/-! ### The pass as a recursion -/

/-- The pass goes over the heads of the text once, whatever it writes. -/
structure OnePass (w : Setting) (t : Text) : Prop where
  /-- No range is refused, and the depth in the end is that of the start, whichever it is. -/
  depth : ∀ depth, StaysAt depth (reduceChains w pure t) (Act.sure (reduceAt w depth t))
  /-- Outside all bodies this is the pass of a passage. -/
  outside : StaysAt 0 (reduceChains w pure t) (Act.sure (Hyperfiction.reduceChains w t))
  /-- A cap of as many heads as there are brackets is never reached, in the text or in a body: nothing
  depends on what is done there. -/
  unreached : t.count '(' ≤ w.limits.maxReductions →
    ∀ capped, reduceChains w capped t = reduceChains w pure t
  /-- Under such a cap the first head is handled, and the pass over the text behind it follows. -/
  first : t.count '(' ≤ w.limits.maxReductions →
    reduceChains w pure t = (do
      match ← handleFirst w t with
      | none => return t
      | some (written, behind) => return written ++ (← reduceChains w pure behind))
  /-- Under any cap as many heads are handled, and the text that is left stands behind them. -/
  heads : reduceChains w pure t = (do
    let (written, left) ← handle w w.limits.maxReductions t
    return written ++ left)

/-- The first conditional leaves the depth as it was. -/
private theorem first_staysAt (h : t.count '(' ≤ w.limits.maxReductions) :
    StaysAt depth (do
        match ← handleFirst w t with
        | none => return t
        | some (written, behind) => return written ++ (← reduceChains w pure behind))
      (Act.sure (reduceAt w depth t)) := by
  rw [reduceAt, reduceWith_eq_pass]
  cases hfind : Conditional.find? t with
  | none =>
    rw [handleFirst_of_none hfind, Finder.pass_of_eq_none _ _ hfind]
    exact .pure t
  | some p =>
    obtain ⟨before, k, behind⟩ := p
    -- One head is counted for the first, and the text behind it has enough of the others.
    have hlt := count_lt_of_find? hfind
    obtain ⟨limit, hlimit⟩ : ∃ limit, w.limits.maxReductions = limit + 1 :=
      Nat.exists_eq_add_one.mpr (by omega)
    rw [hlimit, Finder.pass_of_eq_some _ _ hfind, ← Act.sure_bind]
    refine (handleFirst_staysAt hfind).bind fun written => ?_
    have hbehind := reduceChains_pure_staysAt w behind depth
    rw [reduceAt, reduceWith_eq_pass, hlimit,
      Conditional.finder.pass_succ _ count_lt_of_find? (by omega)] at hbehind
    exact hbehind.map fun rest => before ++ written ++ rest

/-- **Chains and guards are resolved in one pass over the text**, at the depth at which it begins. With
enough heads to the cap, what is written is the text before the first head, what that becomes, and the same
for the text behind it; with fewer, as many heads are handled so and the rest is left. -/
theorem onePass (w : Setting) (t : Text) : OnePass w t where
  depth := reduceChains_pure_staysAt w t
  outside := reduceChains_zero_staysAt w t
  unreached h _ := eq_of_staysAt (reduceChains_staysAt w (.inr h)) (reduceChains_pure_staysAt w t)
  first h := eq_of_staysAt (reduceChains_pure_staysAt w t) fun _ => first_staysAt h
  heads := eq_of_staysAt (reduceChains_pure_staysAt w t) fun _ =>
    handle_staysAt w.limits.maxReductions t

/-- Two chains need a cap of two heads, and under a cap of one the second is left. -/
theorem onePass_two_chains :
    let w (cap : Nat) : Setting := ⟨[], Table.empty, fun _ => 0, { maxReductions := cap }⟩
    let t : Text := "(if: true)[a](if: true)[b]".toList
    t.count '(' ≤ (w 2).limits.maxReductions ∧
      (∀ capped, reduceChains (w 2) capped t = reduceChains (w 2) pure t) ∧
      StaysAt 0 (reduceChains (w 1) pure t) (Act.sure (reduceAt (w 1) 0 t)) ∧
      ((reduceAt (w 1) 0 t).run ⟨Table.empty, 0⟩).1 = "a(if: true)[b]".toList := by
  intro w t
  have hcount : t.count '(' ≤ (w 2).limits.maxReductions := by decide
  have hleft : ((reduceAt (w 1) 0 t).run ⟨Table.empty, 0⟩).1 = "a(if: true)[b]".toList := by
    decide +kernel
  exact ⟨hcount, (onePass (w 2) t).unreached hcount, (onePass (w 1) t).depth 0, hleft⟩

end Counted

end Hyperfiction

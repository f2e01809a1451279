import Hyperfiction.Proofs.InPlace.Assignments
import Hyperfiction.Proofs.InPlace.Chains
import Hyperfiction.Proofs.InPlace.Loops
import Hyperfiction.Proofs.Render.Unchosen
import Hyperfiction.Render.Chain

/-!
# Chains and guards resolved in a buffer

A conditional found in a buffer is two or more spans: its own and those of its hooks. The body that is
taken is cut out between the brackets of its hook, and is the one that is chosen in the text
(`InPlace.taken?_append`); what becomes of it is written over the span of the whole. The loop that does
this is an `InPlace.rewrite`, and each of its steps is one of `Conditional.resolve`
(`InPlace.rewrites_conditionals`).
-/

namespace Hyperfiction

namespace InPlace

/-! ### Guards -/

/-- A guard found in a buffer: its span, what it asks, and where its hook is. -/
structure GuardAt where
  span : Span
  query : Query
  hook : Span

/-- Where a guard is that begins at a position. -/
def GuardAt.of (start : Nat) (g : Guard) : GuardAt :=
  ⟨⟨start, start + Text.width g.source⟩, g.query, g.hookSpan start⟩

/-- The query that the argument of a guard asks. -/
def queryOf (t : Text) : Guarded (Option Query) := do visitedQuery t (← tokens t)

/-- The guard at a position. -/
def guard? (t : Text) (start : Nat) : Guarded (Option GuardAt) := do
  match ← macro? t start with
  | none => return none
  | some found =>
    if Invocation.isNamed guardNames found.item.name then
      match ← queryOf found.item.args with
      | none => return none
      | some query =>
        match ← attached? t found.span.stop with
        | none => return none
        | some hook => return some ⟨⟨start, hook.stop⟩, query, hook⟩
    else return none

theorem queryOf_eq (t : Text) : queryOf t = .ok (Query.ofText? t) := by
  rw [queryOf, tokens_eq]
  exact visitedQuery_eq (reads_tokens t)

/-- A guard is read in place as in the rest of the text. -/
theorem guard?_append (s u : Text) :
    guard? (s ++ u) (Text.width s) =
      .ok ((Guard.read? u).map fun p => GuardAt.of (Text.width s) p.1) := by
  rw [guard?, macro?_append, Guarded.ok_bind, Guard.read?]
  cases hread : Invocation.read? u with
  | none => rfl
  | some p =>
    obtain ⟨m, v⟩ := p
    simp only [Option.map_some]
    split
    · rw [queryOf_eq, Guarded.ok_bind]
      cases Query.ofText? m.args with
      | none => rfl
      | some q =>
        have hhook := attached?_append (s ++ m.source) v
        rw [List.append_assoc, ← Invocation.eq_append_of_read? hread, Text.width_append] at hhook
        simp only [hhook, Guarded.ok_bind]
        cases Hook.attached? v with
        | none => rfl
        | some p =>
          simp only [Option.map_some, GuardAt.of, Guard.source, Guard.hookSpan, Text.width_append,
            Nat.add_assoc]
          rfl
    · rfl

/-- The guard at a position is read with its span. -/
theorem guard?_eq (t : Text) (start : Nat) :
    guard? t start =
      .ok ((Position.guard? t start).map fun found => GuardAt.of found.span.start found.item) := by
  rcases boundary_cases t start with h | ⟨s, u, rfl, rfl⟩
  · rw [guard?, macro?_eq, Position.macro?, Position.guard?, h]
    rfl
  · rw [guard?_append, Position.guard?_append, Option.map_map]
    rfl

/-! ### Bodies -/

/-- The body of a hook is granted. -/
theorem hookBody_append (s : Text) (k : Hook) (r : Text) :
    hookBody (s ++ (k.source ++ r))
        ⟨Text.width s + Text.width k.gap, Text.width s + Text.width k.source⟩ = .ok k.body := by
  have hbody := Text.slice_append (s ++ k.gap ++ ['[']) k.body (']' :: r)
  have htext : s ++ k.gap ++ ['['] ++ (k.body ++ ']' :: r) = s ++ (k.source ++ r) := by
    rw [Hook.source]
    simp only [List.append_assoc, List.cons_append, List.nil_append]
  have hstart : Text.width (s ++ k.gap ++ ['[']) = Text.width s + Text.width k.gap + 1 := by
    rw [Text.width_append, Text.width_append]
    rfl
  have hsource := k.width_source
  have hstop : Text.width s + Text.width k.source - 1 =
      Text.width s + Text.width k.gap + 1 + Text.width k.body := by
    omega
  rw [htext, hstart] at hbody
  rw [hookBody, Guarded.minus_eq_ok (by simp only; omega), Guarded.ok_bind, hstop]
  exact hbody

/-! ### Chains -/

/-- Does the branch hold? One without condition does. -/
def branchHolds (w : Setting) (b : BranchAt) : GuardedAct Bool :=
  match b.condition with
  | some t => do Act.sure (Condition.holds w (← conditionOf t))
  | none => pure true

/-- The place of the first branch that holds. -/
def select (w : Setting) : List BranchAt → GuardedAct (Option Nat)
  | [] => pure none
  | b :: bs => do
    if ← branchHolds w b then return some 0
    return (← select w bs).map (· + 1)

/-- The body of a branch, resolved. -/
def branchBody (body : Text → GuardedAct Text) (t : Text) (bs : List BranchAt) (i : Nat) :
    GuardedAct Text := do
  let b ← Guarded.item bs i
  body (← hookBody t b.hook)

/-- What a chain becomes, where `body` resolves the body that is taken. -/
def resolveChain (w : Setting) (body : Text → GuardedAct Text) (t : Text) (bs : List BranchAt) :
    GuardedAct Text := do
  match ← select w bs with
  | some i => branchBody body t bs i
  | none => return []

/-- What a guard becomes, where `body` resolves its body if that is taken. -/
def resolveGuard (w : Setting) (body : Text → GuardedAct Text) (t : Text) (g : GuardAt) :
    GuardedAct Text :=
  if g.query.holds w then do body (← hookBody t g.hook) else pure []

/-- The body of the branch that a chain takes, if it takes one. -/
def takenOfChain (w : Setting) (t : Text) (bs : List BranchAt) : GuardedAct (Option Text) := do
  match ← select w bs with
  | some i => do
    let b ← Guarded.item bs i
    return some (← hookBody t b.hook)
  | none => return none

/-- The body of a guard, if it takes that. -/
def takenOfGuard (w : Setting) (t : Text) (g : GuardAt) : GuardedAct (Option Text) :=
  if g.query.holds w then do return some (← hookBody t g.hook) else pure none

/-- The span of the chain or guard at a position, with the body that it takes. -/
def taken? (w : Setting) (t : Text) (start : Nat) : GuardedAct (Option (Span × Option Text)) := do
  let head ← head? t start
  if head.any fun h => Invocation.isNamed guardNames h.1 then
    match ← guard? t start with
    | none => return none
    | some g => return some (g.span, ← takenOfGuard w t g)
  else
    match ← chain? t start with
    | none => return none
    | some c => return some (c.span, ← takenOfChain w t c.branches)

/-- What the head at a position becomes, with the span to write it over. -/
def resolve? (w : Setting) (body : Text → GuardedAct Text) (t : Text) (start : Nat) :
    GuardedAct (Option (Span × Text)) := do
  let head ← head? t start
  if head.any fun h => Invocation.isNamed guardNames h.1 then
    match ← guard? t start with
    | none => return none
    | some g => return some (g.span, ← resolveGuard w body t g)
  else
    match ← chain? t start with
    | none => return none
    | some c => return some (c.span, ← resolveChain w body t c.branches)

/-- Writes what the head at a position becomes. -/
def replaceConditional (w : Setting) (body : Text → GuardedAct Text) (t : Text) (start : Nat) :
    GuardedAct (Text × Nat) := do
  match ← resolve? w body t start with
  | some (span, written) => do
    let t ← t.replace span.start span.stop written
    return (t, span.start + Text.width written)
  | none => return (t, start + 1)

/-- The text with its chains and guards resolved, where `body` resolves the bodies that are taken. -/
def reduceWith (w : Setting) (body : Text → GuardedAct Text) (t : Text) : GuardedAct Text :=
  rewrite (fun t start => findHead? t start Conditional.names) (replaceConditional w body)
    w.limits.maxReductions t 0

/-! ### The same branches -/

variable {w : Setting} {body : Text → Act Text} {bodyAt : Text → GuardedAct Text}

private theorem branchHolds_eq (w : Setting) (b : Branch) (hook : Span) :
    branchHolds w ⟨b.condition?, hook⟩ = Act.sure (b.holds w) := by
  rw [branchHolds, Branch.holds]
  cases b.condition? with
  | none => rfl
  | some t =>
    simp only [conditionOf_eq, Act.lift_ok_bind]
    rfl

/-- A chain takes the body of its first branch, or else what the others take. -/
private theorem takenOfChain_cons (t : Text) (b : BranchAt) (bs : List BranchAt) :
    takenOfChain w t (b :: bs) = (do
      if ← branchHolds w b then return some (← hookBody t b.hook) else takenOfChain w t bs) := by
  rw [takenOfChain, select, bind_assoc]
  congr 1
  funext holds
  cases holds with
  | true =>
    simp only [if_true, pure_bind]
    rfl
  | false =>
    simp only [Bool.false_eq_true, if_false, pure_bind, bind_assoc]
    rw [takenOfChain]
    congr 1
    funext i
    cases i with
    | none => rfl
    | some i =>
      simp only [Option.map_some, Guarded.item, List.getElem?_cons_succ]

/-- **The body that is taken of a chain** is sliced out of the text. -/
private theorem takenOfChain_eq (s : Text) (bs : List Branch) (r : Text) :
    takenOfChain w (s ++ (bs.flatMap Branch.source ++ r)) (BranchAt.list (Text.width s) bs) =
      Act.sure (do
        let i ← Chain.select w bs
        pure (i.bind fun i => (bs.map (·.hook.body))[i]?)) := by
  induction bs generalizing s with
  | nil => rfl
  | cons b bs ih =>
    -- The body of the first branch is a piece of the text, and the others begin behind that branch.
    let before := s ++ (b.gap ++ (b.call.map Invocation.source).getD [])
    have hbefore : before ++ (b.hook.source ++ (bs.flatMap Branch.source ++ r)) =
        s ++ ((b :: bs).flatMap Branch.source ++ r) := by
      simp only [before, List.flatMap_cons, Branch.source, List.append_assoc]
    have hbehind : s ++ b.source ++ (bs.flatMap Branch.source ++ r) =
        s ++ ((b :: bs).flatMap Branch.source ++ r) := by
      simp only [List.flatMap_cons, List.append_assoc]
    have hhook := hookBody_append before b.hook (bs.flatMap Branch.source ++ r)
    have hrest := ih (s ++ b.source)
    rw [hbefore] at hhook
    rw [hbehind, Text.width_append] at hrest
    rw [BranchAt.list_cons, takenOfChain_cons, branchHolds_eq, Chain.select_cons, bind_assoc,
      ← Act.sure_bind]
    congr 1
    funext holds
    cases holds with
    | true =>
      simp only [if_true]
      simp only [before, Text.width_append, ← Nat.add_assoc] at hhook
      simp only [Branch.source, Text.width_append, ← Nat.add_assoc, hhook, Act.lift_ok_bind]
      rfl
    | false =>
      simp only [Bool.false_eq_true, if_false, hrest, bind_assoc, pure_bind]
      congr 2
      funext i
      cases i <;> rfl

private theorem takenOfGuard_eq (s : Text) (g : Guard) (r : Text) :
    takenOfGuard w (s ++ (g.source ++ r)) (GuardAt.of (Text.width s) g) =
      pure (if g.query.holds w then some g.hook.body else none) := by
  have hhook := hookBody_append (s ++ g.call.source) g.hook r
  have htext : s ++ g.call.source ++ (g.hook.source ++ r) = s ++ (g.source ++ r) := by
    simp only [Guard.source, List.append_assoc]
  rw [htext] at hhook
  simp only [Text.width_append] at hhook
  rw [takenOfGuard, GuardAt.of]
  simp only [Guard.hookSpan, Guard.source, Text.width_append, ← Nat.add_assoc] at hhook ⊢
  split
  · rw [hhook, Act.lift_ok_bind]
  · rfl

/-- **The body that is taken** in a buffer is the one that is chosen in the text. -/
theorem taken?_append (s v : Text) :
    taken? w (s ++ v) (Text.width s) =
      match (Conditional.ofHead v).1 with
      | .stray => pure none
      | k => do
        let i ← Act.sure (k.chosen w)
        return some (⟨Text.width s, Text.width s + Text.width k.source⟩,
          i.bind fun i => k.bodies[i]?) := by
  have hhead : ((Invocation.head? v).map fun p => (p.1, Text.width s + Text.width p.1 + 2)).any
      (fun h => Invocation.isNamed guardNames h.1) =
        (Invocation.head? v).any fun h => Invocation.isNamed guardNames h.1 := by
    cases Invocation.head? v <;> rfl
  rw [taken?, head?_append, Act.lift_ok_bind, hhead, Conditional.ofHead]
  split
  · rw [guard?_append, Act.lift_ok_bind]
    cases hread : Guard.read? v with
    | none => rfl
    | some p =>
      have hguard := takenOfGuard_eq (w := w) s p.1 p.2
      rw [← Guard.eq_append_of_read? hread] at hguard
      simp only [Option.map_some, hguard, Conditional.chosen]
      split <;> rfl
  · rw [chain?_append, Act.lift_ok_bind]
    cases hread : Chain.read? v with
    | none => rfl
    | some p =>
      have hchain := takenOfChain_eq (w := w) s p.1.branches p.2
      have hv : v = p.1.branches.flatMap Branch.source ++ p.2 := Chain.eq_append_of_read? hread
      rw [← hv] at hchain
      simp only [Option.map_some, ChainAt.of, hchain]
      rfl

/-! ### Writing what a conditional becomes -/

/-- What a head becomes is decided by the body that it takes. -/
theorem resolve?_eq_taken? (start : Nat) (t : Text) :
    resolve? w bodyAt t start = (do
      match ← taken? w t start with
      | none => return none
      | some (span, b) => return some (span, ← b.elim (pure []) bodyAt)) := by
  rw [resolve?, taken?, bind_assoc]
  congr 1
  funext head
  split
  · rw [bind_assoc]
    congr 1
    funext g
    cases g with
    | none => rfl
    | some g =>
      simp only [resolveGuard, takenOfGuard, bind_assoc, pure_bind]
      split
      · simp only [bind_assoc, pure_bind, Option.elim_some]
      · rfl
  · rw [bind_assoc]
    congr 1
    funext c
    cases c with
    | none => rfl
    | some c =>
      simp only [resolveChain, takenOfChain, bind_assoc, pure_bind]
      congr 1
      funext i
      cases i with
      | none => rfl
      | some i => simp only [branchBody, bind_assoc, pure_bind, Option.elim_some]

private theorem resolve?_append (hbody : ∀ t, bodyAt t = Act.sure (body t)) (s v : Text) :
    resolve? w bodyAt (s ++ v) (Text.width s) =
      match (Conditional.ofHead v).1 with
      | .stray => pure none
      | k => do
        let written ← Act.sure (k.resolve w body)
        return some (⟨Text.width s, Text.width s + Text.width k.source⟩, written) := by
  have hfun : bodyAt = fun t => Act.sure (body t) := funext hbody
  rw [resolve?_eq_taken?, taken?_append]
  split
  · rfl
  · rename_i hk
    rw [Conditional.resolve_eq_of_chosen w body hk, ← Act.sure_bind]
    simp only [bind_assoc, pure_bind]
    congr 1
    funext i
    cases i.bind fun i => (Conditional.ofHead v).1.bodies[i]? with
    | none => rfl
    | some b => rw [hfun]; rfl

/-- **A conditional is replaced in place**, and the pass goes on behind what is written. -/
private theorem replaceConditional_append (hbody : ∀ t, bodyAt t = Act.sure (body t)) (s : Text)
    {v behind : Text} {k : Conditional} (hv : v.head? = some '(')
    (h : Conditional.ofHead v = (k, behind)) :
    replaceConditional w bodyAt (s ++ v) (Text.width s) = Act.sure (do
      let written ← k.resolve w body
      pure (s ++ written ++ behind, Text.width (s ++ written))) := by
  have hsource : k.source ++ behind = v := by
    have hofHead := Conditional.ofHead_append hv
    rwa [h] at hofHead
  rw [replaceConditional, resolve?_append hbody, h]
  cases k with
  | stray =>
    simp only [← hsource, Conditional.resolve, pure_bind, Act.sure_pure, Text.width_append,
      List.append_assoc]
    rfl
  | chain c =>
    simp only [bind_assoc, pure_bind, ← hsource, Text.replace_append, Act.lift_ok_bind,
      Text.width_append]
    rfl
  | guard g =>
    simp only [bind_assoc, pure_bind, ← hsource, Text.replace_append, Act.lift_ok_bind,
      Text.width_append]
    rfl

/-- No head is found where the text has no chain, no guard and nothing stray. -/
theorem findHead?_of_find?_eq_none {u : Text} (h : Conditional.find? u = none) (done : Text) :
    findHead? (done ++ u) (Text.width done) Conditional.names = .ok none := by
  have hnone : Invocation.findHead? Conditional.names u = none := Option.map_eq_none_iff.mp h
  rw [findHead?_append, hnone]
  rfl

/-- The head is found that begins the first chain or guard of the text, or is stray. -/
theorem findHead?_of_find?_eq_some {u before behind : Text} {k : Conditional}
    (h : Conditional.find? u = some (before, k, behind)) (done : Text) :
    findHead? (done ++ u) (Text.width done) Conditional.names =
        .ok (some (Text.width (done ++ before))) ∧
      ∃ v, u = before ++ v ∧ v.head? = some '(' ∧ Conditional.ofHead v = (k, behind) := by
  obtain ⟨⟨b, v⟩, hfound, hp⟩ := Option.map_eq_some_iff.mp h
  obtain ⟨rfl, hk⟩ := Prod.mk.inj hp
  refine ⟨?_, v, Invocation.eq_append_of_findHead? hfound, Invocation.head?_of_findHead? hfound, hk⟩
  rw [findHead?_append, hfound, Text.width_append]
  rfl

private theorem rewrites_conditionals (hbody : ∀ t, bodyAt t = Act.sure (body t)) :
    Rewrites Conditional.finder (Conditional.resolve w body)
      (fun t start => findHead? t start Conditional.names) (replaceConditional w bodyAt) where
  none := fun done _ h => findHead?_of_find?_eq_none h done
  some := by
    intro done u before behind k h
    obtain ⟨hfind, v, rfl, hv, hk⟩ := findHead?_of_find?_eq_some h done
    have hhandle := replaceConditional_append (w := w) hbody (done ++ before) hv hk
    rw [List.append_assoc] at hhandle
    exact ⟨_, hfind, hhandle⟩

/-- **Chains and guards resolved in the buffer** are those of the text. -/
theorem reduceWith_eq (hbody : ∀ t, bodyAt t = Act.sure (body t)) (t : Text) :
    reduceWith w bodyAt t = Act.sure (Hyperfiction.reduceWith w body t) :=
  rewrite_zero_eq (rewrites_conditionals hbody) w.limits.maxReductions t

end InPlace

end Hyperfiction

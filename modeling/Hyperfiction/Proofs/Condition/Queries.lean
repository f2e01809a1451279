import Hyperfiction.Proofs.Condition.Parts
import Hyperfiction.Proofs.Eval.Asked

/-!
# Where queries come from

A query of an expression or a condition is asked by a call among its tokens: an opening parenthesis, a
name, a colon, the balanced tokens of the arguments and the closing parenthesis
(`Expr.asked_of_ofTokens?`, `Condition.asked_of_ofTokens`). Every reader keeps this, whatever it reads
around the call.
-/

namespace Hyperfiction

namespace Token

/-- The tokens are a call with these arguments. -/
def IsCall (args ks : List Token) : Prop :=
  ∃ first name colon last : Token, first.kind = .leftParen ∧ last.kind = .rightParen ∧ Balanced args ∧
    ks = first :: name :: colon :: (args ++ [last])

/-- A call among the tokens asks the query. -/
def Asks (ks : List Token) (q : Query) : Prop :=
  ∃ args call, IsCall args call ∧ call <:+: ks ∧ Query.ofTokens? args = some q

/-- What is asked in tokens is asked in those around them. -/
theorem Asks.mono {ks ls : List Token} {q : Query} (h : Asks ks q) (hsub : ks <:+: ls) : Asks ls q :=
  let ⟨args, call, hcall, hks, hq⟩ := h
  ⟨args, call, hcall, hks.trans hsub, hq⟩

end Token

/-! ### Expressions -/

namespace Expr

open Token (Asks)

/-- The queries of what is read are asked by the tokens. -/
def Reader.IsAsked (R : Reader) : Prop :=
  ∀ ks e rest, R ks = some (e, rest) → ∀ q ∈ e.queries, Asks ks q

private theorem asked_whole {read : Reader} (hread : read.IsAsked) {ks : List Token} {e : Expr}
    (h : whole read ks = some e) : ∀ q ∈ e.queries, Asks ks q := by
  unfold whole at h
  split at h
  · rename_i e' hr
    obtain rfl := Option.some.inj h
    exact hread ks _ [] hr
  · cases h

/-- What the arguments of a call ask stands in its tokens. -/
private theorem asked_arguments {read : Reader} (hread : read.IsAsked) (hlocal : Reader.IsLocal read)
    {ks : List Token} {es : List Expr} (h : arguments read ks = some es) :
    ∀ q ∈ queriesAll es, Asks ks q := by
  induction hn : ks.length using Nat.strongRecOn generalizing ks es with
  | ind n ih =>
    subst hn
    cases ks with
    | nil =>
      rw [arguments] at h
      obtain rfl := Option.some.inj h
      intro q hq
      cases hq
    | cons k ks =>
      rw [arguments] at h
      split at h
      · rename_i e hr
        obtain rfl := Option.some.inj h
        simpa only [queriesAll, List.append_nil] using hread _ e [] hr
      · rename_i e c rest hr
        obtain ⟨used, hused, hne, -⟩ := hlocal.taken hr
        split at h
        · split at h
          · obtain ⟨es', hes, rfl⟩ := Option.map_eq_some_iff.mp h
            have hsub : rest <:+: k :: ks := ⟨used ++ [c], [], by simp [hused]⟩
            have hlt : rest.length < (k :: ks).length := by
              rw [hused, List.length_append, List.length_cons]
              omega
            intro q hq
            rw [queriesAll] at hq
            rcases List.mem_append.mp hq with hq | hq
            · exact hread _ e _ hr q hq
            · exact (ih _ hlt hes rfl q hq).mono hsub
          · cases h
        · cases h
      · cases h

/-- The parentheses with a query in them are the call that asks it. -/
private theorem asked_group? {read : Reader} (hread : read.IsAsked) (hlocal : Reader.IsLocal read)
    {first last : Token} {inside : List Token} (hfirst : first.kind = .leftParen)
    (hlast : last.kind = .rightParen) (hinside : Token.Balanced inside) {e : Expr}
    (h : group? read inside = some e) : ∀ q ∈ e.queries, Asks (first :: (inside ++ [last])) q := by
  have hsub : inside <:+: first :: (inside ++ [last]) := ⟨[first], [last], by simp⟩
  unfold group? at h
  split at h
  · rename_i gap name source gap' source' args
    have hargs : Token.Balanced args := hinside
    unfold call? at h
    dsimp only at h
    split at h
    · obtain ⟨q', hq', rfl⟩ := Option.map_eq_some_iff.mp h
      intro q hq
      rw [queries, List.mem_singleton] at hq
      subst hq
      exact ⟨args, _, ⟨first, _, _, last, hfirst, hlast, hargs, rfl⟩, List.infix_rfl, hq'⟩
    · obtain ⟨es, hes, rfl⟩ := Option.map_eq_some_iff.mp h
      intro q hq
      rw [queries] at hq
      exact (asked_arguments hread hlocal hes q hq).mono
        ((List.suffix_append [_, _] args).isInfix.trans hsub)
  · exact fun q hq => (asked_whole hread h q hq).mono hsub

/-- **What a primary asks stands in its tokens**, if that holds of what is read in parentheses. -/
private theorem isAsked_primary {read : Reader} (hread : read.IsAsked) (hlocal : Reader.IsLocal read) :
    Reader.IsAsked (primary read) := by
  intro ks e rest h
  cases ks with
  | nil => cases h
  | cons k ks =>
    by_cases hk : k.kind = .leftParen
    · rw [primary_of_leftParen read hk] at h
      obtain ⟨⟨inside, rest'⟩, hclosing, h⟩ := Option.bind_eq_some_iff.mp h
      obtain ⟨e', hgroup, heq⟩ := Option.map_eq_some_iff.mp h
      obtain ⟨rfl, rfl⟩ := Prod.mk.inj heq
      obtain ⟨last, hlast, rfl, hin⟩ := Token.closing?_eq_some_iff.mp hclosing
      intro q hq
      refine (asked_group? hread hlocal hk hlast hin hgroup q hq).mono ?_
      exact (List.prefix_append (k :: (inside ++ [last])) rest').isInfix.trans (by simp)
    · have hnone : e.queries = [] := by
        rw [primary] at h
        cases hkind : k.kind <;> rw [hkind] at h <;>
          simp only [reduceCtorEq, Option.some.injEq, Prod.mk.injEq] at h
        case leftParen => exact absurd hkind hk
        all_goals obtain ⟨rfl, -⟩ := h; rw [queries]
      rw [hnone]
      intro q hq
      cases hq

section Joined

variable {operand : Reader} {join? : Token.Kind → Option (Expr → Expr → Expr)}
  (hoperand : operand.IsAsked) (hlocal : Reader.IsLocal operand)
  (hjoin : ∀ k join, join? k = some join → ∀ l r, (join l r).queries = l.queries ++ r.queries)
include hoperand hlocal hjoin

/-- An operand that is joined asks what stands in its tokens. -/
private theorem asked_joinMore {left e : Expr} {ks rest : List Token}
    (h : joinMore operand join? left ks = some (e, rest)) :
    ∀ q ∈ e.queries, q ∈ left.queries ∨ Asks ks q := by
  induction hn : ks.length using Nat.strongRecOn generalizing ks left with
  | ind n ih =>
    subst hn
    cases ks with
    | nil =>
      rw [joinMore] at h
      obtain ⟨rfl, -⟩ := Prod.mk.inj (Option.some.inj h)
      exact fun q hq => .inl hq
    | cons k ks =>
      cases hj : join? k.kind with
      | none =>
        rw [joinMore_of_none hj] at h
        obtain ⟨rfl, -⟩ := Prod.mk.inj (Option.some.inj h)
        exact fun q hq => .inl hq
      | some join =>
        rw [joinMore_of_some hlocal hj] at h
        cases hop : operand ks with
        | none => rw [hop] at h; cases h
        | some p =>
          obtain ⟨right, rest'⟩ := p
          rw [hop] at h
          obtain ⟨used, rfl, -, -⟩ := hlocal.taken hop
          have hlt : rest'.length < (k :: (used ++ rest')).length := by
            simp only [List.length_cons, List.length_append]
            omega
          have hsub : used ++ rest' <:+: k :: (used ++ rest') := (List.suffix_cons k _).isInfix
          have hmore : rest' <:+: k :: (used ++ rest') :=
            (List.suffix_append used rest').isInfix.trans hsub
          intro q hq
          rcases ih _ hlt h rfl q hq with hq | hq
          · rw [hjoin _ _ hj] at hq
            rcases List.mem_append.mp hq with hq | hq
            · exact .inl hq
            · exact .inr ((hoperand _ _ _ hop q hq).mono hsub)
          · exact .inr (hq.mono hmore)

private theorem isAsked_joined : Reader.IsAsked (joined operand join?) := by
  intro ks e rest h
  rw [joined] at h
  cases hop : operand ks with
  | none => rw [hop] at h; cases h
  | some p =>
    obtain ⟨left, rest'⟩ := p
    rw [hop] at h
    obtain ⟨used, rfl, -, -⟩ := hlocal.taken hop
    intro q hq
    rcases asked_joinMore hoperand hlocal hjoin h q hq with hq | hq
    · exact hoperand _ _ _ hop q hq
    · exact hq.mono (List.suffix_append used rest').isInfix

end Joined

private theorem queries_negated (e : Expr) : (negated e).queries = e.queries := by
  cases e <;> simp only [negated, queries]

private theorem isAsked_signed {operand : Reader} (hoperand : operand.IsAsked) :
    Reader.IsAsked (signed operand) := by
  intro ks
  induction ks with
  | nil => exact hoperand []
  | cons k ks ih =>
    intro e rest h
    rw [signed] at h
    split at h
    · obtain ⟨⟨e', rest'⟩, hmore, heq⟩ := Option.map_eq_some_iff.mp h
      obtain ⟨rfl, rfl⟩ := Prod.mk.inj heq
      rw [queries_negated]
      exact fun q hq => (ih e' _ hmore q hq).mono (List.suffix_cons k ks).isInfix
    · exact hoperand _ e rest h

/-- What an expression asks stands in its tokens, at every depth. -/
private theorem isAsked_sumAt (depth : Nat) : Reader.IsAsked (sumAt depth) := by
  induction depth with
  | zero =>
    intro ks e rest h
    cases h
  | succ depth ih =>
    have hprimary := isAsked_primary ih (isLocal_sumAt depth)
    have hpossessed : Reader.IsAsked (joined (primary (sumAt depth)) possessed?) := by
      refine isAsked_joined hprimary (isLocal_primary _) fun k join h l r => ?_
      cases k <;> simp only [possessed?, reduceCtorEq, Option.some.injEq] at h
      subst h
      rw [queries]
    have hproduct : Reader.IsAsked (joined (signed (joined (primary (sumAt depth)) possessed?)) product?) := by
      refine isAsked_joined (isAsked_signed hpossessed) (isLocal_signed (isLocal_possessed _))
        fun k join h l r => ?_
      cases k <;> simp only [product?, reduceCtorEq, Option.some.injEq] at h
      all_goals subst h; rw [queries]
    refine isAsked_joined hproduct (isLocal_product _) fun k join h l r => ?_
    cases k <;> simp only [sum?, reduceCtorEq, Option.some.injEq] at h
    all_goals subst h; rw [queries]

/-- **The queries of an expression** are asked by calls among its tokens. -/
theorem asked_of_ofTokens? {ks : List Token} {e : Expr} (h : ofTokens? ks = some e) :
    ∀ q ∈ e.queries, Asks ks q :=
  asked_whole (isAsked_sumAt _) h

end Expr

/-! ### Conditions -/

namespace Condition

open Token (Asks)

private theorem mem_queriesAll {q : Query} {cs : List Condition} :
    q ∈ queriesAll cs ↔ ∃ c ∈ cs, q ∈ c.queries := by
  induction cs with
  | nil => simp [queriesAll]
  | cons c cs ih => simp [queriesAll, ih]

/-- What a comparison asks stands in its tokens. -/
private theorem asked_simple (ks : List Token) : ∀ q ∈ (simple ks).queries, Asks ks q := by
  unfold simple
  split
  · rename_i left op right hcomparison
    obtain ⟨k, rfl⟩ := eq_append_of_comparison? hcomparison
    have hleft : left <:+: left ++ k :: right := (List.prefix_append left _).isInfix
    have hright : right <:+: left ++ k :: right :=
      (List.suffix_cons k right).isInfix.trans (List.suffix_append left _).isInfix
    split
    · rename_i l r hl hr
      intro q hq
      rw [queries] at hq
      rcases List.mem_append.mp hq with hq | hq
      · exact (Expr.asked_of_ofTokens? hl q hq).mono hleft
      · exact (Expr.asked_of_ofTokens? hr q hq).mono hright
    · intro q hq
      rw [queries] at hq
      cases hq
  · split
    · rename_i e he
      intro q hq
      rw [queries] at hq
      exact Expr.asked_of_ofTokens? he q hq
    · intro q hq
      rw [queries] at hq
      cases hq

/-- The parts that a connective joins are asked by runs of the tokens, shorter ones. -/
private theorem asked_parts {isSeparator : Token.Kind → Bool} {ks p p' : List Token}
    {more : List (List Token)} (hsplit : Token.splitTop isSeparator 0 ks = (p, p' :: more))
    (ih : ∀ part : List Token, part.length < ks.length → ∀ q ∈ (ofTokens part).queries, Asks part q) :
    ∀ q ∈ queriesAll ((p :: p' :: more).map ofTokens), Asks ks q := by
  intro q hq
  obtain ⟨c, hc, hq⟩ := mem_queriesAll.mp hq
  obtain ⟨part, hpart, rfl⟩ := List.mem_map.mp hc
  have hmem : part ∈ (Token.splitTop isSeparator 0 ks).1 :: (Token.splitTop isSeparator 0 ks).2 := by
    rwa [hsplit]
  have hlength := Token.length_splitTop hmem
  rw [hsplit, List.length_cons] at hlength
  exact (ih part (by omega) q hq).mono (Token.infix_of_mem_splitTop hmem)

/-- **The queries of a condition** are asked by calls among its tokens. -/
theorem asked_of_ofTokens (ks : List Token) : ∀ q ∈ (ofTokens ks).queries, Asks ks q := by
  induction hn : ks.length using Nat.strongRecOn generalizing ks with
  | ind n ih =>
    subst hn
    have hshorter (part : List Token) (h : part.length < ks.length) := ih _ h part rfl
    cases ks with
    | nil =>
      rw [ofTokens, queries]
      intro q hq
      cases hq
    | cons k ks =>
      by_cases hk : k.kind = .not
      · obtain ⟨gap, kind, source⟩ := k
        obtain rfl : kind = .not := hk
        rw [ofTokens, queries]
        exact fun q hq => (hshorter ks (Nat.lt_succ_self _) q hq).mono (List.suffix_cons _ ks).isInfix
      · rw [ofTokens_of_ne hk]
        split
        · rename_i inside hinside
          have hlt := length_lt_of_unwrapped? hinside
          obtain ⟨first, last, heq⟩ := exists_of_unwrapped? hinside
          have hsub : inside <:+: k :: ks := ⟨[first], [last], by rw [heq]; simp⟩
          exact fun q hq => (hshorter inside hlt q hq).mono hsub
        · split
          · rename_i hand
            rw [queries]
            exact asked_parts hand hshorter
          · split
            · rename_i hor
              rw [queries]
              exact asked_parts hor hshorter
            · exact asked_simple (k :: ks)

end Condition

end Hyperfiction

import Hyperfiction.Expr.Parser

/-!
# Expressions in parentheses

The readers of expressions are given what stands in a pair of parentheses by itself. A reader that goes
on behind an opening parenthesis and looks for the closing one when it is done would read the same: what
a reader takes is balanced, and what follows a closing parenthesis does not matter to it
(`Expr.Reader.IsLocal`, `Expr.isLocal_sumAt`). For an operand this holds whatever reads the parentheses
in it, so no induction on their depth is needed.
-/

namespace Hyperfiction

/-! ### Depths of parentheses -/

namespace Token

/-- The number of open parentheses behind a token; none is left to close where `none` is the answer. -/
def Kind.step? : Nat → Kind → Option Nat
  | n, .leftParen => some (n + 1)
  | 0, .rightParen => none
  | n + 1, .rightParen => some n
  | n, _ => some n

/-- The number of open parentheses behind tokens. -/
def depth? : Nat → List Token → Option Nat
  | n, [] => some n
  | n, k :: ks => (k.kind.step? n).bind fun m => depth? m ks

/-- Every parenthesis of the tokens has its partner among them. -/
def Balanced (ks : List Token) : Prop := depth? 0 ks = some 0

instance (ks : List Token) : Decidable (Balanced ks) :=
  inferInstanceAs (Decidable (depth? 0 ks = some 0))

/-- The depth ends at a closing parenthesis that nothing opened. -/
theorem Kind.step?_eq_none_iff {n : Nat} {k : Kind} : k.step? n = none ↔ n = 0 ∧ k = .rightParen := by
  cases k <;> cases n <;> simp [step?]

theorem Kind.step?_add {n m : Nat} {k : Kind} (h : k.step? n = some m) (j : Nat) :
    k.step? (n + j) = some (m + j) := by
  cases k with
  | leftParen =>
    obtain rfl : n + 1 = m := Option.some.inj h
    exact congrArg some (Nat.add_right_comm n j 1)
  | rightParen =>
    cases n with
    | zero => cases h
    | succ n =>
      obtain rfl : n = m := Option.some.inj h
      rw [Nat.add_right_comm]
      rfl
  | _ =>
    have hsame : n = m := by cases n <;> exact Option.some.inj h
    subst hsame
    cases n + j <;> rfl

theorem closing?_cons (n : Nat) (k : Token) (ks : List Token) :
    closing? n (k :: ks) =
      match k.kind.step? n with
      | none => some ([], ks)
      | some m => (closing? m ks).map fun p => (k :: p.1, p.2) := by
  obtain ⟨gap, kind, source⟩ := k
  cases kind <;> cases n <;> rfl

theorem depth?_append (n : Nat) (us vs : List Token) :
    depth? n (us ++ vs) = (depth? n us).bind fun m => depth? m vs := by
  induction us generalizing n with
  | nil => rfl
  | cons k us ih =>
    rw [List.cons_append, depth?, depth?]
    cases k.kind.step? n with
    | none => rfl
    | some m => exact ih m

theorem depth?_add {n m : Nat} {ks : List Token} (h : depth? n ks = some m) (j : Nat) :
    depth? (n + j) ks = some (m + j) := by
  induction ks generalizing n with
  | nil =>
    obtain rfl : n = m := Option.some.inj h
    rfl
  | cons k ks ih =>
    obtain ⟨i, hi, hks⟩ := Option.bind_eq_some_iff.mp h
    rw [depth?, Kind.step?_add hi]
    exact ih hks

/-- **The closing parenthesis** is the first that stands at depth 0. -/
theorem closing?_eq_some_iff {n : Nat} {ks inside rest : List Token} :
    closing? n ks = some (inside, rest) ↔
      ∃ k, k.kind = .rightParen ∧ ks = inside ++ k :: rest ∧ depth? n inside = some 0 := by
  induction ks generalizing n inside with
  | nil => simp [closing?]
  | cons k ks ih =>
    rw [closing?_cons]
    cases hstep : k.kind.step? n with
    | none =>
      obtain ⟨rfl, hkind⟩ := Kind.step?_eq_none_iff.mp hstep
      constructor
      · intro h
        obtain ⟨rfl, rfl⟩ := Prod.mk.inj (Option.some.inj h)
        exact ⟨k, hkind, rfl, rfl⟩
      · rintro ⟨k', hk', hks, hinside⟩
        cases inside with
        | nil =>
          obtain ⟨-, rfl⟩ := List.cons.inj hks
          rfl
        | cons k'' inside =>
          obtain ⟨rfl, -⟩ := List.cons.inj hks
          rw [depth?, hstep] at hinside
          cases hinside
    | some m =>
      have hmap : (closing? m ks).map (fun p => (k :: p.1, p.2)) = some (inside, rest) ↔
          ∃ us, inside = k :: us ∧ closing? m ks = some (us, rest) := by
        rw [Option.map_eq_some_iff]
        constructor
        · rintro ⟨⟨us, vs⟩, h, heq⟩
          obtain ⟨rfl, rfl⟩ := Prod.mk.inj heq
          exact ⟨us, rfl, h⟩
        · rintro ⟨us, rfl, h⟩
          exact ⟨(us, rest), h, rfl⟩
      refine hmap.trans ?_
      constructor
      · rintro ⟨us, rfl, h⟩
        obtain ⟨k', hk', rfl, hus⟩ := ih.mp h
        refine ⟨k', hk', rfl, ?_⟩
        rw [depth?, hstep]
        exact hus
      · rintro ⟨k', hk', hks, hinside⟩
        cases inside with
        | nil =>
          obtain ⟨rfl, -⟩ := List.cons.inj hks
          rw [hk'] at hstep
          cases n with
          | zero => cases hstep
          | succ n => cases hinside
        | cons k'' us =>
          obtain ⟨rfl, rfl⟩ := List.cons.inj hks
          rw [depth?, hstep] at hinside
          exact ⟨us, rfl, ih.mpr ⟨k', hk', rfl, hinside⟩⟩

/-- A parenthesis that is open among tokens is closed among them, or open behind them. -/
theorem depth?_isSome_of_closing?_eq_none {n : Nat} {ks : List Token} (h : closing? n ks = none) :
    (depth? n ks).isSome := by
  induction ks generalizing n with
  | nil => rfl
  | cons k ks ih =>
    rw [closing?_cons] at h
    rw [depth?]
    cases hstep : k.kind.step? n with
    | none => rw [hstep] at h; cases h
    | some m =>
      rw [hstep] at h
      exact ih (Option.map_eq_none_iff.mp h)

theorem Balanced.append_iff {us vs : List Token} (h : Balanced us) : Balanced (us ++ vs) ↔ Balanced vs := by
  rw [Balanced, depth?_append, h]
  rfl

theorem balanced_singleton {k : Token} (h : k.kind.step? 0 = some 0) : Balanced [k] := by
  rw [Balanced, depth?, h]
  rfl

/-- Tokens without parentheses are balanced. -/
theorem balanced_of_forall_ne {ks : List Token}
    (h : ∀ k ∈ ks, k.kind ≠ .leftParen ∧ k.kind ≠ .rightParen) : Balanced ks := by
  induction ks with
  | nil => rfl
  | cons k ks ih =>
    obtain ⟨⟨hleft, hright⟩, hks⟩ := List.forall_mem_cons.mp h
    have hstep : k.kind.step? 0 = some 0 := by
      cases hk : k.kind <;> first | rfl | exact absurd hk hleft | exact absurd hk hright
    exact (balanced_singleton hstep).append_iff.mpr (ih hks)

theorem not_balanced_cons {k : Token} {ks : List Token} (h : k.kind = .rightParen) :
    ¬ Balanced (k :: ks) := by
  rw [Balanced, depth?, h]
  exact fun h => nomatch h

/-- What an opening parenthesis, the tokens inside and the closing one make is balanced. -/
theorem balanced_group {first last : Token} {inside : List Token} (hfirst : first.kind = .leftParen)
    (hlast : last.kind = .rightParen) (h : Balanced inside) :
    Balanced (first :: (inside ++ [last])) := by
  have hin : depth? 1 inside = some 1 := depth?_add h 1
  have hopen : first.kind.step? 0 = some 1 := by rw [hfirst]; rfl
  have hclose : last.kind.step? 1 = some 0 := by rw [hlast]; rfl
  rw [Balanced, depth?, hopen, Option.bind_some, depth?_append, hin, Option.bind_some, depth?, hclose]
  rfl

/-- The parenthesis in front of balanced tokens is closed among them. -/
theorem closing?_of_balanced_cons {k : Token} {ks : List Token} (hk : k.kind = .leftParen)
    (h : Balanced (k :: ks)) : ∃ inside rest, closing? 0 ks = some (inside, rest) := by
  cases hclosing : closing? 0 ks with
  | some p => exact ⟨p.1, p.2, rfl⟩
  | none =>
    obtain ⟨m, hm⟩ := Option.isSome_iff_exists.mp (depth?_isSome_of_closing?_eq_none hclosing)
    have hstep : k.kind.step? 0 = some 1 := by rw [hk]; rfl
    rw [Balanced, depth?, hstep, Option.bind_some, depth?_add hm 1] at h
    cases h

/-- A parenthesis that is closed is so whatever follows. -/
theorem closing?_append_of_eq_some {n : Nat} {ks inside rest : List Token}
    (h : closing? n ks = some (inside, rest)) (vs : List Token) :
    closing? n (ks ++ vs) = some (inside, rest ++ vs) := by
  obtain ⟨k, hk, rfl, hdepth⟩ := closing?_eq_some_iff.mp h
  exact closing?_eq_some_iff.mpr ⟨k, hk, by rw [List.append_assoc, List.cons_append], hdepth⟩

end Token

/-! ### Readers -/

namespace Expr

/-- The reader takes balanced tokens, one at least, and what follows a closing parenthesis does not
matter to it. -/
structure Reader.IsLocal (R : Reader) : Prop where
  taken : ∀ {ks : List Token} {e : Expr} {rest : List Token}, R ks = some (e, rest) →
    ∃ used, ks = used ++ rest ∧ used ≠ [] ∧ Token.Balanced used
  closed : ∀ {ks : List Token}, Token.Balanced ks → ∀ (k : Token) (rest : List Token),
    k.kind = .rightParen → R (ks ++ k :: rest) = (R ks).map fun p => (p.1, p.2 ++ k :: rest)

/-- A parenthesis is read as far as the one that closes it. -/
theorem primary_of_leftParen (read : Reader) {k : Token} (hk : k.kind = .leftParen) (ks : List Token) :
    primary read (k :: ks) =
      (Token.closing? 0 ks).bind fun p => (group? read p.1).map fun e => (e, p.2) := by
  rw [primary, hk]
  cases Token.closing? 0 ks <;> rfl

/-- An operand is a token, or parentheses with what stands in them. -/
theorem isLocal_primary (read : Reader) : Reader.IsLocal (primary read) := by
  constructor
  · intro ks e rest h
    cases ks with
    | nil => cases h
    | cons k ks =>
      have hone (hstep : k.kind.step? 0 = some 0) (hrest : ks = rest) :
          ∃ used, k :: ks = used ++ rest ∧ used ≠ [] ∧ Token.Balanced used :=
        ⟨[k], by rw [hrest]; rfl, List.cons_ne_nil _ _, Token.balanced_singleton hstep⟩
      rw [primary] at h
      cases hk : k.kind <;> rw [hk] at h hone <;> simp only [reduceCtorEq] at h
      case leftParen =>
        cases hclosing : Token.closing? 0 ks with
        | none => rw [hclosing] at h; cases h
        | some p =>
          obtain ⟨inside, rest'⟩ := p
          rw [hclosing] at h
          obtain ⟨e', -, heq⟩ := Option.map_eq_some_iff.mp h
          obtain ⟨-, rfl⟩ := Prod.mk.inj heq
          obtain ⟨close, hclose, rfl, hin⟩ := Token.closing?_eq_some_iff.mp hclosing
          refine ⟨k :: (inside ++ [close]), by simp, List.cons_ne_nil _ _, ?_⟩
          exact Token.balanced_group hk hclose hin
      all_goals exact hone rfl (Prod.mk.inj (Option.some.inj h)).2
  · intro ks hks k rest hk
    cases ks with
    | nil =>
      simp only [List.nil_append, primary, hk, Option.map_none]
    | cons k' ks =>
      rw [List.cons_append, primary, primary]
      cases hk' : k'.kind <;> try rfl
      obtain ⟨inside, rest', hclosing⟩ := Token.closing?_of_balanced_cons hk' hks
      simp only [hclosing, Token.closing?_append_of_eq_some hclosing, Option.map_map]
      rfl

theorem joinMore_of_none {operand : Reader} {join? : Token.Kind → Option (Expr → Expr → Expr)}
    {left : Expr} {k : Token} {ks : List Token} (h : join? k.kind = none) :
    joinMore operand join? left (k :: ks) = some (left, k :: ks) := by
  rw [joinMore, h]

/-- Behind a token that joins stands one more operand. -/
theorem joinMore_of_some {operand : Reader} (hlocal : Reader.IsLocal operand)
    {join? : Token.Kind → Option (Expr → Expr → Expr)} {left : Expr} {join : Expr → Expr → Expr}
    {k : Token} {ks : List Token} (h : join? k.kind = some join) :
    joinMore operand join? left (k :: ks) =
      match operand ks with
      | none => none
      | some (right, rest) => joinMore operand join? (join left right) rest := by
  rw [joinMore, h]
  cases hop : operand ks with
  | none => rfl
  | some p =>
    obtain ⟨right, rest⟩ := p
    obtain ⟨used, rfl, -, -⟩ := hlocal.taken hop
    exact if_pos (by simp)

section Joined

variable {operand : Reader} {join? : Token.Kind → Option (Expr → Expr → Expr)}

/-- Operands that are joined take balanced tokens. -/
private theorem joinMore_taken (hlocal : Reader.IsLocal operand)
    (hbalanced : ∀ k join, join? k = some join → k.step? 0 = some 0) {left e : Expr}
    {ks rest : List Token} (h : joinMore operand join? left ks = some (e, rest)) :
    ∃ used, ks = used ++ rest ∧ Token.Balanced used := by
  induction hn : ks.length using Nat.strongRecOn generalizing ks left with
  | ind n ih =>
    subst hn
    cases ks with
    | nil =>
      rw [joinMore] at h
      obtain ⟨-, rfl⟩ := Prod.mk.inj (Option.some.inj h)
      exact ⟨[], rfl, rfl⟩
    | cons k ks =>
      cases hj : join? k.kind with
      | none =>
        rw [joinMore_of_none hj] at h
        obtain ⟨-, rfl⟩ := Prod.mk.inj (Option.some.inj h)
        exact ⟨[], rfl, rfl⟩
      | some join =>
        rw [joinMore_of_some hlocal hj] at h
        cases hop : operand ks with
        | none => rw [hop] at h; cases h
        | some p =>
          obtain ⟨right, rest'⟩ := p
          rw [hop] at h
          obtain ⟨used, rfl, -, hused⟩ := hlocal.taken hop
          have hlt : rest'.length < (k :: (used ++ rest')).length := by
            simp only [List.length_cons, List.length_append]
            omega
          obtain ⟨more, rfl, hmore⟩ := ih rest'.length hlt h rfl
          refine ⟨k :: (used ++ more), by simp, ?_⟩
          have hone := Token.balanced_singleton (hbalanced _ _ hj)
          exact hone.append_iff.mpr (hused.append_iff.mpr hmore)

/-- Joining ends at a closing parenthesis as at the end of the tokens. -/
private theorem joinMore_closed (hlocal : Reader.IsLocal operand)
    (hbalanced : ∀ k join, join? k = some join → k.step? 0 = some 0) (left : Expr)
    {ks : List Token} (hks : Token.Balanced ks) {k : Token} (rest : List Token)
    (hk : k.kind = .rightParen) :
    joinMore operand join? left (ks ++ k :: rest) =
      (joinMore operand join? left ks).map fun p => (p.1, p.2 ++ k :: rest) := by
  induction hn : ks.length using Nat.strongRecOn generalizing ks left with
  | ind n ih =>
    subst hn
    cases ks with
    | nil =>
      have hj : join? k.kind = none := by
        cases hj : join? k.kind with
        | none => rfl
        | some join =>
          have := hbalanced _ _ hj
          rw [hk] at this
          cases this
      rw [List.nil_append, joinMore_of_none hj, joinMore]
      rfl
    | cons k' ks =>
      cases hj : join? k'.kind with
      | none =>
        rw [List.cons_append, joinMore_of_none hj, joinMore_of_none hj]
        rfl
      | some join =>
        have hone := Token.balanced_singleton (hbalanced _ _ hj)
        have htail : Token.Balanced ks := hone.append_iff.mp hks
        rw [List.cons_append, joinMore_of_some hlocal hj, joinMore_of_some hlocal hj,
          hlocal.closed htail k rest hk]
        cases hop : operand ks with
        | none => rfl
        | some p =>
          obtain ⟨right, rest'⟩ := p
          obtain ⟨used, rfl, -, hused⟩ := hlocal.taken hop
          have hlt : rest'.length < (k' :: (used ++ rest')).length := by
            simp only [List.length_cons, List.length_append]
            omega
          exact ih rest'.length hlt (join left right) (hused.append_iff.mp htail) rfl

/-- **A reader of joined operands stays within its parentheses**, if that of the operands does. -/
theorem isLocal_joined (hlocal : Reader.IsLocal operand)
    (hbalanced : ∀ k join, join? k = some join → k.step? 0 = some 0) :
    Reader.IsLocal (joined operand join?) := by
  constructor
  · intro ks e rest h
    rw [joined] at h
    cases hop : operand ks with
    | none => rw [hop] at h; cases h
    | some p =>
      obtain ⟨left, rest'⟩ := p
      rw [hop] at h
      obtain ⟨used, rfl, hne, hused⟩ := hlocal.taken hop
      obtain ⟨more, rfl, hmore⟩ := joinMore_taken hlocal hbalanced h
      exact ⟨used ++ more, by simp, by simp [hne], hused.append_iff.mpr hmore⟩
  · intro ks hks k rest hk
    rw [joined, joined, hlocal.closed hks k rest hk]
    cases hop : operand ks with
    | none => rfl
    | some p =>
      obtain ⟨left, rest'⟩ := p
      obtain ⟨used, rfl, -, hused⟩ := hlocal.taken hop
      exact joinMore_closed hlocal hbalanced left (hused.append_iff.mp hks) rest hk

end Joined

theorem isLocal_signed {operand : Reader} (hlocal : Reader.IsLocal operand) :
    Reader.IsLocal (signed operand) := by
  constructor
  · intro ks e rest h
    induction ks generalizing e with
    | nil => exact hlocal.taken h
    | cons k ks ih =>
      rw [signed] at h
      split at h
      · rename_i hk
        obtain ⟨⟨e', rest'⟩, hmore, heq⟩ := Option.map_eq_some_iff.mp h
        obtain ⟨-, rfl⟩ := Prod.mk.inj heq
        obtain ⟨used, rfl, -, hused⟩ := ih hmore
        have hone : Token.Balanced [k] := Token.balanced_singleton (by rw [hk]; rfl)
        exact ⟨k :: used, rfl, List.cons_ne_nil _ _, hone.append_iff.mpr hused⟩
      · exact hlocal.taken h
  · intro ks hks k rest hk
    induction ks with
    | nil =>
      simp only [List.nil_append, signed, hk]
      exact hlocal.closed hks k rest hk
    | cons k' ks ih =>
      rw [List.cons_append, signed, signed]
      split
      · rename_i hk'
        have hone : Token.Balanced [k'] := Token.balanced_singleton (by rw [hk']; rfl)
        rw [ih (hone.append_iff.mp hks), Option.map_map, Option.map_map]
        rfl
      · exact hlocal.closed hks k rest hk

theorem isLocal_possessed (read : Reader) : Reader.IsLocal (joined (primary read) possessed?) := by
  refine isLocal_joined (isLocal_primary read) fun k join h => ?_
  cases k <;> first | rfl | cases h

/-- Products are read within their parentheses. -/
theorem isLocal_product (read : Reader) :
    Reader.IsLocal (joined (signed (joined (primary read) possessed?)) product?) := by
  refine isLocal_joined (isLocal_signed (isLocal_possessed read)) fun k join h => ?_
  cases k <;> first | rfl | cases h

/-- What a sum takes is balanced, and a closing parenthesis ends it. -/
theorem isLocal_sumAt (depth : Nat) : Reader.IsLocal (sumAt depth) := by
  cases depth with
  | zero =>
    constructor
    · intro ks e rest h
      cases h
    · intro ks hks k rest hk
      rfl
  | succ depth =>
    refine isLocal_joined (isLocal_product (sumAt depth)) fun k join h => ?_
    cases k <;> first | rfl | cases h

end Expr

end Hyperfiction

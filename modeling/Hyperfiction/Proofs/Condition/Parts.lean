import Hyperfiction.Condition.Parser
import Hyperfiction.Proofs.Expr.Enclosed

/-!
# The parts of a condition

A condition is taken apart at tokens outside parentheses, so its parts are runs of its tokens
(`Token.infix_of_mem_splitTop`, `Token.eq_append_of_breakTop?`, `Condition.exists_of_unwrapped?`). A call
that nothing stands before or behind has no such tokens, so it is one operand (`Condition.ofTokens_call`);
a call that asks about visited passages is the condition of its query (`Condition.ofTokens_visited`).
-/

namespace Hyperfiction

/-! ### Tokens outside parentheses -/

namespace Token

variable {ks us vs : List Token} {n m : Nat}

/-- The parts between separators are runs of the tokens. -/
theorem infix_of_mem_splitTop {isSeparator : Kind → Bool} {depth : Int} {part : List Token}
    (h : part ∈ (splitTop isSeparator depth ks).1 :: (splitTop isSeparator depth ks).2) :
    part <:+: ks := by
  have hfirst : ∀ {depth : Int} {ks : List Token}, (splitTop isSeparator depth ks).1 <+: ks := by
    intro depth ks
    induction ks generalizing depth with
    | nil => exact List.prefix_rfl
    | cons k ks ih =>
      rw [splitTop]
      split
      · exact List.nil_prefix
      · exact (List.cons_prefix_cons).mpr ⟨rfl, ih⟩
  rcases List.mem_cons.mp h with rfl | h
  · exact hfirst.isInfix
  · induction ks generalizing depth with
    | nil => cases h
    | cons k ks ih =>
      have hcons : ks <:+: k :: ks := (List.suffix_cons k ks).isInfix
      rw [splitTop] at h
      split at h
      · rcases List.mem_cons.mp h with rfl | h
        · exact hfirst.isInfix.trans hcons
        · exact (ih (List.mem_cons_of_mem _ h) h).trans hcons
      · exact (ih (List.mem_cons_of_mem _ h) h).trans hcons

/-- A token that is found stands between the tokens before and behind it. -/
theorem eq_append_of_breakTop? {α : Type} {test : Kind → Option α} {depth : Int}
    {left right : List Token} {a : α} (h : breakTop? test depth ks = some (left, a, right)) :
    ∃ k, ks = left ++ k :: right := by
  induction ks generalizing depth left with
  | nil => cases h
  | cons k ks ih =>
    rw [breakTop?] at h
    split at h
    · obtain ⟨rfl, -, rfl⟩ : [] = left ∧ _ ∧ ks = right := by simpa using h
      exact ⟨k, rfl⟩
    · obtain ⟨⟨left', a', right'⟩, hmore, heq⟩ := Option.map_eq_some_iff.mp h
      obtain ⟨rfl, rfl, rfl⟩ : k :: left' = left ∧ a' = a ∧ right' = right := by simpa using heq
      obtain ⟨k', rfl⟩ := ih hmore
      exact ⟨k', rfl⟩

/-- A step of the depth is what a token counts. -/
theorem Kind.nesting_of_step? {k : Kind} (h : k.step? n = some m) : (n : Int) + k.nesting = m := by
  cases k <;> cases n <;> cases h <;> simp only [nesting] <;> omega

private theorem Kind.nesting_of_step?_succ {k : Kind} (h : k.step? n = some m) :
    (n : Int) + 1 + k.nesting = m + 1 := by
  have := nesting_of_step? h
  omega

/-- Tokens behind an open parenthesis that do not close it are not outside of it. -/
private theorem splitTop_of_depth? (h : depth? n us = some m) (isSeparator : Kind → Bool) :
    splitTop isSeparator (n + 1) (us ++ vs) =
      (us ++ (splitTop isSeparator (m + 1) vs).1, (splitTop isSeparator (m + 1) vs).2) := by
  induction us generalizing n with
  | nil =>
    obtain rfl : n = m := Option.some.inj h
    rfl
  | cons k us ih =>
    obtain ⟨i, hi, hus⟩ := Option.bind_eq_some_iff.mp h
    rw [List.cons_append, splitTop, if_neg (by omega), Kind.nesting_of_step?_succ hi, ih hus]
    rfl

/-- The search passes over tokens that lead from one depth to another. -/
private theorem breakTop?_of_depth? {α : Type} (h : depth? n us = some m) (test : Kind → Option α) :
    breakTop? test (n + 1) (us ++ vs) =
      (breakTop? test (m + 1) vs).map fun p => (us ++ p.1, p.2) := by
  induction us generalizing n with
  | nil =>
    obtain rfl : n = m := Option.some.inj h
    exact Option.map_id'.symm
  | cons k us ih =>
    obtain ⟨i, hi, hus⟩ := Option.bind_eq_some_iff.mp h
    rw [List.cons_append, breakTop?, if_neg (by omega), Kind.nesting_of_step?_succ hi]
    simp only [ih hus, Option.map_map]
    rfl

section Group

variable {first last : Token} {inside : List Token} (hfirst : first.kind = .leftParen)
  (h : Balanced inside)
include hfirst h

/-- All that stands in a pair of parentheses is in one part with what follows it. -/
theorem splitTop_group (hlast : last.kind = .rightParen) {isSeparator : Kind → Bool}
    (hparen : isSeparator .leftParen = false) (rest : List Token) :
    splitTop isSeparator 0 (first :: (inside ++ last :: rest)) =
      (first :: (inside ++ last :: (splitTop isSeparator 0 rest).1),
        (splitTop isSeparator 0 rest).2) := by
  have hin : splitTop isSeparator (0 + 1) (inside ++ last :: rest) =
      (inside ++ (splitTop isSeparator (0 + 1) (last :: rest)).1,
        (splitTop isSeparator (0 + 1) (last :: rest)).2) := splitTop_of_depth? h isSeparator
  have hclose : splitTop isSeparator (0 + 1) (last :: rest) =
      (last :: (splitTop isSeparator 0 rest).1, (splitTop isSeparator 0 rest).2) := by
    rw [splitTop, hlast, if_neg (by omega)]
    rfl
  rw [splitTop, hfirst, if_neg (by simp [hparen]), Kind.nesting, hin, hclose]

/-- Nothing is found at top level in a pair of parentheses. -/
theorem breakTop?_group {α : Type} {test : Kind → Option α} (hparen : test .leftParen = none) :
    breakTop? test 0 (first :: (inside ++ [last])) = none := by
  have hin : breakTop? test (0 + 1) (inside ++ [last]) =
      (breakTop? test (0 + 1) [last]).map fun p => (inside ++ p.1, p.2) := breakTop?_of_depth? h test
  have hlast : breakTop? test (0 + 1) [last] = none := by
    rw [breakTop?, if_neg (by omega), breakTop?]
    rfl
  rw [breakTop?, hfirst, if_pos rfl, hparen]
  simp only [Kind.nesting, hin, hlast, Option.map_none]

end Group

end Token

/-! ### Calls -/

theorem Token.depth?_call {name colon : Token} {n : Text} (hname : name.kind = .word n)
    (hcolon : colon.kind = .colon) (ks : List Token) :
    depth? 0 (name :: colon :: ks) = depth? 0 ks := by
  have hone : name.kind.step? 0 = some 0 := by rw [hname]; rfl
  have htwo : colon.kind.step? 0 = some 0 := by rw [hcolon]; rfl
  rw [depth?, hone, Option.bind_some, depth?, htwo, Option.bind_some]

namespace Expr

variable {first name colon last : Token} {args ks : List Token}

/-- An operand that takes all tokens leaves no operator to be read. -/
private theorem joined_of_eq_some {operand : Reader} {e : Expr} (h : operand ks = some (e, []))
    (join? : Token.Kind → Option (Expr → Expr → Expr)) : joined operand join? ks = some (e, []) := by
  rw [joined, h]
  exact joinMore.eq_1 operand join? e

private theorem signed_of_leftParen (operand : Reader) (hfirst : first.kind = .leftParen) :
    signed operand (first :: ks) = operand (first :: ks) := by
  rw [signed, hfirst]

/-- A call that asks about visited passages is the expression of its query. -/
theorem ofTokens?_visited {n : Text} {q : Query} (hfirst : first.kind = .leftParen)
    (hname : name.kind = .word n) (hvisited : n.map Char.toLower ∈ queryNames)
    (hcolon : colon.kind = .colon) (hargs : Token.Balanced args) (hlast : last.kind = .rightParen)
    (hq : Query.ofTokens? args = some q) :
    ofTokens? (first :: name :: colon :: (args ++ [last])) = some (.visited q) := by
  have hclosing : Token.closing? 0 (name :: colon :: (args ++ [last])) =
      some (name :: colon :: args, []) := by
    refine Token.closing?_eq_some_iff.mpr ⟨last, hlast, rfl, ?_⟩
    rwa [Token.depth?_call hname hcolon]
  have hgroup (read : Reader) : group? read (name :: colon :: args) = some (.visited q) := by
    obtain ⟨gap₁, kind₁, source₁⟩ := name
    obtain ⟨gap₂, kind₂, source₂⟩ := colon
    obtain rfl : kind₁ = .word n := hname
    obtain rfl : kind₂ = .colon := hcolon
    rw [group?, call?, if_pos (List.contains_iff_mem.mpr hvisited), hq]
    rfl
  have hprimary (read : Reader) :
      primary read (first :: name :: colon :: (args ++ [last])) = some (.visited q, []) := by
    rw [primary_of_leftParen read hfirst, hclosing, Option.bind_some, hgroup]
    rfl
  have hsum : sumAt ((name :: colon :: (args ++ [last])).length + 1)
      (first :: name :: colon :: (args ++ [last])) = some (.visited q, []) := by
    refine joined_of_eq_some (joined_of_eq_some ?_ _) _
    rw [signed_of_leftParen _ hfirst]
    exact joined_of_eq_some (hprimary _) _
  rw [ofTokens?, whole, List.length_cons, hsum]

end Expr

/-! ### Conditions -/

namespace Condition

variable {first name colon : Token} {n : Text}

/-- A `not` in front negates all that follows. -/
theorem ofTokens_not {k : Token} (hk : k.kind = .not) (ks : List Token) :
    ofTokens (k :: ks) = .not (ofTokens ks) := by
  obtain ⟨gap, kind, source⟩ := k
  obtain rfl : kind = .not := hk
  rw [ofTokens]

/-- The connectives are looked for behind a `not` and parentheses around everything. -/
theorem ofTokens_of_ne {k : Token} {ks : List Token} (hk : k.kind ≠ .not) :
    ofTokens (k :: ks) =
      match unwrapped? (k :: ks) with
      | some inside => ofTokens inside
      | none =>
        match Token.splitTop isAnd 0 (k :: ks) with
        | (p, q :: more) => .all ((p :: q :: more).map ofTokens)
        | (_, []) =>
          match Token.splitTop isOr 0 (k :: ks) with
          | (p, q :: more) => .any ((p :: q :: more).map ofTokens)
          | (_, []) => simple (k :: ks) := by
  rw [ofTokens.eq_def]
  split
  · rename_i heq; cases heq
  · rename_i heq
    obtain ⟨rfl, -⟩ := List.cons.inj heq
    exact absurd rfl hk
  · split
    · rename_i h
      simp only [h]
    · rename_i h
      simp only [h]
      split
      · rename_i h
        simp only [h]
        rw [List.attach_map_val (f := ofTokens)]
      · rename_i h
        simp only [h]
        split
        · rename_i h
          simp only [h]
          rw [List.attach_map_val (f := ofTokens)]
        · rename_i h
          simp only [h]

/-- What parentheses stand around is the condition in them. -/
theorem exists_of_unwrapped? {ks inside : List Token} (h : unwrapped? ks = some inside) :
    ∃ first last, ks = first :: (inside ++ [last]) := by
  unfold unwrapped? at h
  split at h
  · split at h
    · cases h
    · rename_i hclosing
      obtain rfl := Option.some.inj h
      obtain ⟨last, -, rfl, -⟩ := Token.closing?_eq_some_iff.mp hclosing
      exact ⟨_, last, rfl⟩
    · cases h
  · cases h

/-- The operands of a comparison stand on its two sides. -/
theorem eq_append_of_comparison? {ks left right : List Token} {op : Comparison}
    (h : comparison? ks = some (left, op, right)) : ∃ k, ks = left ++ k :: right := by
  rw [comparison?, Option.or_eq_some_iff] at h
  rcases h with h | ⟨-, h⟩
  · exact Token.eq_append_of_breakTop? h
  · exact Token.eq_append_of_breakTop? h

/-- The parentheses of a call are not taken off. -/
private theorem unwrapped?_call (hname : name.kind = .word n) (hcolon : colon.kind = .colon)
    (ks : List Token) : unwrapped? (first :: name :: colon :: ks) = none := by
  obtain ⟨gap₁, kind₁, source₁⟩ := name
  obtain ⟨gap₂, kind₂, source₂⟩ := colon
  obtain rfl : kind₁ = .word n := hname
  obtain rfl : kind₂ = .colon := hcolon
  unfold unwrapped?
  split
  · rename_i heq
    obtain ⟨-, rfl⟩ := List.cons.inj heq
    split
    · rfl
    · rename_i inside hnot hclosing
      obtain ⟨last, hlast, heq, -⟩ := Token.closing?_eq_some_iff.mp hclosing
      match inside, heq with
      | [], heq =>
        obtain ⟨rfl, -⟩ := List.cons.inj heq
        cases hlast
      | [_], heq =>
        obtain ⟨-, heq⟩ := List.cons.inj heq
        obtain ⟨rfl, -⟩ := List.cons.inj heq
        cases hlast
      | word :: colon :: inside, heq =>
        obtain ⟨hword, heq⟩ := List.cons.inj heq
        obtain ⟨hcolon, -⟩ := List.cons.inj heq
        exact absurd (by rw [← hword, ← hcolon]) (hnot gap₁ n source₁ gap₂ source₂ inside)
    · rfl
  · rfl

section Calls

variable {last : Token} {args : List Token} (hfirst : first.kind = .leftParen)
  (hname : name.kind = .word n) (hcolon : colon.kind = .colon) (hargs : Token.Balanced args)
  (hlast : last.kind = .rightParen)
include hfirst hname hcolon hargs hlast

/-- **A call alone** is the operand that its tokens make. -/
theorem ofTokens_call {e : Expr}
    (h : Expr.ofTokens? (first :: name :: colon :: (args ++ [last])) = some e) :
    ofTokens (first :: name :: colon :: (args ++ [last])) = .truth e := by
  have hinside : Token.Balanced (name :: colon :: args) := by
    rwa [Token.Balanced, Token.depth?_call hname hcolon]
  have hgroup : first :: name :: colon :: (args ++ [last]) =
      first :: (name :: colon :: args ++ [last]) := rfl
  have hcomparison : comparison? (first :: (name :: colon :: args ++ [last])) = none := by
    rw [comparison?, Token.breakTop?_group hfirst hinside rfl, Token.breakTop?_group hfirst hinside rfl]
    rfl
  have hsplit {isSeparator : Token.Kind → Bool} (hparen : isSeparator .leftParen = false) :
      Token.splitTop isSeparator 0 (first :: (name :: colon :: args ++ [last])) =
        (first :: (name :: colon :: args ++ [last]), []) :=
    Token.splitTop_group hfirst hinside hlast hparen []
  rw [ofTokens_of_ne (by rw [hfirst]; exact Token.Kind.noConfusion), unwrapped?_call hname hcolon]
  rw [hgroup] at h ⊢
  simp only [hsplit (show isAnd .leftParen = false from rfl),
    hsplit (show isOr .leftParen = false from rfl), simple, hcomparison, h]

/-- **A call that asks about visited passages** is the condition of its query. -/
theorem ofTokens_visited (hvisited : n.map Char.toLower ∈ Expr.queryNames)
    {q : Query} (hq : Query.ofTokens? args = some q) :
    ofTokens (first :: name :: colon :: (args ++ [last])) = .truth (.visited q) :=
  ofTokens_call hfirst hname hcolon hargs hlast
    (Expr.ofTokens?_visited hfirst hname hvisited hcolon hargs hlast hq)

end Calls

end Condition

end Hyperfiction

import Hyperfiction.Token.Basic

/-!
# Parentheses among tokens

Tokens are grouped by their parentheses: `Token.closing?` finds the one that matches, and
`Token.splitTop` and `Token.breakTop?` look only at tokens outside all parentheses. The depth of the
latter may fall below 0, where they see nothing until it is 0 again.
-/

namespace Hyperfiction.Token

/-- How a token changes the depth of parentheses. -/
def Kind.nesting : Kind → Int
  | .leftParen => 1
  | .rightParen => -1
  | _ => 0

/-- The tokens before and behind the parenthesis that matches an open one, with `inner` more opened
since. -/
def closing? : Nat → List Token → Option (List Token × List Token)
  | _, [] => none
  | inner, k :: ks =>
    match k.kind, inner with
    | .leftParen, n => (closing? (n + 1) ks).map fun p => (k :: p.1, p.2)
    | .rightParen, 0 => some ([], ks)
    | .rightParen, n + 1 => (closing? n ks).map fun p => (k :: p.1, p.2)
    | _, n => (closing? n ks).map fun p => (k :: p.1, p.2)

/-- The tokens up to the first separator outside parentheses, and the parts between the others. -/
def splitTop (isSeparator : Kind → Bool) : Int → List Token → List Token × List (List Token)
  | _, [] => ([], [])
  | depth, k :: ks =>
    if depth = 0 ∧ isSeparator k.kind then
      let rest := splitTop isSeparator depth ks
      ([], rest.1 :: rest.2)
    else
      let rest := splitTop isSeparator (depth + k.kind.nesting) ks
      (k :: rest.1, rest.2)

/-- The first token outside parentheses that a test accepts: the tokens before it, what the test says,
and the tokens behind it. -/
def breakTop? {α : Type} (test : Kind → Option α) :
    Int → List Token → Option (List Token × α × List Token)
  | _, [] => none
  | depth, k :: ks =>
    match (if depth = 0 then test k.kind else none) with
    | some a => some ([], a, ks)
    | none =>
      (breakTop? test (depth + k.kind.nesting) ks).map fun p => (k :: p.1, p.2)

theorem length_closing? {n : Nat} {ks inside rest : List Token}
    (h : closing? n ks = some (inside, rest)) : inside.length + rest.length + 1 = ks.length := by
  induction ks generalizing n inside with
  | nil => simp [closing?] at h
  | cons k ks ih =>
    have hmap {m : Nat}
        (h : (closing? m ks).map (fun p => (k :: p.1, p.2)) = some (inside, rest)) :
        inside.length + rest.length + 1 = (k :: ks).length := by
      simp only [Option.map_eq_some_iff, Prod.mk.injEq, Prod.exists] at h
      obtain ⟨u, v, hc, rfl, rfl⟩ := h
      have := ih hc
      simp only [List.length_cons] at this ⊢
      omega
    simp only [closing?] at h
    split at h
    · exact hmap h
    · simp only [Option.some.injEq, Prod.mk.injEq] at h
      obtain ⟨rfl, rfl⟩ := h
      simp
    · exact hmap h
    · exact hmap h

theorem length_splitTop {isSeparator : Kind → Bool} {depth : Int} {ks : List Token}
    {part : List Token}
    (h : part ∈ (splitTop isSeparator depth ks).1 :: (splitTop isSeparator depth ks).2) :
    part.length + (splitTop isSeparator depth ks).2.length ≤ ks.length := by
  induction ks generalizing depth part with
  | nil => simp_all [splitTop]
  | cons k ks ih =>
    simp only [splitTop] at h ⊢
    split at h
    · rename_i hs
      rw [if_pos hs]
      rcases List.mem_cons.1 h with rfl | h
      · have := @ih depth _ (List.mem_cons_self ..)
        simp only [List.length_cons, List.length_nil] at this ⊢
        omega
      · have := ih h
        simp only [List.length_cons] at this ⊢
        omega
    · rename_i hs
      rw [if_neg hs]
      rcases List.mem_cons.1 h with rfl | h
      · have := @ih (depth + k.kind.nesting) _ (List.mem_cons_self ..)
        simp only [List.length_cons] at this ⊢
        omega
      · have := ih (List.mem_cons_of_mem _ h)
        simp only [List.length_cons] at this ⊢
        omega

end Hyperfiction.Token

import Hyperfiction.Condition.Basic
import Hyperfiction.Expr.Parser

/-!
# Reading conditions

A condition is read by the first rule that fits its tokens: a `not` in front negates all that follows;
parentheses around everything are dropped; an `and` outside parentheses makes parts that all have to
hold; an `or` makes parts of which any has to hold; a comparison has the operands on its two sides, and
words compare before signs; what is left is one operand. Reading never fails: where an operand is none,
the condition is invalid.
-/

namespace Hyperfiction.Condition

/-- The tokens inside, if one pair of parentheses that opens no call stands around all of them. -/
def unwrapped? (ks : List Token) : Option (List Token) :=
  match ks with
  | ⟨_, .leftParen, _⟩ :: ks =>
    match Token.closing? 0 ks with
    | some (⟨_, .word _, _⟩ :: ⟨_, .colon, _⟩ :: _, []) => none
    | some (inside, []) => some inside
    | _ => none
  | _ => none

/-- The comparison of tokens: the first word outside parentheses that compares, else the first sign. -/
def comparison? (ks : List Token) : Option (List Token × Comparison × List Token) :=
  (Token.breakTop? Comparison.ofWord? 0 ks).or (Token.breakTop? Comparison.ofSign? 0 ks)

/-- Is the token `and`? -/
def isAnd : Token.Kind → Bool
  | .and => true
  | _ => false

/-- Is the token `or`? -/
def isOr : Token.Kind → Bool
  | .or => true
  | _ => false

/-- The condition of tokens that no connective joins. -/
def simple (ks : List Token) : Condition :=
  match comparison? ks with
  | some (left, op, right) =>
    match Expr.ofTokens? left, Expr.ofTokens? right with
    | some l, some r => .compare op l r
    | _, _ => .invalid (Token.covered ks)
  | none =>
    match Expr.ofTokens? ks with
    | some e => .truth e
    | none => .invalid (Token.covered ks)

theorem length_lt_of_unwrapped? {ks inside : List Token} (h : unwrapped? ks = some inside) :
    inside.length < ks.length := by
  unfold unwrapped? at h
  split at h
  · split at h
    · simp at h
    · rename_i inside' _ hc
      simp only [Option.some.injEq] at h
      subst h
      have := Token.length_closing? ‹Token.closing? _ _ = some (inside', [])›
      simp only [List.length_cons, List.length_nil] at this ⊢
      omega
    · simp at h
  · simp at h

private theorem length_lt_of_mem_parts {isSeparator : Token.Kind → Bool} {ks p q part : List Token}
    {more : List (List Token)} (h : Token.splitTop isSeparator 0 ks = (p, q :: more))
    (hp : part ∈ p :: q :: more) : part.length < ks.length := by
  have := @Token.length_splitTop isSeparator 0 ks part (by rw [h]; exact hp)
  rw [h] at this
  simp only [List.length_cons] at this
  omega

/-- The condition that tokens make. -/
def ofTokens (ks : List Token) : Condition :=
  match ks with
  | [] => .invalid []
  | ⟨_, .not, _⟩ :: rest => .not (ofTokens rest)
  | ks =>
    match h : unwrapped? ks with
    | some inside =>
      have := length_lt_of_unwrapped? h
      ofTokens inside
    | none =>
      match h : Token.splitTop isAnd 0 ks with
      | (p, q :: more) =>
        .all ((p :: q :: more).attach.map fun part =>
          have := length_lt_of_mem_parts h part.2
          ofTokens part.1)
      | (_, []) =>
        match h : Token.splitTop isOr 0 ks with
        | (p, q :: more) =>
          .any ((p :: q :: more).attach.map fun part =>
            have := length_lt_of_mem_parts h part.2
            ofTokens part.1)
        | (_, []) => simple ks
termination_by ks.length

/-- The condition that a text writes. -/
def ofText (t : Text) : Condition := ofTokens (Token.read t)

end Hyperfiction.Condition

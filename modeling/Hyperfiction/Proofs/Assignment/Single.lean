import Hyperfiction.Proofs.Assignment.Joined
import Hyperfiction.Proofs.Expr.Grammar

/-!
# An assignment of one expression

The tokens of an expression are one segment: outside its parentheses an expression has no comma
(`Assignment.segments_of_ofTokens?`). So a text `$x to e`, where `e` writes an expression, writes one
assignment (`Assignment.ofText_target`), and what it assigns is decided by the expression where that has a form
of its own (`Assignment.ofText_single`).
-/

namespace Hyperfiction

/-- A longer gap in front makes no difference to an expression. -/
theorem Expr.ofTokens?_indent (b : Char) (ks : List Token) :
    ofTokens? (Token.indent b ks) = ofTokens? ks := by
  -- In a buffer the tokens are the same, since the gap before the first is no part of them.
  have hreads : InPlace.Reads (Token.covered ks) (InPlace.TokenAt.list 0 (Token.flush ks)) ks :=
    ⟨[], [], (List.append_nil _).symm, rfl⟩
  have hindent : InPlace.Reads (Token.covered ks) (InPlace.TokenAt.list 0 (Token.flush ks))
      (Token.indent b ks) := by
    cases ks with
    | nil => exact hreads
    | cons k ks => exact hreads
  exact Except.ok.inj ((InPlace.operand_eq hindent).symm.trans (InPlace.operand_eq hreads))

/-- A longer gap in front makes no difference to a right side either. -/
theorem RightSide.ofTokens_indent (b : Char) (ks : List Token) :
    ofTokens (Token.indent b ks) = ofTokens ks := by
  have hcovered : Token.covered (Token.indent b ks) = Token.covered ks := by cases ks <;> rfl
  rw [ofTokens, ofTokens, Expr.ofTokens?_indent, hcovered]

namespace Assignment

open InPlace (segments_of_none isComma_iff)

/-! ### The segment of an expression -/

/-- No assignment begins behind an open parenthesis. -/
theorem segments_of_depth? {n m : Nat} {us : List Token} (h : Token.depth? n us = some m)
    (vs : List Token) :
    segments (n + 1) (us ++ vs) = (us ++ (segments (m + 1) vs).1, (segments (m + 1) vs).2) := by
  induction us generalizing n with
  | nil =>
    obtain rfl : n = m := Option.some.inj h
    rfl
  | cons k us ih =>
    obtain ⟨i, hi, hus⟩ := Option.bind_eq_some_iff.mp h
    have hdepth : (n : Int) + 1 + k.kind.nesting = i + 1 := by
      have := Token.Kind.nesting_of_step? hi
      omega
    rw [List.cons_append, segments_of_none fun hzero => absurd hzero (by omega), hdepth, ih hus]
    rfl

/-- What stands in parentheses is in one segment, commas included. -/
theorem segments_group {first last : Token} {inside : List Token} (hfirst : first.kind = .leftParen)
    (hlast : last.kind = .rightParen) (h : Token.Balanced inside) (vs : List Token) :
    segments 0 (first :: (inside ++ last :: vs)) =
      (first :: (inside ++ last :: (segments 0 vs).1), (segments 0 vs).2) := by
  have hnone : (0 : Int) = 0 → isComma first.kind → target? (inside ++ last :: vs) = none :=
    fun _ hcomma => absurd (isComma_iff.mp hcomma) (by rw [hfirst]; exact Token.Kind.noConfusion)
  have hin := segments_of_depth? h (last :: vs)
  have hlast' : segments ((0 : Nat) + 1) (last :: vs) =
      (last :: (segments 0 vs).1, (segments 0 vs).2) := by
    rw [segments_of_none fun hzero => absurd hzero (by omega), hlast]
    rfl
  rw [hlast'] at hin
  rw [segments_of_none hnone, hfirst]
  exact congrArg (fun p : List Token × List (Text × List Token) => (first :: p.1, p.2)) hin

/-- A token that is neither a comma nor a parenthesis belongs to the segment. -/
theorem segments_cons {k : Token} (hcomma : k.kind ≠ .comma) (hstep : k.kind.step? 0 = some 0)
    (vs : List Token) : segments 0 (k :: vs) = (k :: (segments 0 vs).1, (segments 0 vs).2) := by
  have hnesting := Token.Kind.nesting_of_step? hstep
  rw [Int.natCast_zero] at hnesting
  rw [segments_of_none fun _ hk => absurd (isComma_iff.mp hk) hcomma, hnesting]

end Assignment

namespace Expr

open Assignment (segments segments_group segments_cons)

theorem Level.ne_comma_of_join? {l : Level} {k : Token.Kind} {join : Expr → Expr → Expr}
    (h : l.join? k = some join) : k ≠ .comma := by
  rintro rfl
  cases l <;> cases h

theorem ne_comma_of_leaf? {k : Token.Kind} {e : Expr} (h : leaf? k = some e) : k ≠ .comma := by
  rintro rfl
  cases h

mutual

/-- **No comma of an expression** stands outside its parentheses. -/
theorem Derivation.segments_append : ∀ {s : Symbol} (d : Derivation s) (vs : List Token),
    segments 0 (d.tokens ++ vs) = (d.tokens ++ (segments 0 vs).1, (segments 0 vs).2)
  | _, .row first more, vs => by
    rw [Derivation.tokens, List.append_assoc, first.segments_append, more.segments_append, List.append_assoc]
  | _, .minus sign operand, vs => by
    have hcomma : sign.1.kind ≠ .comma := by rw [sign.2]; exact Token.Kind.noConfusion
    have hstep : sign.1.kind.step? 0 = some 0 := by rw [sign.2]; rfl
    rw [Derivation.tokens, List.cons_append, segments_cons hcomma hstep, operand.segments_append,
      List.cons_append]
  | _, .unsigned operand, vs => operand.segments_append vs
  | _, .leaf k e hk, vs => segments_cons (ne_comma_of_leaf? hk) (step?_of_leaf? hk) vs
  | _, .enclosed left inside right, vs => by
    have h := segments_group left.2 right.2 inside.balanced_tokens vs
    rw [Derivation.tokens, List.cons_append, List.append_assoc]
    exact h.trans (by simp)

/-- Operators and their operands belong to the segment in front of them. -/
theorem Tail.segments_append : ∀ {l : Level} (m : Tail l) (vs : List Token),
    segments 0 (m.tokens ++ vs) = (m.tokens ++ (segments 0 vs).1, (segments 0 vs).2)
  | _, .none, vs => rfl
  | _, .more k join hk operand rest, vs => by
    rw [Tail.tokens, List.cons_append, segments_cons (Level.ne_comma_of_join? hk)
      (Level.step?_of_join? hk), List.append_assoc, operand.segments_append, rest.segments_append]
    simp

end

end Expr

namespace Assignment

/-- **An expression is one segment.** -/
theorem segments_of_ofTokens? {ks : List Token} {e : Expr} (h : Expr.ofTokens? ks = some e) :
    ks ≠ [] ∧ segments 0 ks = (ks, []) := by
  obtain ⟨d, rfl, -⟩ := Expr.exists_derivation h
  have hall := d.segments_append []
  rw [List.append_nil, segments, List.append_nil] at hall
  exact ⟨d.tokens_ne_nil, hall⟩

/-! ### The text of an assignment -/

variable {x t : Text} {e : Expr} (hx : x.IsVariable) (he : Expr.ofText? t = some e)
include hx he

/-- **A text of a target and an expression** writes one assignment, of the right side that the tokens of the
expression make. -/
theorem ofText_target :
    ofText ('$' :: x ++ " to ".toList ++ t) = [⟨x, RightSide.ofTokens (Token.read t)⟩] := by
  have hread : Token.read ('$' :: x ++ " to ".toList ++ t) =
      ⟨[], .var x, '$' :: x⟩ :: ⟨[' '], .to, "to".toList⟩ :: Token.indent ' ' (Token.read t) := by
    have htext : '$' :: x ++ " to ".toList ++ t = '$' :: (x ++ ' ' :: ("to".toList ++ ' ' :: t)) := by
      rw [List.append_assoc]
      rfl
    have hto : Token.read ("to".toList ++ ' ' :: t) =
        ⟨[], .to, "to".toList⟩ :: Token.indent ' ' (Token.read t) :=
      Token.readBehind_keyword (by simp) false t
    rw [htext, Token.read,
      Token.readBehind_variable (Token.blank_ends _) hx, Token.readBehind_blank (by decide), hto]
    rfl
  have hexpr : Expr.ofTokens? (Token.indent ' ' (Token.read t)) = some e :=
    (Expr.ofTokens?_indent ' ' _).trans he
  obtain ⟨hne, hsegments⟩ := segments_of_ofTokens? hexpr
  have hempty : (Token.indent ' ' (Token.read t)).isEmpty = false := List.isEmpty_eq_false_iff.mpr hne
  rw [ofText, hread, ofTokens, target?]
  simp only [hsegments, List.filterMap_cons, List.filterMap_nil, hempty, Bool.false_eq_true, if_false,
    RightSide.ofTokens_indent]

/-- Where the expression has a form of its own, that is the right side. -/
theorem ofText_single {right : RightSide} (hright : RightSide.ofExpr? e = some right) :
    ofText ('$' :: x ++ " to ".toList ++ t) = [⟨x, right⟩] := by
  rw [ofText_target hx he, RightSide.ofTokens, show Expr.ofTokens? (Token.read t) = some e from he,
    Option.bind_some, hright, Option.getD_some]

end Assignment

end Hyperfiction

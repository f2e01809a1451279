import Hyperfiction.Assignment.Run
import Hyperfiction.Proofs.Condition.Asking
import Hyperfiction.Proofs.InPlace.Assignments

/-!
# Assignments behind assignments

A comma with assignments on both sides is the end of the last value before it, if the parentheses of that
value have partners and its quotations are closed: the tokens of the text in front are the same with the
comma behind them, and no parenthesis is open there. So a text of two lists of assignments writes the
assignments of the one and then those of the other (`Assignment.ofText_joined`), whatever commas are in
the values, and it runs the one and then the other.
-/

namespace Hyperfiction

namespace Assignment

open InPlace (segments_of_target? segments_of_none target?_eq_some_iff isComma_iff)

/-- What is behind the `to` of balanced tokens is balanced. -/
theorem balanced_of_target? {ks rest : List Token} {name : Text} (h : target? ks = some (name, rest))
    (hks : Token.Balanced ks) : Token.Balanced rest := by
  obtain ⟨var, behind, rfl, hvar, hto⟩ := target?_eq_some_iff.mp h
  simpa [Token.Balanced, Token.depth?, hvar, hto, Token.Kind.step?] using hks

/-! ### A comma among tokens -/

section Comma

variable {comma : Token} (hcomma : comma.kind = .comma)
include hcomma

/-- A comma is no part of what an assignment begins with. -/
theorem target?_append (us ls : List Token) :
    target? (us ++ comma :: ls) = (target? us).map fun p => (p.1, p.2 ++ comma :: ls) := by
  refine Option.ext fun p => ?_
  obtain ⟨name, more⟩ := p
  rw [target?_eq_some_iff, Option.map_eq_some_iff]
  constructor
  · rintro ⟨var, behind, heq, hvar, hto⟩
    rcases us with _ | ⟨k, _ | ⟨k', us⟩⟩
    · obtain ⟨rfl, -⟩ := List.cons.inj heq
      cases hcomma.symm.trans hvar
    · obtain ⟨-, heq⟩ := List.cons.inj heq
      obtain ⟨rfl, -⟩ := List.cons.inj heq
      cases hcomma.symm.trans hto
    · obtain ⟨hk, heq⟩ := List.cons.inj heq
      obtain ⟨hk', rfl⟩ := List.cons.inj heq
      exact ⟨(name, us), target?_eq_some_iff.mpr ⟨k, k', rfl, hk ▸ hvar, hk' ▸ hto⟩, rfl⟩
  · rintro ⟨⟨name', rest⟩, htarget, heq⟩
    obtain ⟨rfl, rfl⟩ := Prod.mk.inj heq
    obtain ⟨var, behind, rfl, hvar, hto⟩ := target?_eq_some_iff.mp htarget
    exact ⟨var, behind, rfl, hvar, hto⟩

/-- **A comma before an assignment** ends the segment that it stands behind. -/
theorem segments_append {us ls more : List Token} {n : Nat} {name : Text}
    (hus : Token.depth? n us = some 0) (hls : target? ls = some (name, more)) :
    segments n (us ++ comma :: ls) =
      ((segments n us).1,
        (segments n us).2 ++ (name, (segments 0 more).1) :: (segments 0 more).2) := by
  induction hlength : us.length using Nat.strongRecOn generalizing us n with
  | ind l ih =>
    subst hlength
    cases us with
    | nil =>
      obtain rfl : n = 0 := Option.some.inj hus
      rw [List.nil_append, Int.natCast_zero, segments_of_target? ⟨rfl, isComma_iff.mpr hcomma⟩ hls,
        segments, List.nil_append]
    | cons k us =>
      obtain ⟨m, hm, hus⟩ := Option.bind_eq_some_iff.mp hus
      rcases InPlace.comma_cases n k us with ⟨name', rest, ⟨hn, hk⟩, htarget⟩ | hnone
      · -- The assignment that begins here is the same with the comma behind it.
        have htarget' := target?_append hcomma us ls
        rw [htarget, Option.map_some] at htarget'
        obtain rfl : n = 0 := Int.ofNat_eq_zero.mp hn
        have hm' : k.kind.step? 0 = some 0 := by rw [isComma_iff.mp hk]; rfl
        obtain rfl : m = 0 := Option.some.inj (hm.symm.trans hm')
        have hrest : Token.depth? 0 rest = some 0 := balanced_of_target? htarget hus
        have hlt := length_lt_of_target? htarget
        rw [List.cons_append, segments_of_target? ⟨hn, hk⟩ htarget', segments_of_target? ⟨hn, hk⟩ htarget]
        have := ih rest.length (Nat.lt_succ_of_lt hlt) hrest rfl
        rw [Int.natCast_zero] at this
        rw [Int.natCast_zero, this]
        rfl
      · -- No assignment begins here, with the comma behind or without it: the token goes to the segment.
        have hnone' : (n : Int) = 0 → isComma k.kind → target? (us ++ comma :: ls) = none := by
          intro hn hk
          rw [target?_append hcomma, hnone hn hk, Option.map_none]
        rw [List.cons_append, segments_of_none hnone', segments_of_none hnone,
          Token.Kind.nesting_of_step? hm, ih us.length (Nat.lt_succ_self _) hus rfl]

/-- **Assignments of tokens are those of the parts** that a comma at top level joins. -/
theorem ofTokens_append {ks ls : List Token} (hks : (target? ks).isSome) (hbalanced : Token.Balanced ks)
    (hls : (target? ls).isSome) : ofTokens (ks ++ comma :: ls) = ofTokens ks ++ ofTokens ls := by
  obtain ⟨⟨name, rest⟩, htarget⟩ := Option.isSome_iff_exists.mp hks
  obtain ⟨⟨name', more⟩, htarget'⟩ := Option.isSome_iff_exists.mp hls
  have hsegments := segments_append hcomma (balanced_of_target? htarget hbalanced) htarget'
  rw [Int.natCast_zero] at hsegments
  have hjoined : target? (ks ++ comma :: ls) = some (name, rest ++ comma :: ls) := by
    rw [target?_append hcomma, htarget, Option.map_some]
  rw [ofTokens, ofTokens, ofTokens, hjoined, htarget, htarget']
  simp only [hsegments]
  rw [← List.cons_append, List.filterMap_append]

end Comma

/-! ### A comma in a text -/

theorem target?_indent (b : Char) (ks : List Token) : target? (Token.indent b ks) = target? ks := by
  refine Option.ext fun p => ?_
  obtain ⟨name, more⟩ := p
  rw [target?_eq_some_iff, target?_eq_some_iff]
  cases ks with
  | nil => rfl
  | cons k ks =>
    constructor
    · rintro ⟨var, behind, heq, hvar, hto⟩
      obtain ⟨rfl, rfl⟩ := List.cons.inj heq
      exact ⟨k, behind, rfl, hvar, hto⟩
    · rintro ⟨var, behind, heq, hvar, hto⟩
      obtain ⟨rfl, rfl⟩ := List.cons.inj heq
      exact ⟨_, behind, rfl, hvar, hto⟩

theorem ofTokens_indent (b : Char) (ks : List Token) : ofTokens (Token.indent b ks) = ofTokens ks := by
  rw [ofTokens, ofTokens, target?_indent]

/-- Assignments that run in order can be cut anywhere. -/
theorem runAll_append (words : Words) (as bs : List Assignment) :
    runAll words (as ++ bs) = (do runAll words as; runAll words bs) := by
  induction as with
  | nil => rfl
  | cons a as ih =>
    rw [List.cons_append, runAll, runAll, ih, bind_assoc]

/-- **A text of two lists of assignments** writes the one and then the other, and so it runs them. -/
theorem ofText_joined {a b : Text} (ha : (target? (Token.read a)).isSome)
    (henclosable : Token.Enclosable (Token.read a)) (hb : (target? (Token.read b)).isSome) :
    ofText (a ++ ", ".toList ++ b) = ofText a ++ ofText b ∧
      ∀ words, runText words (a ++ ", ".toList ++ b) = (do runText words a; runText words b) := by
  obtain ⟨gap, hcomma⟩ := Token.readBehind_followed
    (Token.isSeparator_of_mem (show ',' ∈ _ by simp)) henclosable.1 (' ' :: b)
  rw [Token.readBehind_blank (by decide)] at hcomma
  have hread : Token.read (a ++ ", ".toList ++ b) =
      Token.read a ++ ⟨gap, .comma, [',']⟩ :: Token.indent ' ' (Token.read b) := by
    rw [List.append_assoc]
    exact hcomma
  have hjoined : ofText (a ++ ", ".toList ++ b) = ofText a ++ ofText b := by
    rw [ofText, hread, ofTokens_append rfl ha henclosable.2 (by rwa [target?_indent]), ofTokens_indent]
    rfl
  refine ⟨hjoined, fun words => ?_⟩
  rw [runText, hjoined, runAll_append]
  rfl

/-- A comma in a call, and one in quotes, join nothing. -/
theorem ofText_joined_call :
    ofText "$a to (a: 1, $b), $b to 'x, $c to'".toList =
        ofText "$a to (a: 1, $b)".toList ++ ofText "$b to 'x, $c to'".toList ∧
      ∀ words, runText words "$a to (a: 1, $b), $b to 'x, $c to'".toList =
        (do runText words "$a to (a: 1, $b)".toList; runText words "$b to 'x, $c to'".toList) :=
  @ofText_joined "$a to (a: 1, $b)".toList "$b to 'x, $c to'".toList (by decide +kernel)
    (by decide +kernel) (by decide +kernel)

end Assignment

end Hyperfiction

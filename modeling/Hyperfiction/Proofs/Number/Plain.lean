import Hyperfiction.Proofs.Text.Ends
import Hyperfiction.Token.Lexer

/-!
# Plain decimals as they are written

A **literal** is a plain decimal as it is written (`Number.Literal`): a sign if any, digits, and a point if there
are digits behind it. A number is read off a text exactly if the text is a literal with blanks around it, and it
is the number of that literal (`Number.ofText?_iff_literal`).

Whether a text is a literal can also be found out in one pass over its characters: behind the sign there has to
be something that neither begins nor ends with a point, of digits and one point at most (`Number.isPlain_iff`).
-/

namespace Hyperfiction

namespace Number

/-- The sign of a number. -/
inductive Sign where
  | plus
  | minus
deriving DecidableEq

/-- The sign as it is written. -/
def Sign.char : Sign → Char
  | plus => '+'
  | minus => '-'

/-- The sign that a text begins with. -/
def sign? : Text → Option Sign
  | '-' :: _ => some .minus
  | '+' :: _ => some .plus
  | _ => none

/-- The text behind its sign, if it begins with one. -/
def behindSign : Text → Text
  | '-' :: t => t
  | '+' :: t => t
  | t => t

/-- The number with a sign, and with digits before and behind the point: all of them, and as many places as
there are behind it. -/
def ofSigned (sign : Option Sign) (digits : Text × Text) : Float :=
  let magnitude := Float.ofScientific (Text.digitsValue (digits.1 ++ digits.2)) true digits.2.length
  match sign with
  | some .minus => -magnitude
  | some .plus | none => magnitude

/-- A plain decimal: a sign if any, digits, and a point if there are digits behind it. -/
structure Literal where
  sign : Option Sign
  whole : Text
  fraction : Text
  isDigit : ∀ c ∈ whole ++ fraction, c.isDigit
  whole_ne_nil : whole ≠ []

namespace Literal

/-- The literal without its sign. -/
def unsigned (l : Literal) : Text := l.whole ++ Token.pointed l.fraction

/-- The literal as it is written. -/
def text (l : Literal) : Text := (l.sign.map Sign.char).toList ++ l.unsigned

/-- The number of the literal. -/
def value (l : Literal) : Float := ofSigned l.sign (l.whole, l.fraction)

theorem exists_unsigned_eq_cons (l : Literal) : ∃ c t, l.unsigned = c :: t ∧ c.isDigit := by
  obtain ⟨sign, whole, fraction, hdigit, hne⟩ := l
  cases whole with
  | nil => exact absurd rfl hne
  | cons c whole => exact ⟨c, _, rfl, hdigit c List.mem_cons_self⟩

theorem isDigit_of_mem_getLast? (l : Literal) : ∀ c ∈ l.unsigned.getLast?, c.isDigit := by
  obtain ⟨hwhole, hfraction⟩ := List.forall_mem_append.mp l.isDigit
  intro c hc
  rw [unsigned, Token.pointed] at hc
  split at hc
  · rw [List.append_nil] at hc
    exact hwhole c (List.mem_of_getLast? hc)
  · rename_i hne
    rw [List.append_cons, List.getLast?_append_of_ne_nil _ hne] at hc
    exact hfraction c (List.mem_of_getLast? hc)

/-- A literal is of signs, points and digits, of which none is a blank. -/
theorem isBlank_of_mem_text {l : Literal} {c : Char} (hc : c ∈ l.text) : Text.isBlank c = false := by
  rw [text, unsigned, Token.pointed] at hc
  rcases List.mem_append.mp hc with hsign | hunsigned
  · obtain ⟨s, -, rfl⟩ := Option.map_eq_some_iff.mp (Option.mem_toList.mp hsign)
    cases s <;> decide
  · rcases List.mem_append.mp hunsigned with hwhole | hfraction
    · exact Text.isBlank_of_isDigit (l.isDigit c (List.mem_append_left _ hwhole))
    · split at hfraction
      · cases hfraction
      · rcases List.mem_cons.mp hfraction with rfl | hc
        · decide
        · exact Text.isBlank_of_isDigit (l.isDigit c (List.mem_append_right _ hc))

/-- A number is written without blanks around it. -/
theorem trim_text (l : Literal) : Text.trim l.text = l.text := Text.trim_of_not_blank fun _ => isBlank_of_mem_text

end Literal

/-! ### Signs -/

/-- A text is its sign and what stands behind it. -/
theorem eq_append_behindSign (t : Text) : t = ((sign? t).map Sign.char).toList ++ behindSign t := by
  unfold sign? behindSign
  split <;> rfl

/-- A digit in front is no sign. -/
theorem noSign_of_isDigit {c : Char} (hc : c.isDigit) (t : Text) :
    sign? (c :: t) = none ∧ behindSign (c :: t) = c :: t := by
  have hminus : c ≠ '-' := by
    rintro rfl
    cases hc
  have hplus : c ≠ '+' := by
    rintro rfl
    cases hc
  simp [sign?, behindSign, hminus, hplus]

/-- A literal falls into its sign and the rest. -/
theorem Literal.split_text (l : Literal) : sign? l.text = l.sign ∧ behindSign l.text = l.unsigned := by
  obtain ⟨c, t, hcons, hc⟩ := l.exists_unsigned_eq_cons
  rw [Literal.text]
  cases l.sign with
  | none =>
    rw [Option.map_none, Option.toList_none, List.nil_append, hcons]
    exact noSign_of_isDigit hc t
  | some s => cases s <;> exact ⟨rfl, rfl⟩

/-! ### Reading -/

/-- **Digits with a point and digits behind it, or without**, are all that is read for a number without sign. -/
theorem unsigned?_eq_some_iff {t whole fraction : Text} :
    unsigned? t = some (whole, fraction) ↔
      (∀ c ∈ whole ++ fraction, c.isDigit) ∧ whole ≠ [] ∧ t = whole ++ Token.pointed fraction := by
  constructor
  · intro h
    have hsplit := List.takeWhile_append_dropWhile (p := Char.isDigit) (l := t)
    have hdigit (c : Char) (hc : c ∈ t.takeWhile Char.isDigit) : c.isDigit := List.mem_takeWhile_imp hc
    simp only [unsigned?, List.isEmpty_iff] at h
    split at h
    · cases h
    · rename_i hne
      split at h
      · rename_i hrest
        obtain ⟨rfl, rfl⟩ := Prod.mk.inj (Option.some.inj h)
        rw [hrest] at hsplit
        exact ⟨by rwa [List.append_nil], hne, hsplit.symm⟩
      · rename_i c rest hrest
        split at h
        · rename_i hpoint
          obtain ⟨rfl, rfl⟩ := Prod.mk.inj (Option.some.inj h)
          simp only [Bool.and_eq_true, beq_iff_eq, Bool.not_eq_true', List.isEmpty_eq_false_iff,
            List.all_eq_true] at hpoint
          obtain ⟨⟨rfl, hfraction⟩, hall⟩ := hpoint
          rw [hrest] at hsplit
          rw [Token.pointed, if_neg hfraction]
          exact ⟨List.forall_mem_append.mpr ⟨hdigit, hall⟩, hne, hsplit.symm⟩
        · cases h
  · rintro ⟨hdigit, hne, rfl⟩
    obtain ⟨hwhole, hfraction⟩ := List.forall_mem_append.mp hdigit
    have htake : (whole ++ Token.pointed fraction).takeWhile Char.isDigit = whole := by
      rw [List.takeWhile_append_of_pos hwhole, Token.pointed]
      split <;> simp
    have hdrop : (whole ++ Token.pointed fraction).dropWhile Char.isDigit = Token.pointed fraction := by
      rw [List.dropWhile_append_of_pos hwhole, Token.pointed]
      split <;> simp
    simp only [unsigned?, htake, hdrop, List.isEmpty_iff, hne, if_false]
    rw [Token.pointed]
    cases fraction with
    | nil => rfl
    | cons c fraction => simpa using hfraction

/-- The sign is read first, of the text without the blanks around it. -/
theorem ofText?_eq (t : Text) :
    ofText? t = (unsigned? (behindSign (Text.trim t))).map (ofSigned (sign? (Text.trim t))) := by
  simp only [ofText?, ofDigits_eq]
  generalize Text.trim t = u
  split
  · rfl
  · rfl
  · rename_i hminus hplus
    rw [sign?.eq_3 u hminus hplus, behindSign.eq_3 u hminus hplus]
    rfl

/-- **A number is read** off a text that is a literal when it is trimmed. -/
theorem ofText?_eq_some_iff {t : Text} {x : Float} :
    ofText? t = some x ↔ ∃ l : Literal, Text.trim t = l.text ∧ l.value = x := by
  rw [ofText?_eq, Option.map_eq_some_iff]
  constructor
  · rintro ⟨⟨whole, fraction⟩, hu, hx⟩
    obtain ⟨hdigit, hne, hu⟩ := unsigned?_eq_some_iff.mp hu
    refine ⟨⟨sign? (Text.trim t), whole, fraction, hdigit, hne⟩, ?_, hx⟩
    rw [Literal.text, Literal.unsigned, ← hu]
    exact eq_append_behindSign _
  · rintro ⟨l, ht, rfl⟩
    rw [ht, l.split_text.1, l.split_text.2]
    exact ⟨(l.whole, l.fraction), unsigned?_eq_some_iff.mpr ⟨l.isDigit, l.whole_ne_nil, rfl⟩, rfl⟩

/-- **A literal is read back** as its number. -/
theorem Literal.ofText?_text (l : Literal) : ofText? l.text = some l.value :=
  ofText?_eq_some_iff.mpr ⟨l, l.trim_text, rfl⟩

/-! ### Testing -/

/-- Is the text a literal? -/
def IsPlain (t : Text) : Prop := ∃ l : Literal, t = l.text

/-- Is the text of digits and one point at most? `pointed` says that a point stands before it. -/
def isDigits (pointed : Bool) : Text → Bool
  | [] => true
  | c :: t => if c.isDigit then isDigits pointed t else c == '.' && !pointed && isDigits true t

/-- A test of a text in one pass over what stands behind its sign, once its ends are known to be no points. -/
def isPlain (t : Text) : Bool :=
  let u := behindSign t
  !u.isEmpty && u.head? != some '.' && u.getLast? != some '.' && isDigits false u

/-- A text is of digits if all its characters are. -/
theorem isDigits_true_iff {t : Text} : isDigits true t ↔ ∀ c ∈ t, c.isDigit := by
  induction t with
  | nil => exact iff_of_true rfl nofun
  | cons c t ih =>
    rw [isDigits, List.forall_mem_cons]
    cases hc : c.isDigit with
    | true => simpa using ih
    | false => simp

/-- Behind no point there are digits only, or digits with a point between them, before them or behind them. -/
theorem isDigits_false_iff {t : Text} :
    isDigits false t ↔ ∃ whole rest, (∀ c ∈ whole, c.isDigit) ∧ t = whole ++ rest ∧
      (rest = [] ∨ ∃ fraction, rest = '.' :: fraction ∧ ∀ c ∈ fraction, c.isDigit) := by
  induction t with
  | nil => exact iff_of_true rfl ⟨[], [], nofun, rfl, .inl rfl⟩
  | cons c t ih =>
    rw [isDigits]
    cases hc : c.isDigit with
    | true =>
      rw [if_pos rfl, ih]
      constructor
      · rintro ⟨whole, rest, hwhole, rfl, hrest⟩
        exact ⟨c :: whole, rest, List.forall_mem_cons.mpr ⟨hc, hwhole⟩, rfl, hrest⟩
      · rintro ⟨whole, rest, hwhole, ht, hrest⟩
        cases whole with
        | nil =>
          -- What begins with the digit is neither empty nor begins with a point.
          rcases hrest with rfl | ⟨fraction, rfl, -⟩
          · cases ht
          · rw [(List.cons.inj ht).1] at hc
            cases hc
        | cons d whole =>
          obtain ⟨rfl, rfl⟩ := List.cons.inj ht
          exact ⟨whole, rest, (List.forall_mem_cons.mp hwhole).2, rfl, hrest⟩
    | false =>
      rw [if_neg Bool.false_ne_true, Bool.not_false, Bool.and_true, Bool.and_eq_true, beq_iff_eq, isDigits_true_iff]
      constructor
      · rintro ⟨rfl, hfraction⟩
        exact ⟨[], '.' :: t, nofun, rfl, .inr ⟨t, rfl, hfraction⟩⟩
      · rintro ⟨whole, rest, hwhole, ht, hrest⟩
        cases whole with
        | nil =>
          rcases hrest with rfl | ⟨fraction, rfl, hfraction⟩
          · cases ht
          · obtain ⟨rfl, rfl⟩ := List.cons.inj ht
            exact ⟨rfl, hfraction⟩
        | cons d whole =>
          obtain ⟨rfl, -⟩ := List.cons.inj ht
          rw [hwhole c List.mem_cons_self] at hc
          cases hc

/-- What neither begins nor ends with a point has digits on both sides of it. -/
theorem exists_pointed_of_isDigits {t : Text} (hne : t ≠ []) (hhead : t.head? ≠ some '.')
    (hlast : t.getLast? ≠ some '.') (h : isDigits false t) :
    ∃ whole fraction, (∀ c ∈ whole ++ fraction, c.isDigit) ∧ whole ≠ [] ∧
      t = whole ++ Token.pointed fraction := by
  obtain ⟨whole, rest, hwhole, rfl, hrest⟩ := isDigits_false_iff.mp h
  rcases hrest with rfl | ⟨fraction, rfl, hfraction⟩
  · rw [List.append_nil] at hne
    exact ⟨whole, [], by rwa [List.append_nil], hne, rfl⟩
  · have hwhole_ne : whole ≠ [] := by
      rintro rfl
      exact hhead rfl
    have hfraction_ne : fraction ≠ [] := by
      rintro rfl
      exact hlast List.getLast?_concat
    refine ⟨whole, fraction, List.forall_mem_append.mpr ⟨hwhole, hfraction⟩, hwhole_ne, ?_⟩
    rw [Token.pointed, if_neg hfraction_ne]

theorem Literal.isDigits_unsigned (l : Literal) : isDigits false l.unsigned := by
  obtain ⟨hwhole, hfraction⟩ := List.forall_mem_append.mp l.isDigit
  refine isDigits_false_iff.mpr ⟨l.whole, Token.pointed l.fraction, hwhole, rfl, ?_⟩
  rw [Token.pointed]
  split
  · exact .inl rfl
  · exact .inr ⟨l.fraction, rfl, hfraction⟩

/-- **The test** finds out whether a text is a literal. -/
theorem isPlain_iff {t : Text} : isPlain t ↔ IsPlain t := by
  simp only [isPlain, Bool.and_eq_true, Bool.not_eq_true', List.isEmpty_eq_false_iff, bne_iff_ne, ne_eq,
    and_assoc]
  constructor
  · rintro ⟨hne, hhead, hlast, hdigits⟩
    obtain ⟨whole, fraction, hdigit, hwhole, hu⟩ := exists_pointed_of_isDigits hne hhead hlast hdigits
    refine ⟨⟨sign? t, whole, fraction, hdigit, hwhole⟩, ?_⟩
    rw [Literal.text, Literal.unsigned, ← hu]
    exact eq_append_behindSign t
  · rintro ⟨l, rfl⟩
    obtain ⟨c, u, hcons, hc⟩ := l.exists_unsigned_eq_cons
    rw [l.split_text.2]
    refine ⟨?_, ?_, fun hlast => ?_, l.isDigits_unsigned⟩
    · rw [hcons]
      exact List.cons_ne_nil c u
    · rw [hcons, List.head?_cons, Option.some.injEq]
      rintro rfl
      cases hc
    · cases l.isDigit_of_mem_getLast? '.' hlast

instance : DecidablePred IsPlain := fun _ => decidable_of_iff _ isPlain_iff

/-- Exponents, words, points at an end, second signs and points and blanks inside are no part of a literal. -/
example : IsPlain "-03.50".toList ∧ IsPlain "+7".toList ∧
    ∀ t ∈ ["", "+", "1e5", "inf", "NaN", ".5", "5.", "-.5", "--5", "+-5", "5-", "1.2.3", "1..2", "1 2"],
      ¬ IsPlain t.toList := by
  decide

/-- **The texts that are numbers** are those that are literals when they are trimmed: literals with blanks around
them, and each is read as the number of its literal. -/
theorem ofText?_iff_literal (t : Text) :
    ((ofText? t).isSome ↔ IsPlain (Text.trim t)) ∧
      ∀ x, ofText? t = some x ↔ ∃ (b u : Text) (l : Literal), (∀ c ∈ b, Text.isBlank c) ∧
        (∀ c ∈ u, Text.isBlank c) ∧ t = b ++ l.text ++ u ∧ l.value = x := by
  refine ⟨?_, fun x => ?_⟩
  · rw [Option.isSome_iff_exists]
    constructor
    · rintro ⟨x, hx⟩
      obtain ⟨l, ht, -⟩ := ofText?_eq_some_iff.mp hx
      exact ⟨l, ht⟩
    · rintro ⟨l, ht⟩
      exact ⟨l.value, ofText?_eq_some_iff.mpr ⟨l, ht, rfl⟩⟩
  · rw [ofText?_eq_some_iff]
    constructor
    · rintro ⟨l, ht, hx⟩
      obtain ⟨b, u, hsplit, hb, hu⟩ := Text.exists_trim t
      rw [ht] at hsplit
      exact ⟨b, u, l, hb, hu, hsplit, hx⟩
    · rintro ⟨b, u, l, hb, hu, rfl, hx⟩
      exact ⟨l, (Text.trim_between_blanks hb l.text hu).trans l.trim_text, hx⟩

end Number

end Hyperfiction

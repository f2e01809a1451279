import Mathlib.Data.List.TakeWhile
import Hyperfiction.Proofs.Text.Ends
import Hyperfiction.Token.Lexer

/-!
# Tokens with a separator behind them

The argument of a macro is read by itself in one place and with its closing parenthesis behind it in
another; the same holds of a part of a condition, and of a value in front of a comma. The tokens are the
same as long as the quotations among them are closed (`Token.readBehind_followed`): no other token goes on
into a character that separates (`Token.IsSeparator`). A quotation that is not closed takes the parenthesis
in, and it is the last token then (`Token.readBehind_open`).
-/

namespace Hyperfiction

/-! ### Characters of ASCII -/

namespace Text

theorem inRanges_of_lt {ranges : List (Nat × Nat)} {n : Nat} (h : ∀ r ∈ ranges, n < r.1) :
    inRanges ranges n = false := by
  rw [Bool.eq_false_iff]
  intro hin
  obtain ⟨r, hr, hlow, -⟩ := inRanges_iff.mp hin
  exact absurd (h r hr) (Nat.not_lt.mpr hlow)

/-- Before U+00AA only the ASCII letters are letters. -/
theorem isLetter_of_lt {c : Char} (h : c.toNat < 170) : isLetter c = c.isAlpha := by
  have hfirst : ∀ r ∈ letterRanges, 170 ≤ r.1 := by decide +kernel
  rw [isLetter, inRanges_of_lt fun r hr => h.trans_le (hfirst r hr), Bool.or_false]

/-- Before U+00B2 only the ASCII digits are numerals. -/
theorem isNumeral_of_lt {c : Char} (h : c.toNat < 178) : isNumeral c = c.isDigit := by
  have hfirst : ∀ r ∈ numeralRanges, 178 ≤ r.1 := by decide +kernel
  rw [isNumeral, inRanges_of_lt fun r hr => h.trans_le (hfirst r hr), Bool.or_false]

end Text

namespace Token

/-- Below the first letter beyond ASCII, a word starts with a letter or an underscore. -/
theorem startsWord_of_lt {c : Char} (h : c.toNat < 170) : startsWord c = (c.isAlpha || c == '_') := by
  rw [startsWord, Text.isLetter_of_lt h]

theorem continuesWord_of_lt {c : Char} (h : c.toNat < 170) :
    continuesWord c = (c.isAlphanum || c == '_') := by
  rw [continuesWord, Text.isLetter_of_lt h, Text.isNumeral_of_lt (by omega), Char.isAlphanum]

/-! ### Quotations -/

/-- The text of a quotation. -/
def Kind.quoted? : Kind → Option Text
  | .quoted t => some t
  | _ => none

/-- The token is no quotation, or one with both of its quotes. -/
def IsClosed (k : Token) : Prop := ∀ t ∈ k.kind.quoted?, k.source.length = t.length + 2

instance (k : Token) : Decidable k.IsClosed :=
  inferInstanceAs (Decidable (∀ t ∈ k.kind.quoted?, k.source.length = t.length + 2))

/-- A token is closed if no quotation in it lacks its quote at the end. -/
theorem isClosed_iff {k : Token} :
    k.IsClosed ↔ ∀ t, k.kind = .quoted t → k.source.length = t.length + 2 := by
  have hquoted (t : Text) : t ∈ k.kind.quoted? ↔ k.kind = .quoted t := by
    cases k.kind <;> simp [Kind.quoted?]
  simp only [IsClosed, hquoted]

/-- The character goes on no token but a quotation, and is a token by itself. -/
structure IsSeparator (s : Char) : Prop where
  notInWord : continuesWord s = false
  notBlank : Text.isBlank s = false
  notDigit : Char.isDigit s = false
  ne_equals : s ≠ '='
  ne_point : s ≠ '.'
  alone : ∀ (touches : Bool) (u : Text), readOne touches s u = ⟨kindOfSign s, [s], u⟩

/-- Parentheses, commas and colons separate. -/
theorem isSeparator_of_mem {s : Char} (h : s ∈ ['(', ')', ',', ':']) : IsSeparator s := by
  simp only [List.mem_cons, List.not_mem_nil, or_false] at h
  have hlow : s.toNat < 170 := by rcases h with rfl | rfl | rfl | rfl <;> decide
  have hstart := startsWord_of_lt hlow
  have hword := continuesWord_of_lt hlow
  refine ⟨hword.trans ?_, ?_, ?_, ?_, ?_, fun touches u => ?_⟩
  · rcases h with rfl | rfl | rfl | rfl <;> decide
  · rcases h with rfl | rfl | rfl | rfl <;> decide
  · rcases h with rfl | rfl | rfl | rfl <;> decide
  · rcases h with rfl | rfl | rfl | rfl <;> decide
  · rcases h with rfl | rfl | rfl | rfl <;> decide
  · rcases h with rfl | rfl | rfl | rfl <;> simp [readOne, hstart]

theorem isSeparator_paren : IsSeparator ')' := isSeparator_of_mem (by simp)

/-! ### Stretches of characters -/

section Stretches

variable {p : Char → Bool} {s : Char} (hp : p s = false)
include hp

/-- What is taken in front of a separator does not depend on what follows. -/
private theorem takeWhile_followed (t u : Text) : (t ++ s :: u).takeWhile p = t.takeWhile p := by
  induction t with
  | nil => exact List.takeWhile_cons_of_neg (by simp [hp])
  | cons c t ih =>
    rw [List.cons_append, List.takeWhile_cons, List.takeWhile_cons, ih]

private theorem dropWhile_followed (t u : Text) :
    (t ++ s :: u).dropWhile p = t.dropWhile p ++ s :: u := by
  induction t with
  | nil => exact List.dropWhile_cons_of_neg (by simp [hp])
  | cons c t ih =>
    rw [List.cons_append, List.dropWhile_cons, List.dropWhile_cons, ih]
    split <;> rfl

private theorem any_head?_followed (t u : Text) : (t ++ s :: u).head?.any p = t.head?.any p := by
  cases t with
  | nil => simp [hp]
  | cons c t => rfl

end Stretches

/-! ### One token -/

/-- The token with more text behind it. -/
def Lexeme.before (x : Lexeme) (u : Text) : Lexeme := { x with rest := x.rest ++ u }

private theorem eq_of_dropWhile {c d : Char} {t rest : Text} (h : t.dropWhile (· ≠ c) = d :: rest) :
    d = c := by
  have hne : t.dropWhile (· ≠ c) ≠ [] := by rw [h]; exact List.cons_ne_nil d rest
  have hhead := List.head_dropWhile_not (· ≠ c) hne
  simp only [h, List.head_cons] at hhead
  simpa using hhead

/-- A quotation that is closed is closed by the same quote whatever follows. -/
private theorem quotation_append {c d : Char} {t rest : Text} (h : t.dropWhile (· ≠ c) = d :: rest)
    (v : Text) :
    (t ++ v).takeWhile (· ≠ c) = t.takeWhile (· ≠ c) ∧
      (t ++ v).dropWhile (· ≠ c) = d :: rest ++ v := by
  have ht : t = t.takeWhile (· ≠ c) ++ d :: rest := by
    rw [← h, List.takeWhile_append_dropWhile]
  have hall : ∀ x ∈ t.takeWhile (· ≠ c), decide (x ≠ c) = true := fun x hx =>
    List.mem_takeWhile_imp (p := fun x => decide (x ≠ c)) hx
  generalize t.takeWhile (· ≠ c) = body at ht hall ⊢
  rw [ht, List.append_assoc, List.takeWhile_append_of_pos hall, List.dropWhile_append_of_pos hall,
    List.cons_append, List.takeWhile_cons_of_neg (by simp [eq_of_dropWhile h]),
    List.dropWhile_cons_of_neg (by simp [eq_of_dropWhile h]), List.append_nil]
  exact ⟨rfl, rfl⟩

section Separated

variable {s : Char} (hs : IsSeparator s)
include hs

/-- The next word does not depend on what follows a separator. -/
private theorem nextWord?_followed (t u : Text) :
    nextWord? (t ++ s :: u) = (nextWord? t).map fun p => (p.1, p.2.1, p.2.2 ++ s :: u) := by
  simp only [nextWord?, takeWhile_followed hs.notBlank, dropWhile_followed hs.notBlank,
    takeWhile_followed hs.notInWord, dropWhile_followed hs.notInWord]
  split <;> rfl

private theorem takeFraction_followed (t u : Text) :
    takeFraction (t ++ s :: u) = ((takeFraction t).1, (takeFraction t).2 ++ s :: u) := by
  cases t with
  | nil => simp [takeFraction, hs.ne_point]
  | cons c t =>
    simp only [List.cons_append, takeFraction, takeWhile_followed hs.notDigit,
      dropWhile_followed hs.notDigit]
    split <;> rfl

private theorem takeOrdinal_followed (t u : Text) :
    takeOrdinal (t ++ s :: u) = ((takeOrdinal t).1, (takeOrdinal t).2 ++ s :: u) := by
  simp only [takeOrdinal, takeWhile_followed hs.notInWord, dropWhile_followed hs.notInWord]
  split <;> rfl

/-- **A number does not depend on what follows a separator.** -/
private theorem readNumber_followed (t u : Text) :
    readNumber (t ++ s :: u) = (readNumber t).before (s :: u) := by
  simp only [readNumber, takeWhile_followed hs.notDigit, dropWhile_followed hs.notDigit,
    takeFraction_followed hs, takeOrdinal_followed hs]
  rfl

private theorem readWord_followed (t u : Text) :
    readWord (t ++ s :: u) = (readWord t).before (s :: u) := by
  simp only [readWord, takeWhile_followed hs.notInWord,
    dropWhile_followed hs.notInWord, nextWord?_followed hs]
  generalize t.takeWhile continuesWord = w
  generalize t.dropWhile continuesWord = rest
  split
  · cases nextWord? rest with
    | none => rfl
    | some p =>
      dsimp only [Option.map_some]
      split <;> rfl
  · split
    · cases nextWord? rest with
      | none => rfl
      | some p =>
        dsimp only [Option.map_some]
        split
        · rw [nextWord?_followed hs]
          cases nextWord? p.2.2 with
          | none => rfl
          | some p' =>
            dsimp only [Option.map_some]
            split <;> rfl
        · rfl
    · rfl

private theorem isPossessive_followed (t u : Text) : isPossessive (t ++ s :: u) = isPossessive t := by
  match t with
  | [] =>
    have hne : s ≠ 's' := by
      rintro rfl
      exact absurd hs.notInWord (by rw [continuesWord_of_lt (by decide)]; decide)
    simp [isPossessive, hne]
  | [c] =>
    by_cases hc : c = 's'
    · subst hc
      simp [isPossessive, hs.notInWord]
    · simp [isPossessive, hc]
  | c :: d :: t =>
    by_cases hc : c = 's'
    · subst hc
      rfl
    · simp [isPossessive, hc]

private theorem head?_followed (t u : Text) :
    (t ++ s :: u).head? = some '=' ↔ t.head? = some '=' := by
  cases t with
  | nil => simp [hs.ne_equals]
  | cons d t => rfl

/-- **A token goes on into a separator** only if it is a quotation that is not closed. -/
theorem readOne_followed {touches : Bool} {c : Char} {t : Text}
    (h : ∀ body, (readOne touches c t).kind = .quoted body →
      (readOne touches c t).source.length = body.length + 2) (u : Text) :
    readOne touches c (t ++ s :: u) = (readOne touches c t).before (s :: u) := by
  unfold readOne at h ⊢
  simp only [takeWhile_followed hs.notInWord, dropWhile_followed hs.notInWord,
    isPossessive_followed hs, any_head?_followed hs.notDigit, ← List.cons_append,
    readNumber_followed hs, readWord_followed hs, head?_followed hs] at h ⊢
  by_cases hdollar : c = '$'
  · simp only [if_pos hdollar]
    split <;> rfl
  by_cases hpossessive : c = '\'' ∧ touches ∧ isPossessive t
  · simp only [if_neg hdollar, if_pos hpossessive]
    obtain ⟨v, rfl⟩ : ∃ v, t = 's' :: v := ⟨_, eq_cons_of_isPossessive hpossessive.2.2⟩
    rfl
  by_cases hquote : c = '"' ∨ c = '\''
  · simp only [if_neg hdollar, if_neg hpossessive, if_pos hquote] at h ⊢
    cases hrest : t.dropWhile (· ≠ c) with
    | nil =>
      have hlen := h (t.takeWhile (· ≠ c)) (by rw [hrest])
      rw [hrest, List.length_cons] at hlen
      omega
    | cons d rest =>
      obtain ⟨htake, hdrop⟩ := quotation_append hrest (s :: u)
      rw [htake, hdrop]
      rfl
  simp only [if_neg hdollar, if_neg hpossessive, if_neg hquote]
  split
  · rfl
  split
  · rfl
  split
  · split
    · rename_i heq
      rw [List.tail_append_of_ne_nil fun hnil => by simp [hnil] at heq]
      rfl
    · rfl
  split
  · split
    · rename_i heq
      rw [List.tail_append_of_ne_nil fun hnil => by simp [hnil] at heq]
      rfl
    · rfl
  · rfl

end Separated

/-! ### What a token can be -/

/-- The token is neither a quotation nor a parenthesis. -/
def Kind.isPlain : Kind → Bool
  | .quoted _ | .leftParen | .rightParen => false
  | _ => true

private theorem isPlain_kindOfWord (w : Text) : (kindOfWord w).isPlain := by
  unfold kindOfWord
  repeat' split
  all_goals rfl

private theorem isPlain_readWord (t : Text) : (readWord t).kind.isPlain := by
  unfold readWord
  dsimp only
  split
  · split
    · split <;> rfl
    · rfl
  · split
    · split
      · split
        · split
          · split <;> rfl
          · rfl
        · rfl
      · rfl
    · exact isPlain_kindOfWord _

/-- **A token** is a quotation, closed or up to the end of the text, or a parenthesis, or plain. -/
theorem readOne_cases (touches : Bool) (c : Char) (t : Text) :
    ((c = '"' ∨ c = '\'') ∧ readOne touches c t = ⟨.quoted t, c :: t, []⟩ ∧
        readOne touches c (t ++ [')']) = ⟨.quoted (t ++ [')']), c :: t ++ [')'], []⟩) ∨
      ((c = '"' ∨ c = '\'') ∧
        ∃ body rest, readOne touches c t = ⟨.quoted body, c :: body ++ [c], rest⟩) ∨
      ((c = '(' ∨ c = ')') ∧ readOne touches c t = ⟨kindOfSign c, [c], t⟩) ∨
      (readOne touches c t).kind.isPlain := by
  unfold readOne
  by_cases hdollar : c = '$'
  · simp only [if_pos hdollar]
    refine .inr (.inr (.inr ?_))
    split <;> rfl
  simp only [if_neg hdollar, isPossessive_followed isSeparator_paren]
  by_cases hpossessive : c = '\'' ∧ touches ∧ isPossessive t
  · simp only [if_pos hpossessive]
    exact .inr (.inr (.inr rfl))
  simp only [if_neg hpossessive]
  by_cases hquote : c = '"' ∨ c = '\''
  · have hne : c ≠ ')' := by rcases hquote with rfl | rfl <;> decide
    simp only [if_pos hquote]
    cases hrest : t.dropWhile (· ≠ c) with
    | nil =>
      have hall : ∀ x ∈ t, x ≠ c := by simpa using List.dropWhile_eq_nil_iff.mp hrest
      have htake (v : Text) (hv : ∀ x ∈ v, x ≠ c) :
          v.takeWhile (· ≠ c) = v ∧ v.dropWhile (· ≠ c) = [] :=
        ⟨List.takeWhile_eq_self_iff.mpr (by simpa using hv),
          List.dropWhile_eq_nil_iff.mpr (by simpa using hv)⟩
      have hmore : ∀ x ∈ t ++ [')'], x ≠ c := by
        intro x hx
        rcases List.mem_append.mp hx with hx | hx
        · exact hall x hx
        · rw [List.mem_singleton.mp hx]
          exact hne.symm
      rw [(htake t hall).1, (htake _ hmore).1, (htake _ hmore).2]
      exact .inl ⟨hquote, rfl, rfl⟩
    | cons d rest =>
      rw [eq_of_dropWhile hrest]
      exact .inr (.inl ⟨hquote, _, rest, rfl⟩)
  simp only [if_neg hquote]
  split
  · exact .inr (.inr (.inr rfl))
  split
  · exact .inr (.inr (.inr (isPlain_readWord _)))
  split
  · split <;> exact .inr (.inr (.inr rfl))
  split
  · split <;> exact .inr (.inr (.inr rfl))
  by_cases hparen : c = '(' ∨ c = ')'
  · exact .inr (.inr (.inl ⟨hparen, rfl⟩))
  · refine .inr (.inr (.inr ?_))
    unfold kindOfSign
    split <;> first | rfl | exact absurd rfl (not_or.mp hparen).1 | exact absurd rfl (not_or.mp hparen).2

/-! ### All tokens of a text -/

theorem length_rest_lt {c : Char} {t u : Text} (h : t.dropWhile Text.isBlank = c :: u)
    (touches : Bool) : (readOne touches c u).rest.length < t.length := by
  have hrest := length_readOne_rest touches c u
  have hsuffix := (List.dropWhile_suffix Text.isBlank (l := t)).length_le
  rw [h, List.length_cons] at hsuffix
  omega

/-- **A separator behind a text** is a token of its own, if the quotations of the text are closed. -/
theorem readBehind_followed {s : Char} (hs : IsSeparator s) {touches : Bool} {t : Text}
    (h : ∀ k ∈ readBehind touches t, k.IsClosed) (u : Text) :
    ∃ gap, readBehind touches (t ++ s :: u) =
      readBehind touches t ++
        ⟨gap, kindOfSign s, [s]⟩ :: readBehind (kindOfSign s).endsOperand u := by
  induction hn : t.length using Nat.strongRecOn generalizing touches t with
  | ind n ih =>
    subst hn
    have hdrop := dropWhile_followed hs.notBlank t u
    have htake := takeWhile_followed hs.notBlank t u
    cases hrest : t.dropWhile Text.isBlank with
    | nil =>
      rw [hrest, List.nil_append] at hdrop
      refine ⟨t.takeWhile Text.isBlank, ?_⟩
      rw [readBehind_of_eq_cons hdrop, readBehind_of_eq_nil hrest, htake]
      simp only [hs.alone]
      rfl
    | cons c v =>
      rw [hrest, List.cons_append] at hdrop
      rw [readBehind_of_eq_cons hrest] at h ⊢
      obtain ⟨hfirst, hlater⟩ := List.forall_mem_cons.mp h
      have hone := readOne_followed hs (isClosed_iff.mp hfirst) u
      obtain ⟨gap, hbehind⟩ := ih _ (length_rest_lt hrest _) hlater rfl
      refine ⟨gap, ?_⟩
      rw [readBehind_of_eq_cons hdrop, htake]
      simp only [hone]
      rw [List.cons_append, ← hbehind]
      rfl

/-- A token that is closed, or a quotation up to the end of the text. -/
private theorem isClosed_or_open (touches : Bool) (gap : Text) (c : Char) (t : Text) :
    IsClosed ⟨gap, (readOne touches c t).kind, (readOne touches c t).source⟩ ∨
      (readOne touches c t = ⟨.quoted t, c :: t, []⟩ ∧
        readOne touches c (t ++ [')']) = ⟨.quoted (t ++ [')']), c :: t ++ [')'], []⟩) := by
  rcases readOne_cases touches c t with ⟨-, hopen⟩ | ⟨-, body, rest, hone⟩ | ⟨hc, hone⟩ | hplain
  · exact .inr hopen
  · refine .inl (isClosed_iff.mpr fun b hb => ?_)
    rw [hone] at hb ⊢
    obtain rfl := Kind.quoted.inj hb
    simp
  · refine .inl (isClosed_iff.mpr fun b hb => ?_)
    rw [hone] at hb
    rcases hc with rfl | rfl <;> cases hb
  · refine .inl (isClosed_iff.mpr fun b hb => ?_)
    rw [show (readOne touches c t).kind = .quoted b from hb] at hplain
    cases hplain

/-- **A quotation that is not closed** is the last token, and takes in a parenthesis behind it. -/
theorem readBehind_open {touches : Bool} {t : Text}
    (h : ∃ k ∈ readBehind touches t, ¬ k.IsClosed) :
    ∃ front gap c body, readBehind touches t = front ++ [⟨gap, .quoted body, c :: body⟩] ∧
      readBehind touches (t ++ [')']) =
        front ++ [⟨gap, .quoted (body ++ [')']), c :: body ++ [')']⟩] := by
  induction hn : t.length using Nat.strongRecOn generalizing touches t with
  | ind n ih =>
    subst hn
    have hdrop := dropWhile_followed isSeparator_paren.notBlank t []
    have htake := takeWhile_followed isSeparator_paren.notBlank t []
    cases hrest : t.dropWhile Text.isBlank with
    | nil =>
      rw [readBehind_of_eq_nil hrest] at h
      obtain ⟨k, hk, -⟩ := h
      cases hk
    | cons c v =>
      rw [hrest, List.cons_append] at hdrop
      rw [readBehind_of_eq_cons hrest] at h ⊢
      rw [readBehind_of_eq_cons hdrop, htake]
      dsimp only at h ⊢
      rcases isClosed_or_open (touches && (t.takeWhile Text.isBlank).isEmpty)
        (t.takeWhile Text.isBlank) c v with hclosed | ⟨hone, hmore⟩
      · obtain ⟨k, hk, hopen⟩ := h
        rcases List.mem_cons.mp hk with rfl | hk
        · exact absurd hclosed hopen
        · obtain ⟨front, gap, c', body, hread, hreadMore⟩ :=
            ih _ (length_rest_lt hrest _) ⟨k, hk, hopen⟩ rfl
          refine ⟨_ :: front, gap, c', body, by rw [hread]; rfl, ?_⟩
          rw [readOne_followed isSeparator_paren (isClosed_iff.mp hclosed)]
          exact congrArg (_ :: ·) hreadMore
      · refine ⟨[], t.takeWhile Text.isBlank, c, v, ?_, ?_⟩
        · rw [hone, readBehind_of_eq_nil rfl]
          rfl
        · rw [hmore, readBehind_of_eq_nil rfl]
          rfl

end Token

/-! ### Round brackets in tokens -/

namespace Text

/-- The number of round brackets in a text. -/
def parens (t : Text) : Nat := t.countP fun c => c == '(' || c == ')'

theorem parens_append (s t : Text) : parens (s ++ t) = parens s + parens t := List.countP_append

theorem parens_of_forall_isBlank {t : Text} (h : ∀ c ∈ t, isBlank c) : parens t = 0 := by
  refine List.countP_eq_zero.mpr fun c hc hparen => ?_
  rw [Bool.or_eq_true, beq_iff_eq, beq_iff_eq] at hparen
  rcases hparen with rfl | rfl <;> exact absurd (h _ hc) (by decide)

theorem parens_trim (t : Text) : parens (trim t) = parens t := by
  have hstart : parens (trimStart t) = parens t := by
    conv => rhs; rw [← List.takeWhile_append_dropWhile (p := isBlank) (l := t)]
    rw [parens_append, parens_of_forall_isBlank fun c hc => List.mem_takeWhile_imp hc, Nat.zero_add]
    rfl
  obtain ⟨u, hu, hblank⟩ := exists_trimEnd (trimStart t)
  rw [trim, ← hstart]
  conv => rhs; rw [hu]
  rw [parens_append, parens_of_forall_isBlank hblank, Nat.add_zero]

end Text

namespace Token

/-- What is known of the tokens of a text: blanks stand before them, a parenthesis has its bracket, and a
quotation the brackets of its text. -/
structure IsRead (k : Token) : Prop where
  gap : ∀ c ∈ k.gap, Text.isBlank c
  paren : k.kind = .leftParen ∨ k.kind = .rightParen → 0 < Text.parens k.source
  quoted : ∀ t, k.kind = .quoted t → Text.parens k.source = Text.parens t

private theorem parens_quote {c : Char} (hc : c = '"' ∨ c = '\'') (t : Text) :
    Text.parens (c :: t) = Text.parens t ∧ Text.parens (c :: t ++ [c]) = Text.parens t := by
  have hone : Text.parens [c] = 0 := by rcases hc with rfl | rfl <;> decide
  have hfirst : Text.parens (c :: t) = Text.parens t := by
    rw [← List.singleton_append, Text.parens_append, hone, Nat.zero_add]
  exact ⟨hfirst, by rw [Text.parens_append, hone, hfirst, Nat.add_zero]⟩

/-- **A token that is read** has a parenthesis in its source if it is one, and a quotation those of its text. -/
private theorem isRead_readOne {gap : Text} (hgap : ∀ c ∈ gap, Text.isBlank c) (touches : Bool)
    (c : Char) (t : Text) : IsRead ⟨gap, (readOne touches c t).kind, (readOne touches c t).source⟩ := by
  refine ⟨hgap, fun hparen => ?_, fun b hb => ?_⟩
  · rcases readOne_cases touches c t with ⟨-, hone, -⟩ | ⟨-, body, rest, hone⟩ | ⟨hc, hone⟩ | hplain
    · simp [hone] at hparen
    · simp [hone] at hparen
    · rw [hone]
      rcases hc with rfl | rfl
      · exact show 0 < Text.parens ['('] by decide
      · exact show 0 < Text.parens [')'] by decide
    · dsimp only at hparen
      rcases hparen with hkind | hkind <;> rw [hkind] at hplain <;> cases hplain
  · rcases readOne_cases touches c t with ⟨hc, hone, -⟩ | ⟨hc, body, rest, hone⟩ | ⟨hc, hone⟩ | hplain
    · rw [hone] at hb ⊢
      obtain rfl := Kind.quoted.inj hb
      exact (parens_quote hc t).1
    · rw [hone] at hb ⊢
      obtain rfl := Kind.quoted.inj hb
      exact (parens_quote hc body).2
    · rw [hone] at hb
      rcases hc with rfl | rfl <;> cases hb
    · rw [show (readOne touches c t).kind = .quoted b from hb] at hplain
      cases hplain

theorem isRead_of_mem {touches : Bool} {t : Text} {k : Token} (h : k ∈ readBehind touches t) :
    k.IsRead := by
  induction hn : t.length using Nat.strongRecOn generalizing touches t with
  | ind n ih =>
    subst hn
    cases hrest : t.dropWhile Text.isBlank with
    | nil =>
      rw [readBehind_of_eq_nil hrest] at h
      cases h
    | cons c v =>
      rw [readBehind_of_eq_cons hrest] at h
      rcases List.mem_cons.mp h with rfl | h
      · exact isRead_readOne (fun c hc => List.mem_takeWhile_imp hc) _ c v
      · exact ih _ (length_rest_lt hrest _) h rfl

/-- Reading a text loses none of its parentheses. -/
theorem parens_written_read (t : Text) : Text.parens (written (read t)) = Text.parens t := by
  obtain ⟨b, ht, hb⟩ := exists_written_readBehind false t
  conv => rhs; rw [ht]
  rw [Text.parens_append, Text.parens_of_forall_isBlank (List.all_eq_true.mp hb), Nat.add_zero]
  rfl

/-- Trimming, and leaving out the gap before the first token, takes no bracket away. -/
theorem parens_trim_covered {ks : List Token} (h : ∀ k ∈ ks, k.IsRead) :
    Text.parens (Text.trim (covered ks)) = Text.parens (written ks) := by
  rw [Text.parens_trim]
  cases ks with
  | nil => rfl
  | cons k ks =>
    rw [written, covered, List.append_assoc, Text.parens_append k.gap,
      Text.parens_of_forall_isBlank (h k List.mem_cons_self).gap, Nat.zero_add]

end Token

end Hyperfiction

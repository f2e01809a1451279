import Hyperfiction.Proofs.Token.Front

/-!
# Texts put together from pieces

A piece of an argument is read by itself when the text behind it does not go on with it
(`Token.Ends`). `Token.Reads t kinds` says which kinds of tokens the text `t` is then read as, whatever is
behind it:

* a sign in front of a text (`Token.Reads.sign`), and blanks in front of one (`Token.Reads.gap`);
* two texts of which the second ends the first (`Token.Reads.append`), and the front of a call
  (`Token.Reads.call`);
* a word, a variable, a decimal (`Token.reads_plainDecimal`) and a quotation (`Token.reads_quotation`).

The gaps of the tokens are left out, since no expression depends on them.
-/

namespace Hyperfiction

/-! ### Pieces -/

/-- The blanks between two pieces; there may be none. -/
abbrev Gap := {g : Text // ∀ c ∈ g, Text.isBlank c}

/-- The name of a variable. -/
abbrev Variable := {x : Text // x.IsVariable}

/-- A word that is read for itself. -/
abbrev Word := {t : Text // t.IsWord}

/-- A decimal without a sign: digits, a point if there are digits behind it, or both. -/
structure PlainDecimal where
  whole : Text
  fraction : Text
  isDigit : ∀ c ∈ whole ++ fraction, c.isDigit
  ne_nil : whole ++ fraction ≠ []

namespace PlainDecimal

/-- The decimal as it is written. -/
def text (d : PlainDecimal) : Text := d.whole ++ Token.pointed d.fraction

/-- The number of the decimal: all its digits, and as many places as there are behind the point. -/
def value (d : PlainDecimal) : Float :=
  Float.ofScientific (Text.digitsValue (d.whole ++ d.fraction)) true d.fraction.length

end PlainDecimal

/-- A text in quotes, which does not have that quote in it. -/
structure Quotation where
  quote : Char
  inside : Text
  isQuote : quote = '"' ∨ quote = '\''
  closed : quote ∉ inside

/-- The quotation as it is written. -/
def Quotation.text (q : Quotation) : Text := q.quote :: q.inside ++ [q.quote]

/-! ### Characters that end a piece -/

namespace Token

/-- No digit is left out of words. -/
theorem continuesWord_of_isDigit {c : Char} (h : c.isDigit) : continuesWord c := by
  simp [continuesWord, Text.isNumeral, h]

/-- No blank goes on a word. -/
theorem continuesWord_of_isBlank {c : Char} (h : Text.isBlank c) : continuesWord c = false := by
  have hstart : startsWord c = false := by
    rw [Bool.eq_false_iff]
    intro hstart
    exact absurd h (Bool.eq_false_iff.mp (InPlace.isBlank_of_startsWord hstart))
  have hdigit : c.isDigit = false := by
    rw [Bool.eq_false_iff]
    intro hdigit
    exact absurd h (Bool.eq_false_iff.mp (Text.isBlank_of_isDigit hdigit))
  have hnumeral : Text.inRanges Text.numeralRanges c.toNat = false :=
    InPlace.of_isBlank (p := fun n => Text.inRanges Text.numeralRanges n = false) (by decide +kernel) h
  rw [startsWord, Bool.or_eq_false_iff] at hstart
  rw [continuesWord, Text.isNumeral, hstart.1, hstart.2, hdigit, hnumeral]
  rfl

/-- The text does not go on with a word, a number or a possessive that stands in front of it. -/
def Ends (u : Text) : Prop := ∀ c ∈ u.head?, continuesWord c = false ∧ c ≠ '.' ∧ c ≠ '\''

theorem ends_nil : Ends [] := fun _ h => by cases h

/-- A text begins with no part of a word or number if its first character is none. -/
theorem ends_cons {c : Char} (hword : continuesWord c = false) (hpoint : c ≠ '.') (hquote : c ≠ '\'')
    (t : Text) : Ends (c :: t) := by
  rintro d hd
  obtain rfl : c = d := Option.some.inj hd
  exact ⟨hword, hpoint, hquote⟩

/-- Blanks end a piece. -/
theorem ends_gap (g : Gap) {t : Text} (ht : Ends t) : Ends (g.1 ++ t) := by
  obtain ⟨g, hg⟩ := g
  cases g with
  | nil => exact ht
  | cons b g =>
    have hb := hg b List.mem_cons_self
    refine ends_cons (continuesWord_of_isBlank hb) ?_ ?_ _
    · rintro rfl
      exact absurd hb (by decide)
    · rintro rfl
      exact absurd hb (by decide)

namespace Ends

variable {u : Text} (hu : Ends u)
include hu

/-- What ends a piece does so whatever follows. -/
theorem append (v : Text) (hv : Ends v) : Ends (u ++ v) := by
  cases u with
  | nil => exact hv
  | cons c u => exact hu

theorem any_continuesWord : u.head?.any continuesWord = false := by
  cases u with
  | nil => rfl
  | cons c u => exact (hu c rfl).1

theorem any_isDigit : u.head?.any Char.isDigit = false := by
  cases u with
  | nil => rfl
  | cons c u =>
    rw [List.head?_cons, Option.any_some, Bool.eq_false_iff]
    intro hdigit
    exact absurd (continuesWord_of_isDigit hdigit) (Bool.eq_false_iff.mp (hu c rfl).1)

/-- Where no possessive can follow, it does not matter what the text stands behind. -/
theorem readBehind_eq (touches : Bool) : readBehind touches u = read u := by
  cases hrest : u.dropWhile Text.isBlank with
  | nil => rw [read, readBehind_of_eq_nil hrest, readBehind_of_eq_nil hrest]
  | cons c rest =>
    rw [read, readBehind_of_eq_cons hrest, readBehind_of_eq_cons hrest]
    have hone : readOne (touches && (u.takeWhile Text.isBlank).isEmpty) c rest =
        readOne (false && (u.takeWhile Text.isBlank).isEmpty) c rest := by
      cases hgap : u.takeWhile Text.isBlank with
      | cons b g => simp
      | nil =>
        -- Without a blank the text begins with the character, which is no quote then.
        have hall := List.takeWhile_append_dropWhile (p := Text.isBlank) (l := u)
        rw [hgap, hrest, List.nil_append] at hall
        have hquote : c ≠ '\'' := (hu c (by rw [← hall]; rfl)).2.2
        simp [readOne, hquote]
    simp only [hone]

end Ends

/-! ### What a text is read as -/

/-- The text is read as tokens of these kinds, whatever is behind it that does not go on with it. -/
def Reads (t : Text) (kinds : List Kind) : Prop :=
  ∀ u, Ends u → ∃ ks, read (t ++ u) = ks ++ read u ∧ ks.map Token.kind = kinds

/-- The signs that are operators or separate. -/
def signs : List Char := ['+', '-', '*', '/', '%', '(', ')', ',', ':']

/-- A sign is no part of any other token. -/
private theorem plain_of_mem_signs {c : Char} (h : c ∈ signs) :
    (c.toNat < 170 ∧ c.isAlpha = false ∧ c.isDigit = false ∧ Text.isBlank c = false) ∧ c ≠ '_' ∧ c ≠ '.' ∧
      c ≠ '$' ∧ c ≠ '\'' ∧ c ≠ '"' ∧ c ≠ '>' ∧ c ≠ '<' := by
  simp only [signs, List.mem_cons, List.not_mem_nil, or_false] at h
  rcases h with rfl | rfl | rfl | rfl | rfl | rfl | rfl | rfl | rfl <;> decide

theorem ends_sign {c : Char} (h : c ∈ signs) (t : Text) : Ends (c :: t) := by
  obtain ⟨⟨hlow, halpha, hdigit, -⟩, hline, hpoint, -, hsingle, -⟩ := plain_of_mem_signs h
  have hword : continuesWord c = false := by
    rw [continuesWord_of_lt hlow, Char.isAlphanum, halpha, hdigit]
    simpa using hline
  exact ends_cons hword hpoint hsingle t

theorem readBehind_sign {c : Char} (h : c ∈ signs) (touches : Bool) (t : Text) :
    readBehind touches (c :: t) = ⟨[], kindOfSign c, [c]⟩ :: readBehind (kindOfSign c).endsOperand t := by
  obtain ⟨⟨hlow, halpha, hdigit, hblank⟩, hline, hpoint, hdollar, hsingle, hdouble, hgreater, hless⟩ :=
    plain_of_mem_signs h
  have hstart : startsWord c = false := by
    rw [startsWord_of_lt hlow, halpha]
    simpa using hline
  have hone : readOne touches c t = ⟨kindOfSign c, [c], t⟩ := by
    simp [readOne, hdollar, hsingle, hdouble, hdigit, hpoint, hstart, hgreater, hless]
  rw [readBehind_cons hblank, hone]

namespace Reads

variable {s t : Text} {kinds kinds' : List Kind}

/-- **Two texts**, of which the second ends the first. -/
theorem append (hs : Reads s kinds) (ht : Reads t kinds') (hends : Ends t) :
    Reads (s ++ t) (kinds ++ kinds') := by
  intro u hu
  obtain ⟨ks, hks, hkinds⟩ := hs (t ++ u) (hends.append u hu)
  obtain ⟨ls, hls, hkinds'⟩ := ht u hu
  refine ⟨ks ++ ls, ?_, by rw [List.map_append, hkinds, hkinds']⟩
  rw [List.append_assoc, hks, hls, List.append_assoc]

/-- A piece of one token. -/
theorem single {k : Kind} (source : Text)
    (h : ∀ u, Ends u → readBehind false (t ++ u) = ⟨[], k, source⟩ :: readBehind k.endsOperand u) :
    Reads t [k] := by
  intro u hu
  refine ⟨[⟨[], k, source⟩], ?_, rfl⟩
  rw [read, h u hu, hu.readBehind_eq]
  rfl

/-- **A sign in front** that no operand ends with. -/
theorem sign {c : Char} (hc : c ∈ signs) (hparen : (kindOfSign c).endsOperand = false)
    (ht : Reads t kinds) : Reads (c :: t) (kindOfSign c :: kinds) := by
  intro u hu
  obtain ⟨ks, hks, hkinds⟩ := ht u hu
  refine ⟨⟨[], kindOfSign c, [c]⟩ :: ks, ?_, congrArg (kindOfSign c :: ·) hkinds⟩
  rw [read, List.cons_append, readBehind_sign hc, hparen, ← read, hks]
  rfl

/-- **Blanks in front** make no difference. -/
theorem gap (g : Gap) (hne : kinds ≠ []) (ht : Reads t kinds) : Reads (g.1 ++ t) kinds := by
  obtain ⟨g, hg⟩ := g
  induction g with
  | nil => exact ht
  | cons b g ih =>
    intro u hu
    obtain ⟨ks, hks, hkinds⟩ := ih (fun c hc => hg c (List.mem_cons_of_mem b hc)) u hu
    cases ks with
    | nil => exact absurd hkinds.symm hne
    | cons k ks =>
      refine ⟨{ k with gap := b :: k.gap } :: ks, ?_, hkinds⟩
      have hblank := readBehind_blank (hg b List.mem_cons_self) false (g ++ t ++ u)
      rw [hks] at hblank
      exact hblank

/-- The closing parenthesis. -/
theorem rightParen : Reads [')'] [.rightParen] :=
  single [')'] fun u _ => readBehind_sign (by decide) false u

end Reads

/-! ### The pieces by themselves -/

theorem reads_word (t : Word) : Reads t.1 [.word t.1] :=
  .single t.1 fun _ hu => readBehind_isWord hu.any_continuesWord t.2 false

/-- **The front of a call.** -/
theorem Reads.call {t : Text} {kinds : List Kind} (name : Word) (ht : Reads t kinds) :
    Reads ('(' :: (name.1 ++ ':' :: t)) (.leftParen :: .word name.1 :: .colon :: kinds) :=
  .sign (c := '(') (by decide) rfl ((reads_word name).append (.sign (c := ':') (by decide) rfl ht)
    (ends_sign (by decide) t))

theorem reads_variable (x : Variable) : Reads ('$' :: x.1) [.var x.1] :=
  .single ('$' :: x.1) fun _ hu => readBehind_variable hu.any_continuesWord x.2 false

/-- A word that is a literal or stands for the target of an assignment. -/
theorem reads_keyword {t : Text} (h : t ∈ ["true".toList, "false".toList, "it".toList]) :
    Reads t [kindOfWord t] := by
  have hall : ∀ t ∈ ["true".toList, "false".toList, "it".toList], t ≠ "is".toList ∧ t ≠ "does".toList ∧
      t.all continuesWord ∧ t.head?.any startsWord := by
    decide +kernel
  obtain ⟨his, hdoes, hword, hstart⟩ := hall t h
  refine .single t fun u hu => ?_
  cases t with
  | nil => cases hstart
  | cons c t =>
    exact readBehind_word hu.any_continuesWord hstart (List.all_eq_true.mp hword) his hdoes false

/-- The digits behind a point, up to what ends the number. -/
private theorem takeFraction_pointed {fraction u : Text} (h : ∀ c ∈ fraction, c.isDigit) (hu : Ends u) :
    takeFraction (pointed fraction ++ u) = (fraction, u) := by
  rw [pointed]
  split
  · rename_i hnil
    subst hnil
    cases u with
    | nil => rfl
    | cons c u => exact if_neg fun hpoint => (hu c rfl).2.1 hpoint.1
  · rename_i hne
    have htake : (fraction ++ u).takeWhile Char.isDigit = fraction := by
      rw [Text.takeWhile_append_of_ends hu.any_isDigit, List.takeWhile_eq_self_iff.mpr h]
    have hdrop : (fraction ++ u).dropWhile Char.isDigit = u := by
      rw [Text.dropWhile_append_of_ends hu.any_isDigit, List.dropWhile_eq_nil_iff.mpr h, List.nil_append]
    simp only [List.cons_append, takeFraction, htake, hdrop]
    exact if_pos ⟨trivial, hne⟩

/-- A decimal is read as far as it goes, for the number it writes. -/
private theorem readNumber_text (d : PlainDecimal) {u : Text} (hu : Ends u) :
    readNumber (d.text ++ u) = ⟨.number d.value, d.text, u⟩ := by
  have hwhole (c : Char) (hc : c ∈ d.whole) : c.isDigit := d.isDigit c (List.mem_append_left _ hc)
  have hpoint : (pointed d.fraction ++ u).head?.any Char.isDigit = false := by
    rw [pointed]
    split
    · exact hu.any_isDigit
    · rfl
  have htake : (d.whole ++ (pointed d.fraction ++ u)).takeWhile Char.isDigit = d.whole := by
    rw [Text.takeWhile_append_of_ends hpoint, List.takeWhile_eq_self_iff.mpr hwhole]
  have hdrop : (d.whole ++ (pointed d.fraction ++ u)).dropWhile Char.isDigit = pointed d.fraction ++ u := by
    rw [Text.dropWhile_append_of_ends hpoint, List.dropWhile_eq_nil_iff.mpr hwhole, List.nil_append]
  have hordinal : takeOrdinal u = ([], u) := by
    have hnone : u.takeWhile continuesWord = [] := Text.takeWhile_append_of_ends hu.any_continuesWord []
    simp only [takeOrdinal, hnone]
    exact if_neg (by decide)
  rw [PlainDecimal.text, List.append_assoc]
  simp only [readNumber, htake, hdrop,
    takeFraction_pointed (fun c hc => d.isDigit c (List.mem_append_right _ hc)) hu, hordinal, List.append_nil,
    Number.ofDigits_eq]
  rfl

/-- A decimal begins with a digit, or with a point before one. -/
private theorem exists_text_eq_cons (d : PlainDecimal) :
    ∃ c t, d.text = c :: t ∧ (c.isDigit ∨ (c = '.' ∧ t.head?.any Char.isDigit)) := by
  obtain ⟨whole, fraction, hdigit, hne⟩ := d
  cases whole with
  | cons c whole => exact ⟨c, _, rfl, .inl (hdigit c List.mem_cons_self)⟩
  | nil =>
    cases fraction with
    | nil => exact absurd rfl hne
    | cons c fraction => exact ⟨'.', c :: fraction, rfl, .inr ⟨rfl, hdigit c List.mem_cons_self⟩⟩

/-- What begins like a number is read as one. -/
private theorem readOne_of_plainDecimal {c : Char} {t : Text}
    (hc : c.isDigit ∨ (c = '.' ∧ t.head?.any Char.isDigit)) (touches : Bool) :
    readOne touches c t = readNumber (c :: t) := by
  have hne {s : Char} (hdigit : s.isDigit = false) (hpoint : s ≠ '.') : c ≠ s := by
    rintro rfl
    rcases hc with h | h
    · rw [hdigit] at h
      cases h
    · exact hpoint h.1
  have hdollar : c ≠ '$' := hne (by decide) (by decide)
  have hdouble : c ≠ '"' := hne (by decide) (by decide)
  have hsingle : c ≠ '\'' := hne (by decide) (by decide)
  rw [readOne, if_neg hdollar, if_neg (fun h => hsingle h.1), if_neg (not_or.mpr ⟨hdouble, hsingle⟩),
    if_pos hc]

theorem reads_plainDecimal (d : PlainDecimal) : Reads d.text [.number d.value] := by
  refine .single d.text fun u hu => ?_
  obtain ⟨c, t, htext, hc⟩ := exists_text_eq_cons d
  have hstart : c.isDigit ∨ (c = '.' ∧ (t ++ u).head?.any Char.isDigit) := by
    refine hc.imp_right fun h => ⟨h.1, ?_⟩
    cases t with
    | nil => cases h.2
    | cons e t => exact h.2
  have hone : readOne false c (t ++ u) = ⟨.number d.value, d.text, u⟩ := by
    rw [readOne_of_plainDecimal hstart, ← List.cons_append, ← htext, readNumber_text d hu]
  have hblank : Text.isBlank c = false := by
    rcases hc with hdigit | ⟨rfl, -⟩
    · exact Text.isBlank_of_isDigit hdigit
    · decide
  rw [htext, List.cons_append, readBehind_cons hblank, hone, htext]

/-- **A quotation in front** is read up to the quote that closes it, whatever is behind. -/
theorem readBehind_quotation (q : Quotation) (u : Text) :
    readBehind false (q.text ++ u) = ⟨[], .quoted q.inside, q.text⟩ :: readBehind true u := by
  obtain ⟨quote, inside, hquote, hclosed⟩ := q
  have hinside : ∀ c ∈ inside, decide (c ≠ quote) := by
    intro c hc
    exact decide_eq_true fun heq => hclosed (heq ▸ hc)
  have hends : (quote :: u).head?.any (fun c => decide (c ≠ quote)) = false := by simp
  have htake : (inside ++ quote :: u).takeWhile (fun c => decide (c ≠ quote)) = inside := by
    rw [Text.takeWhile_append_of_ends hends, List.takeWhile_eq_self_iff.mpr hinside]
  have hdrop : (inside ++ quote :: u).dropWhile (fun c => decide (c ≠ quote)) = quote :: u := by
    rw [Text.dropWhile_append_of_ends hends, List.dropWhile_eq_nil_iff.mpr hinside, List.nil_append]
  have hblank : Text.isBlank quote = false := by rcases hquote with rfl | rfl <;> decide
  have hdollar : quote ≠ '$' := by rcases hquote with rfl | rfl <;> decide
  have hone : readOne false quote (inside ++ quote :: u) = ⟨.quoted inside, quote :: inside ++ [quote], u⟩ := by
    have hfalse : ¬ (quote = '\'' ∧ (false : Bool) = true ∧ isPossessive (inside ++ quote :: u) = true) :=
      fun h => Bool.false_ne_true h.2.1
    rw [readOne, if_neg hdollar, if_neg hfalse, if_pos hquote, htake]
    simp only [hdrop]
  have htext : quote :: inside ++ [quote] ++ u = quote :: (inside ++ quote :: u) := by simp
  change readBehind false (quote :: inside ++ [quote] ++ u) = _
  rw [htext, readBehind_cons hblank, hone]
  rfl

theorem reads_quotation (q : Quotation) : Reads q.text [.quoted q.inside] :=
  .single q.text fun u _ => readBehind_quotation q u

end Token

end Hyperfiction

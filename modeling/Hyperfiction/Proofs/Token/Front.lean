import Hyperfiction.Proofs.InPlace.Lexer
import Hyperfiction.Proofs.Token.Followed

/-!
# The token at the front of a text

A text that begins with a blank has the tokens of the text behind it, the first with a longer gap
(`Token.readBehind_blank`). Otherwise its first token is what `Token.readOne` finds: a sign that separates
(`Token.readBehind_separator`), a word with an end (`Token.readBehind_word`) or a variable
(`Token.readBehind_variable`). With these rules the tokens of a text that is put together from known pieces
are found one by one.
-/

namespace Hyperfiction

/-- The name of a variable as it is read behind a `$`. -/
def Text.IsVariable (x : Text) : Prop := x ≠ [] ∧ ∀ c ∈ x, Token.continuesWord c

instance (x : Text) : Decidable (Text.IsVariable x) :=
  decidable_of_iff (x ≠ [] ∧ x.all Token.continuesWord) (by rw [Text.IsVariable, List.all_eq_true])

/-- The words that are an operator or a literal, or that can join the word behind them. -/
def Text.reserved : List Text :=
  ["true".toList, "false".toList, "it".toList, "to".toList, "and".toList, "or".toList, "not".toList,
    "contains".toList, "is".toList, "does".toList]

/-- A word that is read for itself. -/
def Text.IsWord (t : Text) : Prop :=
  t.head?.any Token.startsWord ∧ (∀ c ∈ t, Token.continuesWord c) ∧ t ∉ Text.reserved

instance (t : Text) : Decidable (Text.IsWord t) :=
  decidable_of_iff (t.head?.any Token.startsWord ∧ t.all Token.continuesWord ∧ ∀ w ∈ Text.reserved, t ≠ w)
    (by rw [Text.IsWord, List.all_eq_true, List.forall_mem_ne])

namespace Text

variable {p : Char → Bool} {u : Text} (hu : u.head?.any p = false)
include hu

/-- Where a character stands that `p` does not hold of, no more is taken. -/
theorem takeWhile_append_of_ends (t : Text) : (t ++ u).takeWhile p = t.takeWhile p := by
  induction t with
  | nil =>
    cases u with
    | nil => rfl
    | cons d u => exact List.takeWhile_cons_of_neg (by simpa using hu)
  | cons c t ih => rw [List.cons_append, List.takeWhile_cons, List.takeWhile_cons, ih]

/-- Where a character stands that `p` does not hold of, no more is dropped. -/
theorem dropWhile_append_of_ends (t : Text) : (t ++ u).dropWhile p = t.dropWhile p ++ u := by
  induction t with
  | nil =>
    cases u with
    | nil => rfl
    | cons d u => exact List.dropWhile_cons_of_neg (by simpa using hu)
  | cons c t ih =>
    rw [List.cons_append, List.dropWhile_cons, List.dropWhile_cons, ih]
    split <;> rfl

end Text

namespace Token

/-- Tokens with one more blank before the first. -/
def indent (b : Char) : List Token → List Token
  | [] => []
  | k :: ks => { k with gap := b :: k.gap } :: ks

theorem readBehind_nil (touches : Bool) : readBehind touches [] = [] := readBehind_of_eq_nil rfl

/-! ### Blanks and other characters -/

/-- **A blank in front** belongs to the gap of the first token. -/
theorem readBehind_blank {b : Char} (hb : Text.isBlank b) (touches : Bool) (t : Text) :
    readBehind touches (b :: t) = indent b (read t) := by
  have hdrop : (b :: t).dropWhile Text.isBlank = t.dropWhile Text.isBlank :=
    List.dropWhile_cons_of_pos hb
  have htake : (b :: t).takeWhile Text.isBlank = b :: t.takeWhile Text.isBlank :=
    List.takeWhile_cons_of_pos hb
  cases hrest : t.dropWhile Text.isBlank with
  | nil => rw [readBehind_of_eq_nil (hdrop.trans hrest), read, readBehind_of_eq_nil hrest, indent]
  | cons c u =>
    rw [readBehind_of_eq_cons (hdrop.trans hrest), read, readBehind_of_eq_cons hrest, htake]
    simp only [List.isEmpty_cons, Bool.and_false, Bool.false_and, indent]

/-- Without a blank in front the first token is that of the first character. -/
theorem readBehind_cons {c : Char} (hc : Text.isBlank c = false) (touches : Bool) (t : Text) :
    readBehind touches (c :: t) =
      ⟨[], (readOne touches c t).kind, (readOne touches c t).source⟩ ::
        readBehind (readOne touches c t).kind.endsOperand (readOne touches c t).rest := by
  have hblank : ¬ Text.isBlank c = true := by rw [hc]; exact Bool.false_ne_true
  rw [readBehind_of_eq_cons (List.dropWhile_cons_of_neg hblank)]
  simp only [List.takeWhile_cons_of_neg hblank, List.isEmpty_nil, Bool.and_true]

theorem readBehind_separator {s : Char} (hs : IsSeparator s) (touches : Bool) (t : Text) :
    readBehind touches (s :: t) =
      ⟨[], kindOfSign s, [s]⟩ :: readBehind (kindOfSign s).endsOperand t := by
  rw [readBehind_cons hs.notBlank, hs.alone]

/-! ### Words -/

/-- A separator ends a word. -/
theorem IsSeparator.ends {s : Char} (hs : IsSeparator s) (u : Text) :
    (s :: u).head?.any continuesWord = false := by
  rw [List.head?_cons, Option.any_some, hs.notInWord]

/-- A blank ends a word. -/
theorem blank_ends (u : Text) : (' ' :: u).head?.any continuesWord = false := by
  rw [List.head?_cons, Option.any_some, continuesWord_of_lt (by decide)]
  rfl

/-- No digit begins a word. -/
theorem isDigit_of_startsWord {c : Char} (h : startsWord c) : c.isDigit = false := by
  rw [Bool.eq_false_iff]
  intro hdigit
  obtain ⟨hlow, hhigh⟩ : 48 ≤ c.toNat ∧ c.toNat ≤ 57 :=
    ((Bool.and_eq_true _ _).mp hdigit).imp of_decide_eq_true of_decide_eq_true
  rw [startsWord_of_lt (by omega), Bool.or_eq_true] at h
  rcases h with halpha | hline
  · have hranges := Text.ranges_of_isAlpha halpha
    omega
  · rw [beq_iff_eq.mp hline] at hhigh
    exact absurd hhigh (by decide)

/-- The character that begins a word begins nothing else. -/
theorem readOne_of_startsWord {c : Char} (h : startsWord c) (touches : Bool) (t : Text) :
    readOne touches c t = readWord (c :: t) := by
  have hne {s : Char} (hlow : s.toNat < 170) (hsign : (s.isAlpha || s == '_') = false) : c ≠ s := by
    rintro rfl
    rw [startsWord_of_lt hlow, hsign] at h
    cases h
  have hdollar : c ≠ '$' := hne (by decide) (by decide)
  have hdouble : c ≠ '"' := hne (by decide) (by decide)
  have hsingle : c ≠ '\'' := hne (by decide) (by decide)
  have hpoint : c ≠ '.' := hne (by decide) (by decide)
  simp [readOne, h, isDigit_of_startsWord h, hdollar, hdouble, hsingle, hpoint]

variable {u : Text} (hu : u.head?.any continuesWord = false)
include hu

private theorem takeWhile_word {w : Text} (hw : ∀ d ∈ w, continuesWord d) :
    (w ++ u).takeWhile continuesWord = w := by
  rw [Text.takeWhile_append_of_ends hu, List.takeWhile_eq_self_iff.mpr hw]

private theorem dropWhile_word {w : Text} (hw : ∀ d ∈ w, continuesWord d) :
    (w ++ u).dropWhile continuesWord = u := by
  rw [Text.dropWhile_append_of_ends hu, List.dropWhile_eq_nil_iff.mpr hw, List.nil_append]

/-- **A word in front** of a character that cannot go on it, where no other word can be joined to it. -/
theorem readBehind_word {c : Char} {w : Text} (hc : startsWord c) (hw : ∀ d ∈ c :: w, continuesWord d)
    (his : c :: w ≠ "is".toList) (hdoes : c :: w ≠ "does".toList) (touches : Bool) :
    readBehind touches (c :: w ++ u) =
      ⟨[], kindOfWord (c :: w), c :: w⟩ :: readBehind (kindOfWord (c :: w)).endsOperand u := by
  have hword : readWord (c :: (w ++ u)) = ⟨kindOfWord (c :: w), c :: w, u⟩ := by
    rw [readWord, ← List.cons_append, takeWhile_word hu hw, dropWhile_word hu hw]
    simp only [if_neg his, if_neg hdoes]
  rw [List.cons_append, readBehind_cons (InPlace.isBlank_of_startsWord hc), readOne_of_startsWord hc,
    hword]

omit hu in
/-- The words that connect, with a blank behind them. -/
theorem readBehind_keyword {w : Text}
    (hw : w ∈ ["and".toList, "or".toList, "not".toList, "to".toList]) (touches : Bool) (u : Text) :
    readBehind touches (w ++ ' ' :: u) = ⟨[], kindOfWord w, w⟩ :: indent ' ' (read u) := by
  have hall : ∀ w ∈ ["and".toList, "or".toList, "not".toList, "to".toList],
      w ≠ "is".toList ∧ w ≠ "does".toList ∧ w.all continuesWord ∧ w.head?.any startsWord := by
    decide +kernel
  obtain ⟨his, hdoes, hword, hstart⟩ := hall w hw
  cases w with
  | nil => cases hstart
  | cons c w =>
    rw [readBehind_word (blank_ends u) hstart (List.all_eq_true.mp hword) his hdoes,
      readBehind_blank (by decide)]

omit hu in
theorem kindOfWord_of_isWord {t : Text} (h : Text.IsWord t) : kindOfWord t = .word t := by
  have hreserved := h.2.2
  simp only [Text.reserved, List.mem_cons, List.not_mem_nil, or_false, not_or] at hreserved
  obtain ⟨hyes, hno, hit, hto, hand, hor, hnot, hcontains, -, -⟩ := hreserved
  rw [kindOfWord, if_neg hyes, if_neg hno, if_neg hit, if_neg hto, if_neg hand, if_neg hor, if_neg hnot,
    if_neg hcontains]

/-- A word that is read for itself. -/
theorem readBehind_isWord {t : Text} (h : Text.IsWord t) (touches : Bool) :
    readBehind touches (t ++ u) = ⟨[], .word t, t⟩ :: readBehind true u := by
  have hkind := kindOfWord_of_isWord h
  obtain ⟨hstart, hword, hreserved⟩ := h
  cases t with
  | nil => cases hstart
  | cons c t =>
    have his : c :: t ≠ "is".toList := fun heq => hreserved (by simp [Text.reserved, heq])
    have hdoes : c :: t ≠ "does".toList := fun heq => hreserved (by simp [Text.reserved, heq])
    rw [readBehind_word hu hstart hword his hdoes, hkind]
    rfl

omit hu in
/-- **The front of a call.** -/
theorem readBehind_call {name : Text} (h : Text.IsWord name) (touches : Bool) (t : Text) :
    readBehind touches ('(' :: (name ++ ':' :: t)) =
      ⟨[], .leftParen, ['(']⟩ :: ⟨[], .word name, name⟩ :: ⟨[], .colon, [':']⟩ :: readBehind false t := by
  have hcolon : IsSeparator ':' := isSeparator_of_mem (by simp)
  rw [readBehind_separator (isSeparator_of_mem (by simp)), readBehind_isWord (hcolon.ends t) h,
    readBehind_separator hcolon]
  rfl

/-- **A variable in front** of a character that cannot go on its name. -/
theorem readBehind_variable {x : Text} (hx : Text.IsVariable x) (touches : Bool) :
    readBehind touches ('$' :: (x ++ u)) = ⟨[], .var x, '$' :: x⟩ :: readBehind true u := by
  have hone : readOne touches '$' (x ++ u) = ⟨.var x, '$' :: x, u⟩ := by
    simp [readOne, takeWhile_word hu hx.2, dropWhile_word hu hx.2, hx.1]
  rw [readBehind_cons (by decide), hone]
  rfl

omit hu in
/-- What is read as one variable is a `$` with letters, numerals and `_` behind it. -/
theorem read_eq_var_iff {n : Text} :
    read ('$' :: n) = [⟨[], .var n, '$' :: n⟩] ↔ Text.IsVariable n := by
  constructor
  · intro h
    rw [read, readBehind_cons (by decide)] at h
    have hkind : (readOne false '$' n).kind = .var n := congrArg Token.kind (List.cons.inj h).1
    simp only [readOne, if_true] at hkind
    split at hkind
    · cases hkind
    · rename_i hne
      have hself : n.takeWhile continuesWord = n := Kind.var.inj hkind
      rw [hself, List.isEmpty_iff] at hne
      exact ⟨hne, List.takeWhile_eq_self_iff.mp hself⟩
  · intro h
    have hvar := readBehind_variable (show ([] : Text).head?.any continuesWord = false from rfl) h false
    rwa [List.append_nil, readBehind_nil] at hvar

end Token

end Hyperfiction

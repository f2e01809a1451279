import Hyperfiction.Number.Read
import Hyperfiction.Token.Basic

/-!
# Reading tokens

`Token.read` cuts an argument into tokens and never fails: a character that begins nothing is a token
of its own, and a quotation without end reaches to the end of the text. The tokens tile the text: with
their gaps they give it back, but for blanks at its end (`exists_written_readBehind`).
-/

namespace Hyperfiction.Token

/-- May the character begin a word? -/
def startsWord (c : Char) : Bool := Text.isLetter c || c == '_'

/-- May the character stand in a word or in the name of a lookup? -/
def continuesWord (c : Char) : Bool := Text.isLetter c || Text.isNumeral c || c == '_'

/-- A word behind a gap: the gap with the word, the word, and what follows it. -/
def nextWord? (t : Text) : Option (Text × Text × Text) :=
  let gap := t.takeWhile Text.isBlank
  let rest := t.dropWhile Text.isBlank
  let word := rest.takeWhile continuesWord
  if word.isEmpty then none else some (gap ++ word, word, rest.dropWhile continuesWord)

/-- A token without its gap: what it is, its text, and what follows it. -/
structure Lexeme where
  kind : Kind
  source : Text
  rest : Text

/-- The digits behind a point at the front of a text, and what follows them. -/
def takeFraction : Text → Text × Text
  | [] => ([], [])
  | c :: t =>
    let digits := t.takeWhile Char.isDigit
    if c = '.' ∧ digits ≠ [] then (digits, t.dropWhile Char.isDigit) else ([], c :: t)

/-- The suffixes of ordinal numbers. -/
def ordinals : List Text := ["st".toList, "nd".toList, "rd".toList, "th".toList]

/-- The suffix of an ordinal number at the front of a text, and what follows it. -/
def takeOrdinal (t : Text) : Text × Text :=
  let word := t.takeWhile continuesWord
  if ordinals.contains word then (word, t.dropWhile continuesWord) else ([], t)

/-- A fraction with its point. -/
def pointed (fraction : Text) : Text := if fraction = [] then [] else '.' :: fraction

/-- The number at the front of a text: digits, and a point with digits. An ordinal suffix right behind
it belongs to it. -/
def readNumber (t : Text) : Lexeme :=
  let whole := t.takeWhile Char.isDigit
  let point := takeFraction (t.dropWhile Char.isDigit)
  let suffix := takeOrdinal point.2
  ⟨.number (Number.ofDigits whole point.1), whole ++ pointed point.1 ++ suffix.1, suffix.2⟩

/-- The kind of a word that is no operator of several words. -/
def kindOfWord (w : Text) : Kind :=
  if w = "true".toList then .yes
  else if w = "false".toList then .no
  else if w = "it".toList then .it
  else if w = "to".toList then .to
  else if w = "and".toList then .and
  else if w = "or".toList then .or
  else if w = "not".toList then .not
  else if w = "contains".toList then .contains
  else .word w

/-- The word at the front of a text, with the words behind it that make one operator with it. -/
def readWord (t : Text) : Lexeme :=
  let w := t.takeWhile continuesWord
  let rest := t.dropWhile continuesWord
  if w = "is".toList then
    match nextWord? rest with
    | some (more, next, behind) =>
      if next = "not".toList then ⟨.isNot, w ++ more, behind⟩ else ⟨.is, w, rest⟩
    | none => ⟨.is, w, rest⟩
  else if w = "does".toList then
    match nextWord? rest with
    | some (more, next, behind) =>
      if next = "not".toList then
        match nextWord? behind with
        | some (more', next', behind') =>
          if next' = "contain".toList ∨ next' = "contains".toList then
            ⟨.doesNotContain, w ++ more ++ more', behind'⟩
          else ⟨.word w, w, rest⟩
        | none => ⟨.word w, w, rest⟩
      else ⟨.word w, w, rest⟩
    | none => ⟨.word w, w, rest⟩
  else ⟨kindOfWord w, w, rest⟩

/-- The kind of a character that is a token by itself. -/
def kindOfSign (c : Char) : Kind :=
  match c with
  | '+' => .plus
  | '-' => .minus
  | '*' => .star
  | '/' => .slash
  | '%' => .percent
  | '(' => .leftParen
  | ')' => .rightParen
  | ',' => .comma
  | ':' => .colon
  | c => .unknown c

/-- Is the text that follows a quote the rest of a possessive `'s`? -/
def isPossessive : Text → Bool
  | 's' :: t => !t.head?.any continuesWord
  | _ => false

/-- The token at the front of `c :: t`, where `c` is no blank. `touches` says whether an operand ends
right before it. -/
def readOne (touches : Bool) (c : Char) (t : Text) : Lexeme :=
  if c = '$' then
    let name := t.takeWhile continuesWord
    if name.isEmpty then ⟨.unknown c, [c], t⟩
    else ⟨.var name, c :: name, t.dropWhile continuesWord⟩
  else if c = '\'' ∧ touches ∧ isPossessive t then ⟨.possessive, [c, 's'], t.tail⟩
  else if c = '"' ∨ c = '\'' then
    let body := t.takeWhile (· ≠ c)
    match t.dropWhile (· ≠ c) with
    | [] => ⟨.quoted body, c :: body, []⟩
    | d :: rest => ⟨.quoted body, c :: body ++ [d], rest⟩
  else if c.isDigit ∨ (c = '.' ∧ t.head?.any Char.isDigit) then readNumber (c :: t)
  else if startsWord c then readWord (c :: t)
  else if c = '>' then
    if t.head? = some '=' then ⟨.atLeast, [c, '='], t.tail⟩ else ⟨.greater, [c], t⟩
  else if c = '<' then
    if t.head? = some '=' then ⟨.atMost, [c, '='], t.tail⟩ else ⟨.less, [c], t⟩
  else ⟨kindOfSign c, [c], t⟩

/-! ### What a token takes from the text -/

theorem eq_append_of_nextWord? {t more w u : Text} (h : nextWord? t = some (more, w, u)) :
    t = more ++ u := by
  simp only [nextWord?] at h
  split at h
  · simp at h
  · simp only [Option.some.injEq, Prod.mk.injEq] at h
    obtain ⟨rfl, rfl, rfl⟩ := h
    rw [List.append_assoc, List.takeWhile_append_dropWhile, List.takeWhile_append_dropWhile]

theorem takeFraction_append (t : Text) : pointed (takeFraction t).1 ++ (takeFraction t).2 = t := by
  cases t with
  | nil => rfl
  | cons c t =>
    simp only [takeFraction]
    split
    · rename_i h
      simp [pointed, h]
    · simp [pointed]

theorem takeOrdinal_append (t : Text) : (takeOrdinal t).1 ++ (takeOrdinal t).2 = t := by
  simp only [takeOrdinal]
  split <;> simp

theorem readNumber_append (t : Text) : (readNumber t).source ++ (readNumber t).rest = t := by
  simp [readNumber, takeOrdinal_append, takeFraction_append]

theorem readWord_append (t : Text) : (readWord t).source ++ (readWord t).rest = t := by
  have ht := List.takeWhile_append_dropWhile (p := continuesWord) (l := t)
  simp only [readWord]
  split
  · split
    · rename_i h
      split
      · simp [← eq_append_of_nextWord? h, ht]
      · exact ht
    · exact ht
  · split
    · split
      · rename_i h
        split
        · split
          · rename_i h'
            split
            · simp [← eq_append_of_nextWord? h', ← eq_append_of_nextWord? h, ht]
            · exact ht
          · exact ht
        · exact ht
      · exact ht
    · exact ht

theorem readWord_source_ne_nil {c : Char} {t : Text} (h : continuesWord c) :
    (readWord (c :: t)).source ≠ [] := by
  have hw : (c :: t).takeWhile continuesWord = c :: t.takeWhile continuesWord := by simp [h]
  simp only [readWord]
  rw [hw]
  repeat' split
  all_goals simp

theorem readNumber_source_ne_nil {c : Char} {t : Text}
    (h : c.isDigit ∨ (c = '.' ∧ t.head?.any Char.isDigit)) :
    (readNumber (c :: t)).source ≠ [] := by
  by_cases hc : c.isDigit
  · simp [readNumber, hc]
  · obtain ⟨rfl, hd⟩ := h.resolve_left hc
    cases t with
    | nil => simp at hd
    | cons d t =>
      have hd : d.isDigit := by simpa using hd
      simp [readNumber, takeFraction, pointed, hd]

theorem eq_cons_of_isPossessive {t : Text} (h : isPossessive t) : t = 's' :: t.tail := by
  unfold isPossessive at h
  split at h <;> simp_all

private theorem cons_tail_of_head? {c : Char} {t : Text} (h : t.head? = some c) :
    c :: t.tail = t := by
  cases t <;> simp_all

theorem readOne_append (touches : Bool) (c : Char) (t : Text) :
    (readOne touches c t).source ++ (readOne touches c t).rest = c :: t := by
  simp only [readOne]
  split
  · split
    · rfl
    · simp
  · split
    · rename_i h
      simpa using (eq_cons_of_isPossessive h.2.2).symm
    · split
      · have ht := List.takeWhile_append_dropWhile (p := fun d => decide (d ≠ c)) (l := t)
        split <;> rename_i h <;> rw [h] at ht <;> simpa using ht
      · split
        · exact readNumber_append _
        · split
          · exact readWord_append _
          · split
            · split
              · rename_i h; simpa using cons_tail_of_head? h
              · rfl
            · split
              · split
                · rename_i h; simpa using cons_tail_of_head? h
                · rfl
              · rfl

theorem readOne_source_ne_nil (touches : Bool) (c : Char) (t : Text) :
    (readOne touches c t).source ≠ [] := by
  simp only [readOne]
  split
  · split <;> simp
  · split
    · simp
    · split
      · split <;> simp
      · split
        · rename_i h; exact readNumber_source_ne_nil h
        · split
          · rename_i h
            refine readWord_source_ne_nil ?_
            simp only [startsWord, continuesWord, Bool.or_eq_true] at h ⊢
            rcases h with h | h <;> simp [h]
          · split
            · split <;> simp
            · split
              · split <;> simp
              · simp

theorem length_readOne_rest (touches : Bool) (c : Char) (t : Text) :
    (readOne touches c t).rest.length ≤ t.length := by
  have h := congrArg List.length (readOne_append touches c t)
  have := List.length_pos_iff.2 (readOne_source_ne_nil touches c t)
  simp only [List.length_append, List.length_cons] at h
  omega

/-! ### Reading a whole text -/

/-- The tokens of a text. `touches` says whether an operand ends right before it. -/
def readBehind (touches : Bool) (t : Text) : List Token :=
  match h : t.dropWhile Text.isBlank with
  | [] => []
  | c :: u =>
    let gap := t.takeWhile Text.isBlank
    let x := readOne (touches && gap.isEmpty) c u
    have : x.rest.length < t.length := by
      have h₁ := length_readOne_rest (touches && gap.isEmpty) c u
      have h₂ := congrArg List.length (List.takeWhile_append_dropWhile (p := Text.isBlank) (l := t))
      rw [h] at h₂
      simp only [List.length_append, List.length_cons] at h₂
      simp only [x]
      omega
    ⟨gap, x.kind, x.source⟩ :: readBehind x.kind.endsOperand x.rest
termination_by t.length

theorem readBehind_of_eq_nil {touches : Bool} {t : Text} (h : t.dropWhile Text.isBlank = []) :
    readBehind touches t = [] := by
  rw [readBehind]; split
  · rfl
  · simp_all

theorem readBehind_of_eq_cons {touches : Bool} {t u : Text} {c : Char}
    (h : t.dropWhile Text.isBlank = c :: u) :
    readBehind touches t =
      let gap := t.takeWhile Text.isBlank
      let x := readOne (touches && gap.isEmpty) c u
      ⟨gap, x.kind, x.source⟩ :: readBehind x.kind.endsOperand x.rest := by
  rw [readBehind]; split
  · simp_all
  · rename_i h'
    rw [h] at h'
    obtain ⟨rfl, rfl⟩ := List.cons.inj h'
    rfl

/-- The tokens with their gaps give the text back, but for blanks at its end. -/
theorem exists_written_readBehind (touches : Bool) (t : Text) :
    ∃ b, t = written (readBehind touches t) ++ b ∧ b.all Text.isBlank := by
  have ht := List.takeWhile_append_dropWhile (p := Text.isBlank) (l := t)
  match h : t.dropWhile Text.isBlank with
  | [] =>
    rw [readBehind_of_eq_nil h]
    rw [h, List.append_nil] at ht
    exact ⟨t, rfl, by rw [← ht]; simp⟩
  | c :: u =>
    rw [readBehind_of_eq_cons h]
    have hx := readOne_append (touches && (t.takeWhile Text.isBlank).isEmpty) c u
    have hlt := length_readOne_rest (touches && (t.takeWhile Text.isBlank).isEmpty) c u
    have hlen : u.length < t.length := by
      rw [← ht, h]; simp; omega
    obtain ⟨b, hb, hall⟩ := exists_written_readBehind
      (readOne (touches && (t.takeWhile Text.isBlank).isEmpty) c u).kind.endsOperand
      (readOne (touches && (t.takeWhile Text.isBlank).isEmpty) c u).rest
    refine ⟨b, ?_, hall⟩
    simp only [written, List.append_assoc]
    rw [← hb, hx, ← h, ht]
termination_by t.length

/-- The tokens of a text. -/
def read (t : Text) : List Token := readBehind false t

/-- Does the text compare anything? -/
def hasComparison (t : Text) : Bool := (read t).any fun k => k.kind.isComparison

end Hyperfiction.Token

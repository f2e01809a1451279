import Hyperfiction.Proofs.InPlace.Scanner
import Hyperfiction.Proofs.Number.Plain

/-!
# Tokens read in a buffer

The lexer counts characters and turns their numbers into positions where it cuts a word, a name, a
quotation or a number out of the text (`InPlace.offset`). Its tokens are kinds with spans; that they are the
tokens of the text, at the spans these have there, is `InPlace.tokens_eq`. With it no range that the lexer
asks for is ever refused, and it comes to the end of every text.
-/

namespace Hyperfiction

namespace InPlace

/-- A token found in a buffer. -/
structure TokenAt where
  kind : Token.Kind
  span : Span

/-- Where the tokens are that begin at a position. -/
def TokenAt.list (start : Nat) (ks : List Token) : List TokenAt :=
  List.zipWith (fun k span => ⟨k.kind, span⟩) ks (Token.spans start ks)

/-! ### The steps of the lexer -/

/-- The position of a character of a text. -/
def offset (t : Text) (i : Nat) : Nat := Text.width (t.take i)

/-- The text of the characters between two numbers. -/
def cut (t : Text) (i j : Nat) : Guarded Text := t.slice (offset t i) (offset t j)

/-- The number of the first character from one on that fails a test. -/
def skip (test : Char → Bool) (t : Text) (i : Nat) : Nat := i + ((t.drop i).takeWhile test).length

/-- The word behind a gap, and the number of the character behind it. -/
def nextWord? (t : Text) (i : Nat) : Guarded (Option (Text × Nat)) :=
  let first := skip Text.isBlank t i
  let stop := skip Token.continuesWord t first
  if stop = first then pure none
  else do
    let word ← cut t first stop
    return some (word, stop)

/-- The number of the character behind the suffix of an ordinal number, if there is one. -/
def behindOrdinal (t : Text) (stop : Nat) : Guarded Nat :=
  if t[stop]?.any Token.startsWord then do
    match ← nextWord? t stop with
    | some (word, behind) => return if Token.ordinals.contains word then behind else stop
    | none => return stop
  else pure stop

/-- The number at a character: its value, and the number of the character behind it. -/
def lexNumber (t : Text) (start : Nat) : Guarded (Token.Kind × Nat) := do
  let whole := skip Char.isDigit t start
  let stop :=
    if t[whole]? = some '.' ∧ t[whole + 1]?.any Char.isDigit then skip Char.isDigit t (whole + 1)
    else whole
  let digits ← cut t start stop
  let value :=
    if Text.startsWith digits ['.'] then Number.ofText? ('0' :: digits) else Number.ofText? digits
  return (.number (value.getD 0), ← behindOrdinal t stop)

/-- The word at a character, with the words behind it that make one operator with it. -/
def lexWord (t : Text) (start : Nat) : Guarded (Token.Kind × Nat) := do
  let stop := skip Token.continuesWord t start
  let word ← cut t start stop
  if word = "is".toList then
    match ← nextWord? t stop with
    | some (next, behind) => if next = "not".toList then return (.isNot, behind) else return (.is, stop)
    | none => return (.is, stop)
  else if word = "does".toList then
    match ← nextWord? t stop with
    | some (next, behind) =>
      if next = "not".toList then
        match ← nextWord? t behind with
        | some (last, behind) =>
          if last = "contain".toList ∨ last = "contains".toList then
            return (.doesNotContain, behind)
          else return (.word word, stop)
        | none => return (.word word, stop)
      else return (.word word, stop)
    | none => return (.word word, stop)
  else return (Token.kindOfWord word, stop)

/-- The token at a character that is no blank, and the number of the character behind it. `touches` says
whether an operand ends right before it. -/
def lexOne (t : Text) (i : Nat) (c : Char) (touches : Bool) : Guarded (Token.Kind × Nat) :=
  if c = '$' then
    let stop := skip Token.continuesWord t (i + 1)
    if stop = i + 1 then pure (.unknown c, i + 1)
    else do
      let name ← cut t (i + 1) stop
      return (.var name, stop)
  else if c = '\'' ∧ touches ∧ t[i + 1]? = some 's' ∧ ¬ t[i + 2]?.any Token.continuesWord then
    pure (.possessive, i + 2)
  else if c = '"' ∨ c = '\'' then do
    let stop := skip (· ≠ c) t (i + 1)
    let body ← cut t (i + 1) stop
    return (.quoted body, if t[stop]? = some c then stop + 1 else stop)
  else if c.isDigit ∨ (c = '.' ∧ t[i + 1]?.any Char.isDigit) then lexNumber t i
  else if Token.startsWord c then lexWord t i
  else if c = '>' then
    pure (if t[i + 1]? = some '=' then (.atLeast, i + 2) else (.greater, i + 1))
  else if c = '<' then
    pure (if t[i + 1]? = some '=' then (.atMost, i + 2) else (.less, i + 1))
  else pure (Token.kindOfSign c, i + 1)

/-- The tokens from a character on, behind the token `last`. -/
def tokensFrom (t : Text) (i : Nat) (last : Option TokenAt) : Guarded (List TokenAt) :=
  if h : i < t.length then
    let c := t[i]
    if Text.isBlank c then tokensFrom t (i + 1) last
    else do
      let touches := last.any fun k => k.kind.endsOperand && k.span.stop == offset t i
      let (kind, next) ← lexOne t i c touches
      let token : TokenAt := ⟨kind, ⟨offset t i, offset t next⟩⟩
      if _h : i < next then do
        let more ← tokensFrom t next (some token)
        return token :: more
      else .error .stuck
  else pure []
termination_by t.length - i

/-- The tokens of a text. -/
def tokens (t : Text) : Guarded (List TokenAt) := tokensFrom t 0 none

/-! ### Characters by their numbers -/

/-- The position of a character counts the bytes in front of it. -/
@[simp] theorem offset_append (s u : Text) : offset (s ++ u) s.length = Text.width s := by
  rw [offset, List.take_left]

/-- The text between two characters is granted. -/
theorem cut_append (s m u : Text) :
    cut (s ++ (m ++ u)) s.length (s.length + m.length) = .ok m := by
  have hstop := offset_append (s ++ m) u
  rw [List.append_assoc, List.length_append, Text.width_append] at hstop
  rw [cut, offset_append, hstop, Text.slice_append]

/-- Characters are skipped as long as they pass. -/
theorem skip_append (test : Char → Bool) (s u : Text) :
    skip test (s ++ u) s.length = s.length + (u.takeWhile test).length := by
  rw [skip, List.drop_left]

theorem getElem?_append_length (s u : Text) (n : Nat) : (s ++ u)[s.length + n]? = u[n]? := by
  rw [List.getElem?_append_right (Nat.le_add_right ..), Nat.add_sub_cancel_left]

/-! ### Words -/

theorem nextWord?_append (s u : Text) :
    nextWord? (s ++ u) s.length =
      .ok ((Token.nextWord? u).map fun p => (p.2.1, s.length + p.1.length)) := by
  have hgap : s ++ u.takeWhile Text.isBlank ++ u.dropWhile Text.isBlank = s ++ u := by
    rw [List.append_assoc, List.takeWhile_append_dropWhile]
  have hskip := skip_append Token.continuesWord (s ++ u.takeWhile Text.isBlank)
    (u.dropWhile Text.isBlank)
  have hcut := cut_append (s ++ u.takeWhile Text.isBlank)
    ((u.dropWhile Text.isBlank).takeWhile Token.continuesWord)
    ((u.dropWhile Text.isBlank).dropWhile Token.continuesWord)
  rw [List.takeWhile_append_dropWhile, hgap, List.length_append] at hcut
  rw [hgap, List.length_append] at hskip
  rw [nextWord?, skip_append, hskip, Token.nextWord?]
  simp only [Nat.add_eq_left, List.length_eq_zero_iff, List.isEmpty_iff, hcut]
  split
  · rfl
  · simp only [Guarded.ok_bind, Guarded.pure_eq_ok, Option.map_some, List.length_append,
      Nat.add_assoc]

theorem lexWord_append (s u : Text) :
    lexWord (s ++ u) s.length =
      .ok ((Token.readWord u).kind, s.length + (Token.readWord u).source.length) := by
  have hcut := cut_append s (u.takeWhile Token.continuesWord) (u.dropWhile Token.continuesWord)
  have hnext := nextWord?_append (s ++ u.takeWhile Token.continuesWord)
    (u.dropWhile Token.continuesWord)
  rw [List.takeWhile_append_dropWhile] at hcut
  rw [List.append_assoc, List.takeWhile_append_dropWhile, List.length_append] at hnext
  rw [lexWord, skip_append, hcut, Guarded.ok_bind, Token.readWord]
  simp only [hnext, Guarded.ok_bind]
  split
  · cases hword : Token.nextWord? (u.dropWhile Token.continuesWord) with
    | none => rfl
    | some p =>
      obtain ⟨more, next, behind⟩ := p
      simp only [Option.map_some]
      split
      · simp only [Guarded.pure_eq_ok, List.length_append, Nat.add_assoc]
      · rfl
  · split
    · cases hword : Token.nextWord? (u.dropWhile Token.continuesWord) with
      | none => rfl
      | some p =>
        obtain ⟨more, next, behind⟩ := p
        have hlast := nextWord?_append (s ++ (u.takeWhile Token.continuesWord ++ more)) behind
        rw [List.append_assoc, List.append_assoc, ← Token.eq_append_of_nextWord? hword,
          List.takeWhile_append_dropWhile, List.length_append, List.length_append,
          ← Nat.add_assoc] at hlast
        simp only [Option.map_some, hlast, Guarded.ok_bind]
        split
        · cases Token.nextWord? behind with
          | none => rfl
          | some q =>
            obtain ⟨more', last, behind'⟩ := q
            simp only [Option.map_some]
            split
            · simp only [Guarded.pure_eq_ok, List.length_append, Nat.add_assoc]
            · rfl
        · rfl
    · rfl

/-! ### Numbers -/

theorem ofDigits_cons_zero (fraction : Text) :
    Number.ofDigits ['0'] fraction = Number.ofDigits [] fraction := rfl

/-- What is true of the code points of all blanks is true of a blank. -/
theorem of_isBlank {p : Nat → Prop}
    (h : ∀ r ∈ [(0x9, 0xD), (0x20, 0x20), (0x85, 0x85), (0xA0, 0xA0), (0x1680, 0x1680), (0x2000, 0x200A),
      (0x2028, 0x2029), (0x202F, 0x202F), (0x205F, 0x205F), (0x3000, 0x3000)],
      ∀ k < r.2 + 1 - r.1, p (r.1 + k)) {c : Char} (hc : Text.isBlank c) : p c.toNat := by
  obtain ⟨r, hr, hlow, hhigh⟩ := Text.inRanges_iff.mp hc
  have hchar := h r hr (c.toNat - r.1) (by omega)
  rwa [Nat.add_sub_cancel' hlow] at hchar

/-- No blank begins a word. -/
theorem isBlank_of_startsWord {c : Char} (h : Token.startsWord c) : Text.isBlank c = false := by
  rw [Bool.eq_false_iff]
  intro hblank
  have hletter : Text.inRanges Text.letterRanges c.toNat = false :=
    of_isBlank (p := fun n => Text.inRanges Text.letterRanges n = false) (by decide +kernel) hblank
  have hsign : ¬ (65 ≤ c.toNat ∧ c.toNat ≤ 90) ∧ ¬ (97 ≤ c.toNat ∧ c.toNat ≤ 122) :=
    of_isBlank (p := fun n => ¬ (65 ≤ n ∧ n ≤ 90) ∧ ¬ (97 ≤ n ∧ n ≤ 122)) (by decide +kernel) hblank
  simp only [Token.startsWord, Text.isLetter, hletter, Bool.or_false, Bool.or_eq_true, beq_iff_eq] at h
  rcases h with h | rfl
  · have hcase := Text.ranges_of_isAlpha h
    omega
  · exact absurd hblank (by decide)

private theorem continuesWord_of_startsWord {c : Char} (h : Token.startsWord c) :
    Token.continuesWord c := by
  rw [Token.startsWord, Bool.or_eq_true] at h
  rw [Token.continuesWord, Bool.or_eq_true, Bool.or_eq_true]
  exact h.imp_left .inl

/-- The suffix of an ordinal number is the word right behind it. -/
theorem behindOrdinal_append (s w : Text) :
    behindOrdinal (s ++ w) s.length = .ok (s.length + (Token.takeOrdinal w).1.length) := by
  have hget := getElem?_append_length s w 0
  rw [Nat.add_zero] at hget
  rw [behindOrdinal, hget, nextWord?_append, Token.takeOrdinal]
  cases w with
  | nil => rfl
  | cons c w =>
    rw [List.getElem?_cons_zero, Option.any_some]
    by_cases hc : Token.startsWord c
    · have hword : Token.nextWord? (c :: w) = some ((c :: w).takeWhile Token.continuesWord,
          (c :: w).takeWhile Token.continuesWord, (c :: w).dropWhile Token.continuesWord) := by
        simp [Token.nextWord?, isBlank_of_startsWord hc, continuesWord_of_startsWord hc]
      rw [if_pos hc, Guarded.ok_bind, hword]
      simp only [Option.map_some]
      split <;> rfl
    · have hnone : Token.ordinals.contains ((c :: w).takeWhile Token.continuesWord) = false := by
        have hall : ∀ word ∈ Token.ordinals, word.head?.any Token.startsWord := by decide
        rw [Bool.eq_false_iff]
        intro hmem
        have hhead := hall _ (List.contains_iff_mem.mp hmem)
        rw [List.takeWhile_cons] at hhead
        split at hhead
        · exact hc hhead
        · cases hhead
      rw [if_neg hc, hnone]
      rfl

/-- The digits of a number end behind those of its fraction. -/
private theorem fraction_eq (s v : Text) :
    (if (s ++ v)[s.length]? = some '.' ∧ (s ++ v)[s.length + 1]?.any Char.isDigit then
        skip Char.isDigit (s ++ v) (s.length + 1) else s.length) =
      s.length + (Token.pointed (Token.takeFraction v).1).length := by
  have hget := getElem?_append_length s v 0
  have hnext := getElem?_append_length s v 1
  rw [Nat.add_zero] at hget
  rw [hget, hnext]
  cases v with
  | nil => rfl
  | cons c v =>
    have hskip := skip_append Char.isDigit (s ++ [c]) v
    rw [← List.append_cons, List.length_append, List.length_singleton] at hskip
    have hdigits : v[0]?.any Char.isDigit ↔ v.takeWhile Char.isDigit ≠ [] := by
      cases v with
      | nil => simp
      | cons d v => simp
    rw [hskip, Token.takeFraction]
    simp only [List.getElem?_cons_zero, List.getElem?_cons_succ, Option.some.injEq, hdigits]
    split
    · rename_i h
      rw [Token.pointed, if_neg h.2, List.length_cons, Nat.add_assoc, Nat.add_comm 1]
    · rfl

private theorem isDigit_of_mem_takeFraction {v : Text} {c : Char} (h : c ∈ (Token.takeFraction v).1) :
    c.isDigit := by
  cases v with
  | nil => cases h
  | cons d v =>
    rw [Token.takeFraction] at h
    split at h
    · exact List.mem_takeWhile_imp h
    · cases h

/-- **A number is read in place**, up to its last digit. -/
theorem lexNumber_append {s u : Text}
    (h : u.takeWhile Char.isDigit ≠ [] ∨ (Token.takeFraction (u.dropWhile Char.isDigit)).1 ≠ []) :
    lexNumber (s ++ u) s.length =
      .ok ((Token.readNumber u).kind, s.length + (Token.readNumber u).source.length) := by
  have hwhole : ∀ c ∈ u.takeWhile Char.isDigit, c.isDigit := fun c hc => List.mem_takeWhile_imp hc
  have hfraction := fraction_eq (s ++ u.takeWhile Char.isDigit) (u.dropWhile Char.isDigit)
  have hsplit := Token.takeFraction_append (u.dropWhile Char.isDigit)
  rw [List.append_assoc, List.takeWhile_append_dropWhile, List.length_append] at hfraction
  rw [lexNumber, skip_append]
  simp only [hfraction]
  rw [Token.readNumber]
  have hdigits := fun c => isDigit_of_mem_takeFraction (v := u.dropWhile Char.isDigit) (c := c)
  generalize Token.takeFraction (u.dropWhile Char.isDigit) = point at *
  obtain ⟨fraction, w⟩ := point
  have hu : u = u.takeWhile Char.isDigit ++ Token.pointed fraction ++ w := by
    rw [List.append_assoc, hsplit, List.takeWhile_append_dropWhile]
  generalize u.takeWhile Char.isDigit = whole at *
  subst hu
  have hcut := cut_append s (whole ++ Token.pointed fraction) w
  have hsuffix := behindOrdinal_append (s ++ (whole ++ Token.pointed fraction)) w
  rw [List.append_assoc, List.length_append, List.length_append, ← Nat.add_assoc] at hsuffix
  rw [List.length_append, ← Nat.add_assoc] at hcut
  rw [hcut, Guarded.ok_bind, hsuffix, Guarded.ok_bind]
  -- A point in front is read with a zero before it, which is no other number.
  have hvalue : (if Text.startsWith (whole ++ Token.pointed fraction) ['.'] then
      Number.ofText? ('0' :: (whole ++ Token.pointed fraction))
        else Number.ofText? (whole ++ Token.pointed fraction)) =
      some (Number.ofDigits whole fraction) := by
    have hread {digits : Text} (hne : digits ≠ []) (hdigit : ∀ c ∈ digits, c.isDigit) :
        Number.ofText? (digits ++ Token.pointed fraction) = some (Number.ofDigits digits fraction) :=
      Number.Literal.ofText?_text
        ⟨none, digits, fraction, List.forall_mem_append.mpr ⟨hdigit, hdigits⟩, hne⟩
    cases whole with
    | nil =>
      have hne : fraction ≠ [] := h.resolve_left fun h => h rfl
      have hdigit : ∀ c ∈ ['0'], c.isDigit := by
        intro c hc
        rw [List.mem_singleton.mp hc]
        rfl
      have hzero := hread (List.cons_ne_nil '0' []) hdigit
      rw [List.nil_append, Token.pointed, if_neg hne, if_pos (startsWith_cons '.' fraction)]
      rw [Token.pointed, if_neg hne, List.singleton_append] at hzero
      rw [hzero, ofDigits_cons_zero]
    | cons d whole =>
      have hpoint : Text.startsWith (d :: whole ++ Token.pointed fraction) ['.'] = false := by
        have hd : d ≠ '.' := by
          rintro rfl
          exact absurd (hwhole '.' List.mem_cons_self) (by decide)
        simp [Text.startsWith, Text.after?, hd]
      rw [hpoint]
      exact hread (List.cons_ne_nil d whole) hwhole
  rw [hvalue]
  simp only [Guarded.pure_eq_ok, Option.getD_some, List.length_append, Nat.add_assoc]

/-! ### Tokens -/

/-- Is what stands behind a quote the rest of a possessive? -/
private theorem isPossessive_iff (u : Text) :
    u.head? = some 's' ∧ ¬ u[1]?.any Token.continuesWord ↔ Token.isPossessive u := by
  match u with
  | [] => simp [Token.isPossessive]
  | [c] =>
    by_cases hc : c = 's'
    · simp [Token.isPossessive, hc]
    · simp [Token.isPossessive, hc]
  | c :: d :: u =>
    by_cases hc : c = 's'
    · simp [Token.isPossessive, hc]
    · simp [Token.isPossessive, hc]

/-- **A token is read in place.** -/
theorem lexOne_append (s : Text) (c : Char) (u : Text) (touches : Bool) :
    lexOne (s ++ c :: u) s.length c touches =
      .ok ((Token.readOne touches c u).kind,
        s.length + (Token.readOne touches c u).source.length) := by
  have hnext (n : Nat) : (s ++ c :: u)[s.length + (n + 1)]? = u[n]? := by
    rw [getElem?_append_length, List.getElem?_cons_succ]
  have hskip (test : Char → Bool) : skip test (s ++ c :: u) (s.length + 1) =
      s.length + 1 + (u.takeWhile test).length := by
    have h := skip_append test (s ++ [c]) u
    rwa [← List.append_cons, List.length_append, List.length_singleton] at h
  have hcut (test : Char → Bool) : cut (s ++ c :: u) (s.length + 1)
      (s.length + 1 + (u.takeWhile test).length) = .ok (u.takeWhile test) := by
    have h := cut_append (s ++ [c]) (u.takeWhile test) (u.dropWhile test)
    rwa [List.takeWhile_append_dropWhile, ← List.append_cons, List.length_append,
      List.length_singleton] at h
  have hstop : (s ++ c :: u)[s.length + 1 + (u.takeWhile (· ≠ c)).length]? =
      (u.dropWhile (· ≠ c)).head? := by
    have h := getElem?_append_length (s ++ c :: u.takeWhile (· ≠ c)) (u.dropWhile (· ≠ c)) 0
    rw [List.append_assoc, List.cons_append, List.takeWhile_append_dropWhile, List.length_append,
      List.length_cons, Nat.add_zero, ← List.head?_eq_getElem?] at h
    rw [← h, Nat.add_assoc, Nat.add_comm 1]
  have hfirst := hnext 0
  have hsecond := hnext 1
  rw [lexOne, Token.readOne]
  simp only [hskip, hcut, Nat.add_eq_left, List.length_eq_zero_iff, List.isEmpty_iff, hfirst,
    hsecond, hstop, isPossessive_iff, Guarded.ok_bind, Guarded.pure_eq_ok, ← List.head?_eq_getElem?]
  split
  · split
    · rfl
    · simp only [List.length_cons, Nat.add_assoc, Nat.add_comm 1]
  · split
    · rfl
    · split
      · cases hrest : u.dropWhile (· ≠ c) with
        | nil => simp [Nat.add_assoc, Nat.add_comm 1]
        | cons d rest =>
          have hd : d = c := by
            have h := List.head?_dropWhile_not (fun x => decide (x ≠ c)) u
            rw [hrest] at h
            simpa using h
          simp [hd, Nat.add_assoc, Nat.add_comm 1]
      · split
        · rename_i h
          refine lexNumber_append ?_
          rcases h with hc | ⟨rfl, hdigit⟩
          · left
            simp [hc]
          · right
            cases u with
            | nil => cases hdigit
            | cons d u =>
              have hd : d.isDigit := hdigit
              simp [Token.takeFraction, hd]
        · split
          · exact lexWord_append s (c :: u)
          · split
            · split <;> rfl
            · split
              · split <;> rfl
              · rfl

@[simp] theorem TokenAt.list_nil (start : Nat) : TokenAt.list start [] = [] := rfl

/-- The tokens behind one begin where it ends. -/
theorem TokenAt.list_cons (start : Nat) (k : Token) (ks : List Token) :
    TokenAt.list start (k :: ks) =
      ⟨k.kind, ⟨start + Text.width k.gap, start + Text.width k.gap + Text.width k.source⟩⟩ ::
        TokenAt.list (start + Text.width k.gap + Text.width k.source) ks := rfl

/-- Blanks are skipped one after the other. -/
private theorem tokensFrom_gap (s gap u : Text) (last : Option TokenAt)
    (hgap : ∀ c ∈ gap, Text.isBlank c) :
    tokensFrom (s ++ (gap ++ u)) s.length last =
      tokensFrom (s ++ (gap ++ u)) (s.length + gap.length) last := by
  induction gap generalizing s with
  | nil => rfl
  | cons c gap ih =>
    have hstep := ih (s ++ [c]) fun d hd => hgap d (List.mem_cons_of_mem _ hd)
    rw [← List.append_cons, List.length_append, List.length_singleton] at hstep
    have hlt : s.length < (s ++ (c :: gap ++ u)).length := by simp
    have hget : (s ++ (c :: gap ++ u))[s.length] = c := by simp
    rw [tokensFrom, dif_pos hlt]
    simp only [hget, hgap c List.mem_cons_self, if_true]
    rw [List.cons_append, hstep, List.length_cons, Nat.add_assoc, Nat.add_comm 1]

/-- Behind blanks one token is read, and then what follows it. -/
private theorem tokensFrom_token {s : Text} (gap : Text) {c : Char} (v : Text) {last : Option TokenAt}
    (hc : Text.isBlank c = false) (hlast : ∀ k ∈ last, k.span.stop = Text.width s) :
    let x := Token.readOne ((last.any fun k => k.kind.endsOperand) && gap.isEmpty) c v
    let token : TokenAt := ⟨x.kind, ⟨Text.width s + Text.width gap,
      Text.width s + Text.width gap + Text.width x.source⟩⟩
    tokensFrom (s ++ (gap ++ c :: v)) (s.length + gap.length) last = do
      let more ← tokensFrom (s ++ (gap ++ x.source) ++ x.rest) (s ++ (gap ++ x.source)).length token
      return token :: more := by
  have htext : s ++ (gap ++ c :: v) = s ++ gap ++ c :: v := (List.append_assoc ..).symm
  have hlt : s.length + gap.length < (s ++ (gap ++ c :: v)).length := by simp
  have hget : (s ++ (gap ++ c :: v))[s.length + gap.length] = c := by simp
  have hoffset : offset (s ++ (gap ++ c :: v)) (s.length + gap.length) =
      Text.width s + Text.width gap := by
    rw [htext, ← List.length_append, offset_append, Text.width_append]
  have htouches : (last.any fun k => k.kind.endsOperand &&
      k.span.stop == Text.width s + Text.width gap) =
        ((last.any fun k => k.kind.endsOperand) && gap.isEmpty) := by
    cases last with
    | none => rfl
    | some k =>
      have hempty : (Text.width s == Text.width s + Text.width gap) = gap.isEmpty := by
        rw [Bool.eq_iff_iff, beq_iff_eq, List.isEmpty_iff, ← Text.width_eq_zero_iff]
        omega
      rw [Option.any_some, Option.any_some, hlast k rfl, hempty]
  generalize ((last.any fun k => k.kind.endsOperand) && gap.isEmpty) = touches at *
  have hone := lexOne_append (s ++ gap) c v touches
  have happ := Token.readOne_append touches c v
  have hpos := List.length_pos_iff.mpr (Token.readOne_source_ne_nil touches c v)
  generalize Token.readOne touches c v = x at *
  have hbehind : s ++ (gap ++ x.source) ++ x.rest = s ++ (gap ++ c :: v) := by
    rw [List.append_assoc, List.append_assoc, happ]
  have hplace : (s ++ (gap ++ x.source)).length = s.length + gap.length + x.source.length := by
    rw [List.length_append, List.length_append, Nat.add_assoc]
  have hstop : offset (s ++ (gap ++ c :: v)) (s.length + gap.length + x.source.length) =
      Text.width s + Text.width gap + Text.width x.source := by
    rw [← hbehind, ← hplace, offset_append, Text.width_append, Text.width_append, Nat.add_assoc]
  rw [← htext, List.length_append] at hone
  rw [tokensFrom, dif_pos hlt]
  simp only [hget, hc, Bool.false_eq_true, if_false, hoffset, htouches, hone, Guarded.ok_bind, hstop,
    hbehind, hplace]
  rw [dif_pos (by omega)]

/-- **The tokens of a text are read in place**, each at its span. -/
theorem tokensFrom_append (s u : Text) (last : Option TokenAt)
    (hlast : ∀ k ∈ last, k.span.stop = Text.width s) :
    tokensFrom (s ++ u) s.length last =
      .ok (TokenAt.list (Text.width s)
        (Token.readBehind (last.any fun k => k.kind.endsOperand) u)) := by
  induction hn : u.length using Nat.strongRecOn generalizing s u last with
  | ind n ih =>
  subst hn
  have hsplit : u.takeWhile Text.isBlank ++ u.dropWhile Text.isBlank = u :=
    List.takeWhile_append_dropWhile
  have hgap := tokensFrom_gap s (u.takeWhile Text.isBlank) (u.dropWhile Text.isBlank) last
    fun c hc => List.mem_takeWhile_imp hc
  rw [hsplit] at hgap
  rw [hgap]
  cases hrest : u.dropWhile Text.isBlank with
  | nil =>
    have hlen : ¬ s.length + (u.takeWhile Text.isBlank).length < (s ++ u).length := by
      rw [List.length_append, ← congrArg List.length hsplit, hrest, List.append_nil]
      omega
    rw [tokensFrom, dif_neg hlen, Token.readBehind_of_eq_nil hrest]
    rfl
  | cons c v =>
    have hc : Text.isBlank c = false := by
      have h := List.head?_dropWhile_not Text.isBlank u
      rw [hrest] at h
      simpa using h
    rw [Token.readBehind_of_eq_cons hrest]
    rw [hrest] at hsplit
    generalize u.takeWhile Text.isBlank = gap at *
    subst hsplit
    have htoken := tokensFrom_token gap v hc hlast
    have happ := Token.readOne_append ((last.any fun k => k.kind.endsOperand) && gap.isEmpty) c v
    have hne := Token.readOne_source_ne_nil ((last.any fun k => k.kind.endsOperand) && gap.isEmpty) c v
    generalize hx : Token.readOne ((last.any fun k => k.kind.endsOperand) && gap.isEmpty) c v = x at *
    have hpos := List.length_pos_iff.mpr hne
    have hshort : x.rest.length < (gap ++ c :: v).length := by
      rw [← happ, List.length_append, List.length_append]
      omega
    have hmore := ih x.rest.length hshort (s ++ (gap ++ x.source)) x.rest
      (some ⟨x.kind, ⟨Text.width s + Text.width gap,
        Text.width s + Text.width gap + Text.width x.source⟩⟩) (by simp [Nat.add_assoc]) rfl
    rw [Text.width_append, Text.width_append, ← Nat.add_assoc] at hmore
    simp only [htoken, hmore, hx, Guarded.ok_bind, Guarded.pure_eq_ok, Option.any_some, TokenAt.list_cons]

/-- **The tokens of a buffer are those of its text.** -/
theorem tokens_eq (t : Text) : tokens t = .ok (TokenAt.list 0 (Token.read t)) :=
  tokensFrom_append [] t none (by simp)

end InPlace

end Hyperfiction

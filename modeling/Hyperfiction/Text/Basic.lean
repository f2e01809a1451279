/-!
# Texts and positions in them

A text is a list of characters. A position in a text counts bytes of its UTF-8 form, so it may fall
inside a character or past the end; `Text.dropTo?` cuts at a position that is a boundary and
`Text.dropPast` at the first boundary that is not before it. `Text.width_append` and
`Text.dropTo?_append` say that positions and suffixes are two views of one thing: every operation of
this library works on suffixes, and its positions are found by adding widths.
-/

namespace Hyperfiction

/-- A **text** is the list of its characters. -/
abbrev Text := List Char

/-- A stretch of a text, from `start` up to but not including `stop`. -/
structure Span where
  start : Nat
  stop : Nat
deriving DecidableEq

namespace Text

/-- The **width** of a text is the number of bytes of its UTF-8 form. -/
def width : Text → Nat
  | [] => 0
  | c :: t => c.utf8Size + width t

@[simp] theorem width_nil : width [] = 0 := rfl

@[simp] theorem width_cons (c : Char) (t : Text) : width (c :: t) = c.utf8Size + width t := rfl

@[simp] theorem width_append (s t : Text) : width (s ++ t) = width s + width t := by
  induction s with
  | nil => simp
  | cons c s ih => simp [ih, Nat.add_assoc]

/-- The suffix that starts at a position, if the position is a boundary between characters. -/
def dropTo? : Text → Nat → Option Text
  | t, 0 => some t
  | [], _ + 1 => none
  | c :: t, n + 1 => if c.utf8Size ≤ n + 1 then dropTo? t (n + 1 - c.utf8Size) else none

/-- The suffix that starts at the first boundary at or after a position. -/
def dropPast : Text → Nat → Text
  | t, 0 => t
  | [], _ + 1 => []
  | _c :: t, n + 1 => dropPast t (n + 1 - _c.utf8Size)

/-- The characters that start before a position. -/
def takePast : Text → Nat → Text
  | _, 0 => []
  | [], _ + 1 => []
  | c :: t, n + 1 => c :: takePast t (n + 1 - c.utf8Size)

@[simp] theorem dropTo?_zero (t : Text) : dropTo? t 0 = some t := by
  cases t <;> rfl

theorem dropTo?_append (s t : Text) : dropTo? (s ++ t) (width s) = some t := by
  induction s with
  | nil => simp
  | cons c s ih =>
    have h := c.utf8Size_pos
    obtain ⟨n, hn⟩ : ∃ n, c.utf8Size + width s = n + 1 := ⟨c.utf8Size + width s - 1, by omega⟩
    have hle : c.utf8Size ≤ n + 1 := by omega
    have hsub : n + 1 - c.utf8Size = width s := by omega
    simp [hn, dropTo?, hle, hsub, ih]

theorem eq_append_of_dropTo? {t u : Text} {n : Nat} (h : dropTo? t n = some u) :
    ∃ s, t = s ++ u ∧ width s = n := by
  induction t generalizing n with
  | nil =>
    cases n with
    | zero => exact ⟨[], by simpa using h, rfl⟩
    | succ n => simp [dropTo?] at h
  | cons c t ih =>
    cases n with
    | zero => exact ⟨[], by simpa using h, rfl⟩
    | succ n =>
      simp only [dropTo?] at h
      split at h
      · obtain ⟨s, hs, hw⟩ := ih h
        exact ⟨c :: s, by simp [hs], by simp [hw]; omega⟩
      · simp at h

theorem takePast_append_dropPast (t : Text) (n : Nat) : takePast t n ++ dropPast t n = t := by
  induction t generalizing n with
  | nil => cases n <;> rfl
  | cons c t ih =>
    cases n with
    | zero => rfl
    | succ n => simp [takePast, dropPast, ih]

/-! ### Searching -/

/-- What follows `lead`, if the text begins with it. -/
def after? : Text → Text → Option Text
  | t, [] => some t
  | [], _ :: _ => none
  | c :: t, l :: lead => if c = l then after? t lead else none

theorem after?_eq_some {t lead u : Text} : after? t lead = some u ↔ t = lead ++ u := by
  induction lead generalizing t with
  | nil => cases t <;> simp [after?]
  | cons l lead ih =>
    cases t with
    | nil => simp [after?]
    | cons c t =>
      by_cases hc : c = l
      · simp [after?, hc, ih]
      · simp [after?, hc]

/-- Does the text begin with `lead`? -/
def startsWith (t lead : Text) : Bool := (after? t lead).isSome

/-- What stands before and after the first occurrence of `needle`. -/
def breakOn? (needle : Text) : Text → Option (Text × Text)
  | [] => (after? [] needle).map fun u => ([], u)
  | c :: t =>
    match after? (c :: t) needle with
    | some u => some ([], u)
    | none => (breakOn? needle t).map fun (b, u) => (c :: b, u)

theorem eq_append_of_breakOn? {needle t b u : Text} (h : breakOn? needle t = some (b, u)) :
    t = b ++ (needle ++ u) := by
  induction t generalizing b with
  | nil =>
    simp only [breakOn?, Option.map_eq_some_iff, Prod.mk.injEq] at h
    obtain ⟨v, hv, rfl, rfl⟩ := h
    simpa using after?_eq_some.1 hv
  | cons c t ih =>
    simp only [breakOn?] at h
    split at h
    · rename_i v hv
      simp only [Option.some.injEq, Prod.mk.injEq] at h
      obtain ⟨rfl, rfl⟩ := h
      simpa using after?_eq_some.1 hv
    · simp only [Option.map_eq_some_iff, Prod.mk.injEq, Prod.exists] at h
      obtain ⟨b', u', hb, rfl, rfl⟩ := h
      simp [ih hb]

/-- What stands before and after the last occurrence of `needle`. -/
def breakOnLast? (needle : Text) : Text → Option (Text × Text)
  | [] => (after? [] needle).map fun u => ([], u)
  | c :: t =>
    match breakOnLast? needle t with
    | some (b, u) => some (c :: b, u)
    | none => (after? (c :: t) needle).map fun u => ([], u)

/-- Does `needle` occur in the text? -/
def includes (t needle : Text) : Bool := (breakOn? needle t).isSome

/-- The parts of a text between the occurrences of a character. -/
def splitOn (sep : Char) : Text → List Text
  | [] => [[]]
  | c :: t =>
    match splitOn sep t with
    | [] => [[c]]
    | part :: parts => if c = sep then [] :: part :: parts else (c :: part) :: parts

/-- The decimal digits of a natural number. -/
def ofNat (n : Nat) : Text := Nat.toDigits 10 n

/-- The value of a text of decimal digits. -/
def digitsValue (t : Text) : Nat := t.foldl (fun n c => n * 10 + (c.toNat - '0'.toNat)) 0

/-- The value of a hexadecimal digit. -/
def hexDigit? (c : Char) : Option Nat :=
  if '0' ≤ c ∧ c ≤ '9' then some (c.toNat - '0'.toNat)
  else if 'a' ≤ c ∧ c ≤ 'f' then some (c.toNat - 'a'.toNat + 10)
  else if 'A' ≤ c ∧ c ≤ 'F' then some (c.toNat - 'A'.toNat + 10)
  else none

/-- The number that digits write in a base of at most 16. -/
def digitsValue? (base : Nat) (digits : Text) : Option Nat :=
  digits.foldlM (fun n c =>
    match hexDigit? c with
    | some d => if d < base then some (n * base + d) else none
    | none => none) 0

/-- The character of a code point. -/
def ofCodePoint? (n : Nat) : Option Char :=
  if h : n.isValidChar then some (Char.ofNatAux n h) else none

/-- The text with the end of a line. -/
def line (t : Text) : Text := t ++ ['\n']

end Text

end Hyperfiction

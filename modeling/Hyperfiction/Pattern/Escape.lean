import Hyperfiction.Pattern.Flags

/-!
# Escapes of patterns

What stands behind a backslash: a character, a set or a place.
-/

namespace Hyperfiction.Pattern

/-- What an escape stands for. -/
inductive Escape where
  | literal (c : Char)
  | set (s : CharSet)
  | anchor (a : Anchor)

/-- The characters that mean something in a pattern. -/
def isMeta (c : Char) : Bool := "\\.+*?()|[]\x7b\x7d^$#&-~".toList.contains c

/-- May the character be escaped to stand for itself? -/
def isEscapable (c : Char) : Bool :=
  isMeta c || (c.toNat < 128 && !c.isAlphanum && c != '<' && c != '>')

/-- What stands between braces, behind the first of which the text begins. -/
def readBraced (f : Flags) (t : Text) : Except PatternError (Text × Text) :=
  let (name, rest) := f.takeWhile (· ≠ '\x7d') (f.skip t)
  match rest with
  | [] => .error .badEscape
  | _ :: rest => .ok (name, rest)

/-! ### Code points -/

/-- The character of a code point in hexadecimal digits. -/
def ofHex (digits : Text) : Except PatternError Char :=
  match Text.digitsValue? 16 digits |>.bind Text.ofCodePoint? with
  | some c => if digits.isEmpty then .error .badCodePoint else .ok c
  | none => .error .badCodePoint

/-- A number of characters; what does not count is left out behind each. -/
def readSome (f : Flags) : Nat → Text → Except PatternError (Text × Text)
  | 0, t => .ok ([], t)
  | _ + 1, [] => .error .badEscape
  | n + 1, c :: t => do
    let (cs, rest) ← readSome f n (f.skip t)
    return (c :: cs, rest)

/-- The code point behind `\x`, `\u` or `\U`: in braces, or of a fixed number of digits. Two digits
write a byte, which must be a character of its own without Unicode. -/
def readHex (f : Flags) (count : Nat) (t : Text) : Except PatternError (Char × Text) := do
  match f.skip t with
  | '\x7b' :: t =>
    let (digits, rest) ← readBraced f t
    return (← ofHex digits, rest)
  | t =>
    let (digits, rest) ← readSome f count t
    let c ← ofHex digits
    if !f.unicode && count == 2 && 127 < c.toNat then throw .invalidBytes
    return (c, rest)

/-! ### Properties -/

/-- The set that a text in braces stands for: a name, or a property and one of its values, with `!=`, `:`
or `=` between them. All three are read as `=`. -/
def ofBraced? (t : Text) : Option CharSet :=
  match (Text.breakOn? "!=".toList t).or (Text.breakOn? [':'] t) |>.or (Text.breakOn? ['='] t) with
  | some (property, value) => CharSet.ofValue? property value
  | none => CharSet.ofName? t

/-- The property behind `\p` or `\P`: one letter, or a name in braces. -/
def readProperty (f : Flags) (negated : Bool) (t : Text) : Except PatternError (CharSet × Text) := do
  if !f.unicode then throw .invalidBytes
  let (s, rest) ← match f.skip t with
    | [] => throw .badEscape
    | '\\' :: _ => throw .badEscape
    | '\x7b' :: t => do
      let (name, rest) ← readBraced f t
      pure (ofBraced? name, rest)
    | c :: rest => pure (CharSet.ofName? [c], rest)
  match s with
  | none => throw .unknownProperty
  | some s => return (← f.named negated s, rest)

/-! ### Word boundaries -/

/-- The anchor that a name in braces behind `\b` gives. -/
def boundary? (name : Text) : Option Anchor :=
  if name = "start".toList then some .wordStart
  else if name = "end".toList then some .wordEnd
  else if name = "start-half".toList then some .wordStartHalf
  else if name = "end-half".toList then some .wordEndHalf
  else none

/-- The word boundary behind `\b`. Braces with a letter or a hyphen in front hold its name, any others a
count of repetitions, which is left. -/
def readBoundary (f : Flags) (t : Text) : Except PatternError (Anchor × Text) :=
  match t with
  | '\x7b' :: inner =>
    match f.takeWhile (fun c => c.isAlpha || c == '-') (f.skip inner) with
    | ([], []) => .error .badEscape
    | ([], _) => .ok (.wordBoundary, t)
    | (name, '\x7d' :: rest) =>
      match boundary? name with
      | some a => .ok (a, rest)
      | none => .error .badEscape
    | _ => .error .badEscape
  | _ => .ok (.wordBoundary, t)

/-! ### Escapes -/

/-- What stands behind a backslash. -/
def readEscape (f : Flags) : Text → Except PatternError (Escape × Text)
  | [] => .error .badEscape
  | c :: t => do
    if c.isDigit then throw .backreference
    if isEscapable c then return (.literal c, t)
    match c with
    | 'x' => (readHex f 2 t).map fun (d, rest) => (.literal d, rest)
    | 'u' => (readHex f 4 t).map fun (d, rest) => (.literal d, rest)
    | 'U' => (readHex f 8 t).map fun (d, rest) => (.literal d, rest)
    | 'p' => (readProperty f false t).map fun (s, rest) => (.set s, rest)
    | 'P' => (readProperty f true t).map fun (s, rest) => (.set s, rest)
    | 'd' | 's' | 'w' | 'D' | 'S' | 'W' => return (.set (← f.letterClass c), t)
    | 'a' => return (.literal '\x07', t)
    | 'f' => return (.literal '\x0c', t)
    | 't' => return (.literal '\t', t)
    | 'n' => return (.literal '\n', t)
    | 'r' => return (.literal '\r', t)
    | 'v' => return (.literal '\x0b', t)
    | 'A' => return (.anchor .textStart, t)
    | 'z' => return (.anchor .textEnd, t)
    | 'b' => (readBoundary f t).map fun (a, rest) => (.anchor a, rest)
    | 'B' => return (.anchor .noWordBoundary, t)
    | '<' => return (.anchor .wordStart, t)
    | '>' => return (.anchor .wordEnd, t)
    | _ => throw .badEscape

end Hyperfiction.Pattern

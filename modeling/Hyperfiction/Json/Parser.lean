import Hyperfiction.Json.Node

/-!
# Reading JSON

The values of a list and the fields of an object have a comma between them and none behind the last.
Blanks may stand between all parts. Values may be nested `maxDepth` deep.

A reader of records asks for the fields that it wants (`Json.Wanted`). The values of other fields are
passed over (`Json.skipValue`): they have to be written as values are, but may be nested as deep as they
like, and an escape in them may name half a character.
-/

namespace Hyperfiction.Json

/-- How deep lists and objects may be nested. -/
def maxDepth : Nat := 127

/-- Is the character a blank of JSON? -/
def isSpace (c : Char) : Bool := c == ' ' || c == '\t' || c == '\n' || c == '\r'

/-- What follows blanks. -/
def skip (t : Text) : Text := t.dropWhile isSpace

/-! ### Texts -/

/-- The value of four hexadecimal digits, and what follows them. -/
def readCode? : Text → Option (Nat × Text)
  | a :: b :: c :: d :: t => (Text.digitsValue? 16 [a, b, c, d]).map fun n => (n, t)
  | _ => none

theorem length_readCode? {t rest : Text} {n : Nat} (h : readCode? t = some (n, rest)) :
    rest.length ≤ t.length := by
  unfold readCode? at h
  split at h
  · obtain ⟨_, _, e⟩ := Option.map_eq_some_iff.1 h
    simp_all only [Prod.mk.injEq, List.length_cons]
    omega
  · simp at h

/-- The character of a code behind `\u`, and what follows it. A code of the first half of a pair has to
be followed by one of the second half. -/
def readCoded (t : Text) : Except Fault (Char × Text) := do
  let some (n, rest) := readCode? t | throw .badEscape
  if let some c := Text.ofCodePoint? n then return (c, rest)
  let some (m, rest) := (Text.after? rest ['\\', 'u']).bind readCode? | throw .badEscape
  if 0xDC00 ≤ n ∨ m < 0xDC00 ∨ 0xE000 ≤ m then throw .badEscape
  let some c := Text.ofCodePoint? (0x10000 + (n - 0xD800) * 0x400 + (m - 0xDC00)) | throw .badEscape
  return (c, rest)

/-- The character that an escape behind a backslash stands for, and what follows it. -/
def readEscape : Text → Except Fault (Char × Text)
  | '"' :: t => .ok ('"', t)
  | '\\' :: t => .ok ('\\', t)
  | '/' :: t => .ok ('/', t)
  | 'b' :: t => .ok ('\x08', t)
  | 'f' :: t => .ok ('\x0c', t)
  | 'n' :: t => .ok ('\n', t)
  | 'r' :: t => .ok ('\r', t)
  | 't' :: t => .ok ('\t', t)
  | 'u' :: t => readCoded t
  | _ => .error .badEscape

/-- The text up to its closing quote, and what follows it. Control characters have to be escaped. -/
def readQuoted (t : Text) : Except Fault (Text × Text) :=
  match t with
  | [] => .error .malformed
  | '"' :: t => .ok ([], t)
  | '\\' :: t => do
    let (c, rest) ← readEscape t
    if rest.length ≤ t.length then
      let (u, rest) ← readQuoted rest
      return (c :: u, rest)
    else throw .badEscape
  | c :: t => do
    if c < ' ' then throw .malformed
    let (u, rest) ← readQuoted t
    return (c :: u, rest)
termination_by t.length
decreasing_by all_goals (simp only [List.length_cons]; omega)

/-! ### Numbers -/

/-- The digits at the front of a text, of which there is at least one, and what follows them. -/
def readDigits (t : Text) : Except Fault (Text × Text) :=
  let digits := t.takeWhile Char.isDigit
  if digits.isEmpty then .error .badNumber else .ok (digits, t.dropWhile Char.isDigit)

/-- The digits behind a point, if there is one. -/
def readFraction : Text → Except Fault (Text × Text)
  | '.' :: t => readDigits t
  | t => .ok ([], t)

/-- The power of ten, if there is one. -/
def readExponent : Text → Except Fault (Int × Text)
  | [] => .ok (0, [])
  | c :: t =>
    if c = 'e' ∨ c = 'E' then do
      let (negative, t) : Bool × Text := match t with
        | '-' :: t => (true, t)
        | '+' :: t => (false, t)
        | t => (false, t)
      let (digits, rest) ← readDigits t
      let n : Int := Text.digitsValue digits
      return (if negative then -n else n, rest)
    else .ok (0, c :: t)

/-- The number at the front of a text without sign. Zero stands first only alone. -/
def readUnsigned (negative : Bool) (t : Text) : Except Fault (Numeral × Text) := do
  let (whole, rest) ← readDigits t
  if whole.head? = some '0' ∧ 1 < whole.length then throw .badNumber
  let (fraction, rest) ← readFraction rest
  let (exponent, rest) ← readExponent rest
  return (⟨negative, whole, fraction, exponent⟩, rest)

/-- The number at the front of a text. -/
def readNumber : Text → Except Fault (Numeral × Text)
  | '-' :: t => readUnsigned true t
  | t => readUnsigned false t

/-! ### Parts -/

/-- The parts up to a closing character, which is taken too; there is at least one. -/
def readParts {α : Type} (closing : Char) (read : Text → Except Fault (α × Text)) (t : Text) :
    Except Fault (List α × Text) := do
  let (a, rest) ← read (skip t)
  match skip rest with
  | [] => throw .malformed
  | c :: rest =>
    if c = closing then return ([a], rest)
    else if c ≠ ',' then throw .malformed
    else if rest.length < t.length then
      let (as, rest) ← readParts closing read rest
      return (a :: as, rest)
    else throw .malformed
termination_by t.length

/-- The parts up to a closing character, which is taken too. -/
def readAll {α : Type} (closing : Char) (read : Text → Except Fault (α × Text)) (t : Text) :
    Except Fault (List α × Text) :=
  match skip t with
  | [] => .error .malformed
  | c :: rest => if c = closing then .ok ([], rest) else readParts closing read (c :: rest)

/-! ### Values passed over -/

/-- What follows a text that is passed over, behind its opening quote. -/
def skipQuoted (t : Text) : Except Fault Text :=
  match t with
  | [] => .error .malformed
  | '"' :: t => .ok t
  | '\\' :: 'u' :: t =>
    match h : readCode? t with
    | some (_, rest) =>
      have := length_readCode? h
      skipQuoted rest
    | none => .error .badEscape
  | '\\' :: c :: t => if "\"\\/bfnrt".toList.contains c then skipQuoted t else .error .badEscape
  | c :: t => if c < ' ' then .error .malformed else skipQuoted t
termination_by t.length
decreasing_by all_goals (simp only [List.length_cons]; omega)

/-- What follows the name of a field that is passed over, and its colon. -/
def skipName (t : Text) : Except Fault Text := do
  match skip t with
  | '"' :: t =>
    match skip (← skipQuoted t) with
    | ':' :: rest => return rest
    | _ => throw .malformed
  | _ => throw .malformed

/-- What follows a value without parts. -/
def skipPlain (t : Text) : Except Fault Text := do
  match t with
  | '"' :: rest => skipQuoted rest
  | _ =>
    match ["null", "true", "false"].findSome? fun word => Text.after? t word.toList with
    | some rest => return rest
    | none => return (← readNumber t).2

/-- A bracket that is open. -/
inductive Enclosure where
  | list
  | map

/-- What follows the comma before the next part in a bracket: the name of a field is passed over too. -/
def Enclosure.skipLead : Enclosure → Text → Except Fault Text
  | list, t => .ok t
  | map, t => skipName t

/-- The character that closes a bracket. -/
def Enclosure.closing : Enclosure → Char
  | list => ']'
  | map => '\x7d'

/-- What follows the value at the front of a text, and the brackets open around it; each step takes a
character. With `ended` that value is behind already. -/
def skipParts : Nat → Bool → List Enclosure → Text → Except Fault Text
  | 0, _, _, _ => .error .malformed
  | _ + 1, true, [], t => .ok t
  | steps + 1, true, bracket :: around, t => do
    match skip t with
    | ',' :: rest => skipParts steps false (bracket :: around) (← bracket.skipLead rest)
    | c :: rest => if c = bracket.closing then skipParts steps true around rest else throw .malformed
    | [] => throw .malformed
  | steps + 1, false, around, t => do
    let enter (opened : Enclosure) (rest : Text) : Except Fault Text := do
      match skip rest with
      | [] => throw .malformed
      | c :: behind =>
        if c = opened.closing then skipParts steps true around behind
        else skipParts steps false (opened :: around) (← opened.skipLead (c :: behind))
    match skip t with
    | '[' :: rest => enter .list rest
    | '\x7b' :: rest => enter .map rest
    | rest => skipParts steps true around (← skipPlain rest)

/-- What follows a value that is passed over. -/
def skipValue (t : Text) : Except Fault Text := skipParts (2 * t.length + 2) false [] t

/-! ### Values -/

/-- The names of the fields that are wanted of an object; `none` if all are. -/
abbrev Wanted := Option (List Text)

/-- A field: its name in quotes, a colon, and its value. There is none if it is not wanted. -/
def readField (wanted : Wanted) (read : Text → Except Fault (Node × Text)) :
    Text → Except Fault (Option (Text × Node) × Text)
  | '"' :: t => do
    let (name, rest) ← readQuoted t
    match skip rest with
    | ':' :: rest =>
      if wanted.all (·.contains name) then
        let (n, rest) ← read (skip rest)
        return (some (name, n), rest)
      else return (none, ← skipValue rest)
    | _ => throw .malformed
  | _ => .error .malformed

/-- The value at the front of a text, nested at most `room` deep. -/
def readNode (wanted : Wanted) : Nat → Text → Except Fault (Node × Text)
  | room, t => do
    let inner (t : Text) : Except Fault (Node × Text) :=
      match room with
      | 0 => .error .tooDeep
      | room + 1 => readNode wanted room t
    if let some rest := Text.after? t "null".toList then return (.null, rest)
    if let some rest := Text.after? t "true".toList then return (.truth true, rest)
    if let some rest := Text.after? t "false".toList then return (.truth false, rest)
    match t with
    | [] => throw .malformed
    | c :: rest =>
      if c = '[' then
        if room = 0 then throw .tooDeep
        let (items, rest) ← readAll ']' inner rest
        return (.list items, rest)
      else if c = '\x7b' then
        if room = 0 then throw .tooDeep
        let (fields, rest) ← readAll '\x7d' (readField wanted inner) rest
        return (.map (fields.filterMap id), rest)
      else if c = '"' then
        let (u, rest) ← readQuoted rest
        return (.text u, rest)
      else
        let (n, rest) ← readNumber t
        return (.number n, rest)

/-- The value of a whole text. -/
def read (wanted : Wanted) (t : Text) : Except Fault Node := do
  let (n, rest) ← readNode wanted maxDepth (skip t)
  match skip rest with
  | [] => return n
  | _ => throw .malformed

end Hyperfiction.Json

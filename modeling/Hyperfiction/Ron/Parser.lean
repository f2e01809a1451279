import Hyperfiction.Ron.Node
import Hyperfiction.Text.Letter

/-!
# Reading object notation

Blanks and comments may stand between all parts; block comments are nested. Lists, structures and maps
have a comma between their parts and may have one behind the last. Before the value a text may switch on
extensions, of which one matters here: with `implicit_some` an optional value needs no `Some` where one is
expected (`Ron.Shape`).

Every step inwards costs room, of which there is `room`: one to enter a list, structure or map, one more
for each part in it, and one for the value in `Some`.
-/

namespace Hyperfiction.Ron

/-- The steps inwards that a text may take. -/
def room : Nat := 128

/-- What is expected of a value. -/
inductive Shape where
  | any
  | option
  /-- A structure, with the names of its fields for which an optional value is expected. -/
  | struct (options : List Text)

/-- What is expected of the field of a name. -/
def Shape.field (s : Shape) (name : Text) : Shape :=
  match s with
  | struct options => if options.contains name then option else any
  | _ => any

/-! ### Blanks and comments -/

/-- Is the character a blank of the notation? -/
def isSpace (c : Char) : Bool := c == ' ' || c == '\t' || c == '\n' || c == '\r'

/-- What follows a block comment, with `inner` more comments open in it. -/
def skipBlock : Nat → Text → Except Fault Text
  | inner, '/' :: '*' :: t => skipBlock (inner + 1) t
  | 0, '*' :: '/' :: t => .ok t
  | inner + 1, '*' :: '/' :: t => skipBlock inner t
  | inner, _ :: t => skipBlock inner t
  | _, [] => .error .malformed

theorem length_skipBlock {inner : Nat} {t u : Text} (h : skipBlock inner t = .ok u) :
    u.length < t.length := by
  fun_induction skipBlock inner t <;> simp_all <;> omega

/-- What follows blanks and comments. -/
def skip (t : Text) : Except Fault Text :=
  match t with
  | '/' :: '/' :: t =>
    have : (t.dropWhile (· ≠ '\n')).length ≤ t.length := by
      have := congrArg List.length (List.takeWhile_append_dropWhile (p := (· ≠ '\n')) (l := t))
      simp only [List.length_append] at this
      omega
    skip (t.dropWhile (· ≠ '\n'))
  | '/' :: '*' :: t =>
    match h : skipBlock 0 t with
    | .ok u =>
      have := length_skipBlock h
      skip u
    | .error e => .error e
  | '/' :: _ => .error .malformed
  | c :: t => if isSpace c then skip t else .ok (c :: t)
  | [] => .ok []
termination_by t.length
decreasing_by all_goals (simp only [List.length_cons]; omega)

/-! ### Names, numbers and texts -/

/-- May the character begin a name? -/
def startsName (c : Char) : Bool := c.isAlpha || c == '_'

/-- May the character stand in a name? -/
def continuesName (c : Char) : Bool := c.isAlphanum || c == '_'

/-- May the character stand in a name behind `r#`? -/
def isRawNameChar (c : Char) : Bool := continuesName c || c == '.' || c == '+' || c == '-'

/-- The name at the front of a text, and what follows it. -/
def readName? : Text → Option (Text × Text)
  | [] => none
  | ['r'] => none
  | 'r' :: '"' :: _ => none
  | 'r' :: '#' :: t =>
    let name := t.takeWhile isRawNameChar
    if name.isEmpty then none else some (name, t.dropWhile isRawNameChar)
  | c :: t =>
    if startsName c then some (c :: t.takeWhile continuesName, t.dropWhile continuesName) else none

/-- What follows a keyword that no name goes on behind. -/
def afterKeyword? (keyword : String) (t : Text) : Option Text :=
  (Text.after? t keyword.toList).filter fun u => !u.head?.any continuesName

/-- The character of a code point that an escape names. -/
def ofCodePoint (n : Nat) : Except Fault Char :=
  match Text.ofCodePoint? n with
  | some c => .ok c
  | none => .error .badEscape

/-- The character that an escape behind a backslash stands for, and what follows it. -/
def readEscape : Text → Except Fault (Char × Text)
  | 'x' :: a :: b :: t =>
    match Text.digitsValue? 16 [a, b] with
    | some n => do return (← ofCodePoint n, t)
    | none => .error .badEscape
  | 'u' :: '\x7b' :: t => do
    let digits := t.takeWhile (· ≠ '\x7d')
    if digits.isEmpty || 6 < digits.length then throw .badEscape
    match Text.digitsValue? 16 digits, t.dropWhile (· ≠ '\x7d') with
    | some n, _ :: rest => return (← ofCodePoint n, rest)
    | _, _ => throw .badEscape
  | '\'' :: t => .ok ('\'', t)
  | '"' :: t => .ok ('"', t)
  | '\\' :: t => .ok ('\\', t)
  | 'n' :: t => .ok ('\n', t)
  | 'r' :: t => .ok ('\r', t)
  | 't' :: t => .ok ('\t', t)
  | '0' :: t => .ok ('\x00', t)
  | _ => .error .badEscape

/-- The text up to its closing quote, and what follows it. -/
def readQuoted (t : Text) : Except Fault (Text × Text) :=
  match t with
  | [] => .error .malformed
  | '"' :: t => .ok ([], t)
  | '\\' :: t => do
    let (c, rest) ← readEscape t
    if rest.length ≤ t.length then
      let (u, rest) ← readQuoted rest
      return (c :: u, rest)
    else throw .badEscape
  | c :: t => do
    let (u, rest) ← readQuoted t
    return (c :: u, rest)
termination_by t.length
decreasing_by all_goals (simp only [List.length_cons]; omega)

/-- The raw text behind an `r`, between quotes with hashes around, and what follows it. -/
def readRaw (t : Text) : Except Fault (Text × Text) :=
  let hashes := t.takeWhile (· = '#')
  match t.dropWhile (· = '#') with
  | '"' :: t =>
    match Text.breakOn? ('"' :: hashes) t with
    | some found => .ok found
    | none => .error .malformed
  | _ => .error .malformed

/-- The character between single quotes, behind the first of them, and what follows. -/
def readChar (t : Text) : Except Fault (Char × Text) := do
  let (c, rest) ← match t with
    | '\\' :: t => readEscape t
    | '\'' :: _ => throw .malformed
    | c :: t => pure (c, t)
    | [] => throw .malformed
  match rest with
  | '\'' :: rest => return (c, rest)
  | _ => throw .malformed

/-- May the character stand in a whole number? -/
def isWholeChar (c : Char) : Bool := (Text.hexDigit? c).isSome || c == '_'

/-- May the character stand in a number with a point or an exponent? -/
def isRealChar (c : Char) : Bool :=
  c.isDigit || c == 'e' || c == 'E' || c == '.' || c == '+' || c == '-' || c == '_'

/-- The digits of a whole number without sign, and what follows them. -/
def readWhole (t : Text) : Except Fault (Nat × Text) :=
  let (base, t) : Nat × Text := match t with
    | '0' :: 'x' :: t => (16, t)
    | '0' :: 'b' :: t => (2, t)
    | '0' :: 'o' :: t => (8, t)
    | t => (10, t)
  let digits := t.takeWhile isWholeChar
  if digits.isEmpty || digits.head? = some '_' then .error .badNumber
  else
    match Text.digitsValue? base (digits.filter (· ≠ '_')) with
    | some n => .ok (n, t.dropWhile isWholeChar)
    | none => .error .badNumber

/-- Is the text digits, perhaps with a point, perhaps with an exponent? -/
def isReal (t : Text) : Bool :=
  let unsigned (t : Text) : Text := match t with
    | '+' :: t => t
    | '-' :: t => t
    | t => t
  let mantissa := (unsigned t).takeWhile fun c => c != 'e' && c != 'E'
  let whole := mantissa.takeWhile Char.isDigit
  let mantissaHolds := match mantissa.dropWhile Char.isDigit with
    | [] => !whole.isEmpty
    | c :: fraction =>
      c == '.' && fraction.all Char.isDigit && !(whole.isEmpty && fraction.isEmpty)
  let exponentHolds := match (unsigned t).dropWhile fun c => c != 'e' && c != 'E' with
    | [] => true
    | _ :: exponent =>
      let digits := unsigned exponent
      !digits.isEmpty && digits.all Char.isDigit
  mantissaHolds && exponentHolds

/-- What follows a number with a point or an exponent, or a word for a number. -/
def readReal (t : Text) : Except Fault (Node × Text) :=
  match ["inf", "+inf", "-inf", "NaN", "+NaN", "-NaN"].findSome? fun w => afterKeyword? w t with
  | some rest => .ok (.number, rest)
  | none =>
    if isReal (t.takeWhile isRealChar) then .ok (.number, t.dropWhile isRealChar)
    else .error .badNumber

/-- The number at the front of a text. A whole number that its bits do not hold is read as one with a
point would be. -/
def readNumber (t : Text) : Except Fault (Node × Text) :=
  let (bound, digits) : Nat × Text := match t with
    | '+' :: rest => (1 <<< 63, rest)
    | '-' :: rest => ((1 <<< 63) + 1, rest)
    | rest => (UInt64.size, rest)
  if (digits.takeWhile isWholeChar).length < (digits.takeWhile isRealChar).length then readReal t
  else
    match readWhole digits with
    | .ok (n, rest) =>
      if n < bound then .ok (if digits.length = t.length then .natural n else .number, rest)
      else readReal t
    | .error _ => readReal t

/-! ### Values -/

/-- The parts up to a closing character, which is taken too. A part may stand at the front only if
`allowed` says so: at the start, and behind a comma. -/
def readParts {α : Type} (closing : Char) (read : Text → Except Fault (α × Text)) (allowed : Bool)
    (t : Text) : Except Fault (List α × Text) := do
  match ← skip t with
  | [] => throw .malformed
  | c :: u =>
    if c = closing then return ([], u)
    else if !allowed then throw .malformed
    else
      let (a, rest) ← read (c :: u)
      let (allowed, rest) ← match ← skip rest with
        | ',' :: rest => pure (true, rest)
        | rest => pure (false, rest)
      if rest.length < t.length then
        let (as, rest) ← readParts closing read allowed rest
        return (a :: as, rest)
      else throw .malformed
termination_by t.length

/-- A field: its name, a colon, and its value, of which its name says what is expected. -/
def readField (read : Text → Text → Except Fault (Node × Text)) (t : Text) :
    Except Fault ((Text × Node) × Text) := do
  match readName? t with
  | none => throw .malformed
  | some (name, rest) =>
    match ← skip rest with
    | ':' :: rest =>
      let (n, rest) ← read name (← skip rest)
      return ((name, n), rest)
    | _ => throw .malformed

/-- An entry of a map: a key, a colon, and a value. -/
def readEntry (read : Text → Except Fault (Node × Text)) (t : Text) :
    Except Fault ((Node × Node) × Text) := do
  let (key, rest) ← read t
  match ← skip rest with
  | ':' :: rest =>
    let (n, rest) ← read (← skip rest)
    return ((key, n), rest)
  | _ => throw .malformed

/-- Does a text behind an open parenthesis begin with a name and a colon? -/
def beginsField (t : Text) : Except Fault Bool := do
  match readName? (← skip t) with
  | none => return false
  | some (_, rest) =>
    match ← skip rest with
    | [] => throw .malformed
    | c :: _ => return c == ':'

/-- What may stand behind the name of a structure: fields, parts, or nothing. -/
def readStruct (read : Shape → Text → Except Fault (Node × Text)) (shape : Shape)
    (name : Option Text) (t : Text) : Except Fault (Node × Text) := do
  match t with
  | '(' :: rest =>
    if ← beginsField rest then
      let (fields, rest) ← readParts ')' (readField (read ∘ shape.field)) true rest
      return (.struct name fields, rest)
    else
      let (items, rest) ← readParts ')' (read .any) true rest
      return (.tuple name items, rest)
  | _ => return (.unit name, t)

/-- The optional value behind `Some`. -/
def readSome (implicit : Bool) (read : Text → Except Fault (Node × Text)) (t : Text) :
    Except Fault (Node × Text) := do
  match ← skip t with
  | '(' :: rest =>
    let (n, rest) ← read (← skip rest)
    let rest ← match ← skip rest with
      | ',' :: rest => skip rest
      | rest => pure rest
    match rest with
    | ')' :: rest => return (.some n, rest)
    | _ => throw .malformed
  | rest =>
    if implicit then
      let (n, rest) ← read rest
      return (.some n, rest)
    else throw .unexpectedKind

/-- The optional value at the front of a text. Names may go on behind `None` and `Some` here. -/
def readOption (implicit : Bool) (read : Text → Except Fault (Node × Text)) (t : Text) :
    Except Fault (Node × Text) := do
  if let some rest := Text.after? t "None".toList then return (.none, rest)
  if let some rest := Text.after? t "Some".toList then return ← readSome implicit read rest
  if !implicit then throw .unexpectedKind
  let (n, rest) ← read t
  return (.some n, rest)

/-- The value at the front of a text, with room for some steps inwards. -/
def readNode (implicit : Bool) : Nat → Shape → Text → Except Fault (Node × Text)
  | room, shape, t => do
    let inner (t : Text) : Except Fault (Node × Text) :=
      match room with
      | room + 1 => readNode implicit room .any t
      | 0 => .error .tooDeep
    let part (shape : Shape) (t : Text) : Except Fault (Node × Text) :=
      match room with
      | room + 2 => readNode implicit room shape t
      | _ => .error .tooDeep
    let enter : Except Fault Unit := if room = 0 then .error .tooDeep else .ok ()
    if let .option := shape then return ← readOption implicit inner t
    if let some rest := afterKeyword? "true" t then return (.truth true, rest)
    if let some rest := afterKeyword? "false" t then return (.truth false, rest)
    if let some rest := afterKeyword? "Some" t then return ← readSome implicit inner rest
    if let some rest := afterKeyword? "None" t then return (.none, rest)
    if let some rest := Text.after? t ['(', ')'] then return (.unit none, rest)
    if let some rest := ["inf", "-inf", "NaN"].findSome? fun w => afterKeyword? w t then
      return (.number, rest)
    if let some (name, rest) := readName? t then
      let rest ← skip rest
      if rest.head? = some '(' then enter
      return ← readStruct part shape (some name) rest
    match t with
    | [] => throw .malformed
    | c :: rest =>
      if c = '(' then
        enter
        readStruct part shape none t
      else if c = '[' then
        enter
        let (items, rest) ← readParts ']' (part .any) true rest
        return (.list items, rest)
      else if c = '\x7b' then
        enter
        let (entries, rest) ← readParts '\x7d' (readEntry (part .any)) true rest
        return (.map entries, rest)
      else if c.isDigit ∨ c = '+' ∨ c = '-' then readNumber t
      else if c = '.' then readReal t
      else if c = '"' then
        let (u, rest) ← readQuoted rest
        return (.text u, rest)
      else if c = 'r' then
        let (u, rest) ← readRaw rest
        return (.text u, rest)
      else if c = '\'' then
        let (d, rest) ← readChar rest
        return (.char d, rest)
      else throw .malformed

/-! ### Whole texts -/

/-- What follows some words, with blanks and comments allowed behind each. -/
def afterAll (words : List String) (t : Text) : Except Fault Text :=
  words.foldlM (fun t w =>
    match Text.after? t w.toList with
    | some rest => skip rest
    | none => .error .malformed) t

/-- The names of extensions. -/
def extensions : List String := ["unwrap_newtypes", "implicit_some", "unwrap_variant_newtypes"]

/-- The extensions in a list up to its end, which is left. -/
def readExtensions (t : Text) : Except Fault (List Text × Text) := do
  match readName? t with
  | none => throw .malformed
  | some (name, rest) =>
    if !extensions.contains (String.ofList name) then throw (.unexpectedName name)
    match ← skip rest with
    | ',' :: rest =>
      let rest ← skip rest
      if rest.head?.any continuesName then
        if rest.length < t.length then
          let (names, rest) ← readExtensions rest
          return (name :: names, rest)
        else throw .malformed
      else return ([name], rest)
    | rest => return ([name], rest)
termination_by t.length

/-- Reads the lines in front that switch on extensions: is `implicit_some` among them? -/
def readHead (implicit : Bool) (t : Text) : Except Fault (Bool × Text) := do
  let t' ← skip t
  match t' with
  | '#' :: _ =>
    let rest ← afterAll ["#", "!", "[", "enable", "("] t'
    let (names, rest) ← readExtensions rest
    let rest ← afterAll [")", "]"] (← skip rest)
    if rest.length < t.length then
      readHead (implicit || names.contains "implicit_some".toList) rest
    else throw .malformed
  | _ => return (implicit, t')
termination_by t.length

/-- The value of a whole text, of which something is expected. -/
def read (shape : Shape) (t : Text) : Except Fault Node := do
  let (implicit, t) ← readHead false t
  let (n, rest) ← readNode implicit room shape t
  match ← skip rest with
  | [] => return n
  | _ => throw .malformed

end Hyperfiction.Ron

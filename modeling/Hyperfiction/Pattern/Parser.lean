import Hyperfiction.Pattern.Class

/-!
# Reading patterns

The dialect: literals, `.`, classes in brackets, escapes, anchors, groups with or without names and flags,
alternatives, and repetitions with `?`, `*`, `+` and counts in braces, each greedy or lazy. Look-around and
backreferences are refused. Every step of the readers takes a character, so the length of the pattern
bounds their steps.
-/

namespace Hyperfiction.Pattern

/-! ### Repetitions -/

/-- A decimal number below 2^32 with blanks around it. -/
def readDecimal (f : Flags) (t : Text) : Except PatternError (Nat × Text) :=
  let (digits, rest) := f.takeWhile Char.isDigit (Text.trimStart t)
  let (_, rest) := f.takeWhile Text.isBlank rest
  if digits.isEmpty || UInt32.size ≤ Text.digitsValue digits then .error .badRepetition
  else .ok (Text.digitsValue digits, rest)

/-- The count behind an open brace: the least number of times, and the greatest. -/
def readCount (f : Flags) (t : Text) : Except PatternError ((Nat × Option Nat) × Text) := do
  let (least, rest) ← readDecimal f (f.skip t)
  let (most, rest) ← match rest with
    | ',' :: rest =>
      match f.skip rest with
      | '\x7d' :: more => pure (none, '\x7d' :: more)
      | rest => do
        let (n, rest) ← readDecimal f rest
        pure (some n, rest)
    | rest => pure (some least, rest)
  match rest with
  | '\x7d' :: rest =>
    if most.any (· < least) then throw .badRepetition
    return ((least, most), f.skip rest)
  | _ => throw .badRepetition

/-- Whether a repetition is greedy, by the question mark behind it. -/
def readGreed (f : Flags) : Text → Bool × Text
  | '?' :: t => (f.swapGreed, t)
  | t => (!f.swapGreed, t)

/-- Repeats the last of some parts, the last one first. -/
def repeatLast (parts : List (Option Nested)) (least : Nat) (most : Option Nat) (greedy : Bool) :
    Except PatternError (List (Option Nested)) := do
  match parts with
  | some p :: rest => return some (← p.repeated least most greedy) :: rest
  | _ => throw .nothingToRepeat

/-! ### Groups -/

/-- The flags behind `(?`, up to a colon or a bracket, which is left. -/
def readFlags (f : Flags) (on : Bool) (seen : List Char) : Text → Except PatternError (Flags × Text)
  | [] => .error .unclosedGroup
  | c :: t =>
    if c = ':' ∨ c = ')' then
      if seen.head? = some '-' then .error .badFlags else .ok (f, c :: t)
    else if seen.contains c then .error .badFlags
    else if c = '-' then readFlags f false ('-' :: seen) t
    else
      match f.set? c on with
      | some g => readFlags g on (c :: seen) t
      | none => .error .badFlags

/-- May the character stand in the name of a group? -/
def isGroupNameChar (c : Char) : Bool :=
  Text.isLetter c || Text.isNumeral c || c == '_' || c == '.' || c == '[' || c == ']'

/-- The name of a group up to its bracket; each name may be used once. -/
def readGroupName (used : List Text) (t : Text) : Except PatternError (Text × Text) :=
  match t.takeWhile (· ≠ '>'), t.dropWhile (· ≠ '>') with
  | c :: cs, _ :: rest =>
    if (Text.isLetter c || c == '_') && cs.all isGroupNameChar && !used.contains (c :: cs) then
      .ok (c :: cs, rest)
    else .error .badGroupName
  | _, _ => .error .badGroupName

/-- What stands behind an open parenthesis. -/
inductive GroupHead where
  /-- Flags for the rest of the group around. -/
  | flags (f : Flags)
  /-- A group of its own with its flags, the names used so far, and whether what it matches is captured. -/
  | group (f : Flags) (names : List Text) (captures : Bool)

/-- What stands behind an open parenthesis. -/
def readGroupHead (f : Flags) (names : List Text) (t : Text) : Except PatternError (GroupHead × Text) := do
  let named (t : Text) : Except PatternError (GroupHead × Text) := do
    let (name, rest) ← readGroupName names t
    return (.group f (name :: names) true, rest)
  match f.skip t with
  | '?' :: '=' :: _ => throw .lookAround
  | '?' :: '!' :: _ => throw .lookAround
  | '?' :: '<' :: '=' :: _ => throw .lookAround
  | '?' :: '<' :: '!' :: _ => throw .lookAround
  | '?' :: 'P' :: '<' :: rest => named rest
  | '?' :: '<' :: rest => named rest
  | '?' :: ')' :: _ => throw .nothingToRepeat
  | '?' :: rest =>
    match ← readFlags f true [] rest with
    | (g, ':' :: rest) => return (.group g names false, rest)
    | (g, rest) => return (.flags g, rest.drop 1)
  | rest => return (.group f names true, rest)

/-! ### The whole pattern -/

/-- The part that a character or what it begins writes: a point, an anchor, an escape, a class or the
character itself. -/
def readPart (f : Flags) (c : Char) (t : Text) : Except PatternError (Nested × Text) := do
  let leaf (p : Pattern) (rest : Text) : Nested × Text := (.leaf p, rest)
  match c with
  | '[' => readBracket f t
  | '.' => return leaf (.ofSet (← f.dot)) t
  | '^' => return leaf (.anchor f.lineStart f.unicode) t
  | '$' => return leaf (.anchor f.lineEnd f.unicode) t
  | '\\' =>
    match ← readEscape f t with
    | (.literal c, rest) => return leaf (f.literal c) rest
    | (.set s, rest) => return leaf (.ofSet s) rest
    | (.anchor a, rest) => return leaf (.anchor a f.unicode) rest
  | c => return leaf (f.literal c) t

/-- Reads alternatives up to a closing parenthesis, which is left, or the end. `alternatives` are those
before, `parts` what stands before in this one, the last first in both; `room` more groups may be opened.
Also gives the names used. -/
def readAlternatives : Nat → Nat → Flags → List Text → List Nested → List (Option Nested) → Text →
    Except PatternError ((Nested × List Text) × Text)
  | 0, _, _, _, _, _, _ => .error .unclosedGroup
  | fuel + 1, room, f, names, alternatives, parts, t => do
    let again (least : Nat) (most : Option Nat) (rest : Text) := do
      let (greedy, rest) := readGreed f rest
      let parts ← repeatLast parts least most greedy
      readAlternatives fuel room f names alternatives parts rest
    let finish (rest : Text) := do
      let final ← Nested.concat parts.reverse
      return ((← Nested.alternation (final :: alternatives).reverse, names), rest)
    match f.skip t with
    | [] => finish []
    | ')' :: rest => finish (')' :: rest)
    | '|' :: rest =>
      let p ← Nested.concat parts.reverse
      readAlternatives fuel room f names (p :: alternatives) [] rest
    | '(' :: rest =>
      match ← readGroupHead f names rest with
      | (.flags g, rest) => readAlternatives fuel room g names alternatives (none :: parts) rest
      | (.group g names captures, rest) =>
        if room = 0 then throw .tooDeep
        match ← readAlternatives fuel (room - 1) g names [] [] rest with
        | ((p, names), ')' :: rest) =>
          readAlternatives fuel room f names alternatives (some (← p.group captures) :: parts) rest
        | _ => throw .unclosedGroup
    | '?' :: rest => again 0 (some 1) rest
    | '*' :: rest => again 0 none rest
    | '+' :: rest => again 1 none rest
    | '\x7b' :: rest =>
      let ((least, most), rest) ← readCount f rest
      again least most rest
    | c :: rest =>
      let (p, rest) ← readPart f c rest
      readAlternatives fuel room f names alternatives (some p :: parts) rest

/-- The pattern that a text writes. -/
def ofText (t : Text) : Except PatternError Pattern := do
  match ← readAlternatives (t.length + 1) depthLimit {} [] [] [] t with
  | ((p, _), []) => return p.pattern
  | _ => throw .unopenedGroup

end Hyperfiction.Pattern

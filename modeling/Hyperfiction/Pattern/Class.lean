import Hyperfiction.Pattern.Escape
import Hyperfiction.Pattern.Nesting

/-!
# Classes of patterns

A class in brackets: characters, ranges, escapes, classes inside, and the operations `&&`, `--` and `~~`,
which all bind alike and to the left.
-/

namespace Hyperfiction.Pattern

/-- The operations between the parts of a class. -/
inductive ClassOperation where
  | inter
  | diff
  | symmDiff

/-- The set that an operation makes. -/
def ClassOperation.combine (op : ClassOperation) (s t : CharSet) : CharSet :=
  match op with
  | inter => s.inter t
  | diff => s.diff t
  | symmDiff => s.symmDiff t

/-- A set, and how deep what it is written with is nested. -/
structure NestedSet where
  chars : CharSet
  depth : Nat

/-- The inside of a class as far as it is read: the set before the last operation with this operation,
and the members behind it, the last one first. -/
structure OpenClass where
  before : Option (NestedSet × ClassOperation) := none
  members : List NestedSet := []

/-- The class with one more member. -/
def OpenClass.push (cls : OpenClass) (s : NestedSet) : OpenClass :=
  { cls with members := s :: cls.members }

/-- The class with one more character, or a set that is written without others inside. -/
def OpenClass.pushSet (cls : OpenClass) (s : CharSet) : OpenClass := cls.push ⟨s, 0⟩

/-- The set of all that is read, in all cases if case does not count. -/
def OpenClass.settle (cls : OpenClass) (f : Flags) : Except PatternError NestedSet := do
  let chars := f.fold (CharSet.unions (cls.members.map NestedSet.chars))
  let depth ← rowDepth (cls.members.map NestedSet.depth)
  match cls.before with
  | none => return ⟨chars, depth⟩
  | some (left, op) => return ⟨op.combine left.chars chars, ← deeper (max left.depth depth)⟩

/-- The class behind an operation. -/
def OpenClass.operate (cls : OpenClass) (f : Flags) (op : ClassOperation) :
    Except PatternError OpenClass := do
  return { before := some (← cls.settle f, op) }

/-! ### Members -/

/-- A character that may stand in a class: without Unicode, one of ASCII. -/
def Flags.member (f : Flags) (c : Char) : Except PatternError Char :=
  if f.unicode || c.toNat < 128 then .ok c else .error .invalidBytes

/-- A member of a class: a character or a set. -/
def readMember (f : Flags) : Text → Except PatternError ((Char ⊕ CharSet) × Text)
  | [] => .error .unclosedClass
  | '\\' :: t => do
    match ← readEscape f t with
    | (.literal c, rest) => return (.inl (← f.member c), rest)
    | (.set s, rest) => return (.inr s, rest)
    | (.anchor _, _) => throw .badClass
  | c :: t => do return (.inl (← f.member c), t)

/-- Does the hyphen before a text stand for itself, because the class or an operation follows? -/
def isPlainHyphen (f : Flags) (t : Text) : Bool :=
  f.peek? t == some ']' || f.peek? t == some '-'

/-- A member of a class, or the range that it begins. -/
def readRange (f : Flags) (t : Text) : Except PatternError (CharSet × Text) := do
  let (first, rest) ← readMember f t
  let alone : CharSet := first.elim CharSet.one id
  match f.skip rest with
  | [] => throw .unclosedClass
  | '-' :: more =>
    if isPlainHyphen f more then return (alone, '-' :: more)
    let (final, rest) ← readMember f (f.skip more)
    match first, final with
    | .inl a, .inl b => if a ≤ b then return (CharSet.between a b, rest) else throw .badRange
    | _, _ => throw .badRange
  | rest => return (alone, rest)

/-- The class of the form `[:name:]` or `[:^name:]`, behind the first of its brackets. -/
def asciiClass? (t : Text) : Option ((CharSet × Bool) × Text) :=
  match t with
  | ':' :: t =>
    let (negated, t) := match t with
      | '^' :: t => (true, t)
      | t => (false, t)
    match t.dropWhile (· ≠ ':') with
    | ':' :: ']' :: rest =>
      (CharSet.ofClassName? (String.ofList (t.takeWhile (· ≠ ':')))).map fun s => ((s, negated), rest)
    | _ => none
  | _ => none

/-- The hyphens that a class begins with, which stand for themselves. -/
def leadingHyphens (f : Flags) (t : Text) : OpenClass × Text :=
  let (hyphens, rest) := f.takeWhile (· == '-') t
  (hyphens.foldl (fun cls c => cls.pushSet (CharSet.one c)) {}, rest)

/-- The head of a class behind its bracket: whether it is negated, and the characters that stand for
themselves because the class begins with them. -/
def readClassHead (f : Flags) (t : Text) : Except PatternError ((Bool × OpenClass) × Text) := do
  let (negated, t) := match f.skip t with
    | '^' :: rest => (true, f.skip rest)
    | t => (false, t)
  match t, leadingHyphens f t with
  | ']' :: rest, _ => return ((negated, ({} : OpenClass).pushSet (CharSet.one ']')), rest)
  | _, (cls, rest) => return ((negated, cls), rest)

/-- The members of a class up to its closing bracket; `room` more classes may be opened inside. -/
def readClass (f : Flags) : Nat → Nat → OpenClass → Text → Except PatternError (NestedSet × Text)
  | 0, _, _, _ => .error .unclosedClass
  | fuel + 1, room, cls, t => do
    match f.skip t with
    | [] => throw .unclosedClass
    | ']' :: rest => return (← cls.settle f, rest)
    | '&' :: '&' :: rest => readClass f fuel room (← cls.operate f .inter) rest
    | '-' :: '-' :: rest => readClass f fuel room (← cls.operate f .diff) rest
    | '~' :: '~' :: rest => readClass f fuel room (← cls.operate f .symmDiff) rest
    | '[' :: rest =>
      match asciiClass? rest with
      | some ((s, negated), rest) =>
        readClass f fuel room (cls.pushSet (← f.named negated s)) rest
      | none =>
        if room = 0 then throw .tooDeep
        let ((negated, inner), rest) ← readClassHead f rest
        let (s, rest) ← readClass f fuel (room - 1) inner rest
        readClass f fuel room (cls.push ⟨← f.named negated s.chars, ← deeper s.depth⟩) rest
    | t =>
      let (s, rest) ← readRange f t
      readClass f fuel room (cls.pushSet s) rest

/-- A class behind its bracket. -/
def readBracket (f : Flags) (t : Text) : Except PatternError (Nested × Text) := do
  let ((negated, cls), rest) ← readClassHead f t
  let (s, rest) ← readClass f (t.length + 1) depthLimit cls rest
  return (⟨.ofSet (← f.named negated s.chars), ← deeper s.depth⟩, rest)

end Hyperfiction.Pattern

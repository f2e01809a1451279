import Hyperfiction.CharSet.Basic

/-!
# Patterns

What a pattern is made of. `Pattern.concat`, `Pattern.alternation` and `Pattern.repeated` put patterns
together in one normal form: texts that stand one behind the other become one text, alternatives that are
all one character each become a set, a part that all alternatives begin with stands before them, and a
repetition of what takes no text is done at most once. The normal form matches what the parts match; how
much memory a pattern takes is told from it.
-/

namespace Hyperfiction

/-- A place in a text that a pattern may ask for. -/
inductive Anchor where
  | textStart
  | textEnd
  | lineStart
  | lineEnd
  /-- The start of a line that a line feed, a carriage return or both end. -/
  | anyLineStart
  | anyLineEnd
  | wordBoundary
  | noWordBoundary
  | wordStart
  | wordEnd
  | wordStartHalf
  | wordEndHalf
deriving DecidableEq

/-- A pattern. -/
inductive Pattern where
  | empty
  /-- Some characters, one behind the other; there is at least one. -/
  | text (t : Text)
  /-- One character of a set, which does not hold exactly one. -/
  | set (s : CharSet)
  /-- A place; with `unicode` words are made of the letters of all scripts. -/
  | anchor (a : Anchor) (unicode : Bool)
  | group (p : Pattern)
  | seq (first second : Pattern)
  | either (first second : Pattern)
  /-- At least `least` times, and at most `most` times if there is a limit; as often as possible if
  `greedy`, and as seldom otherwise. -/
  | rep (p : Pattern) (least : Nat) (most : Option Nat) (greedy : Bool)
deriving DecidableEq

/-- Why a text is no pattern. -/
inductive PatternError where
  | backreference
  | badClass
  | badCodePoint
  | badEscape
  | badFlags
  | badGroupName
  | badRange
  | badRepetition
  /-- The pattern would match bytes that are no text. -/
  | invalidBytes
  | lookAround
  /-- The pattern would take too much memory. -/
  | tooLarge
  | nothingToRepeat
  /-- Parts are nested too deep. -/
  | tooDeep
  | unclosedClass
  | unclosedGroup
  | unknownProperty
  | unopenedGroup
deriving DecidableEq

namespace Pattern

/-! ### What a pattern takes -/

/-- The fewest bytes that a match takes; `none` if nothing matches. -/
def shortest? : Pattern → Option Nat
  | empty => some 0
  | text t => some (Text.width t)
  | set s => s.ranges[0]?.map fun r => Text.width [Char.ofNat r.1]
  | anchor _ _ => some 0
  | group p => p.shortest?
  | seq p q => do return (← p.shortest?) + (← q.shortest?)
  | either p q => do return min (← p.shortest?) (← q.shortest?)
  | rep p least _ _ => p.shortest?.map (· * least)

/-- Does every match take some text? -/
def takesText (p : Pattern) : Bool := p.shortest?.any (0 < ·)

/-- Does no match take any text? -/
def takesNone : Pattern → Bool
  | empty => true
  | text _ => false
  | set _ => false
  | anchor _ _ => true
  | group p => p.takesNone
  | seq p q => p.takesNone && q.takesNone
  | either p q => p.takesNone && q.takesNone
  | rep p _ most _ => most.isSome && p.takesNone

/-! ### Putting patterns together -/

/-- One character of a set. -/
def ofSet (s : CharSet) : Pattern :=
  match s.only? with
  | some c => text [c]
  | none => set s

/-- The parts that stand one behind the other. -/
def elements : Pattern → List Pattern
  | empty => []
  | seq p q => p.elements ++ q.elements
  | p => [p]

/-- Puts together the texts that stand one behind the other. -/
def joinTexts : List Pattern → List Pattern
  | [] => []
  | p :: ps =>
    match p, joinTexts ps with
    | text t, text u :: rest => text (t ++ u) :: rest
    | p, rest => p :: rest

/-- Some parts, one behind the other. -/
def ofElements : List Pattern → Pattern
  | [] => empty
  | [p] => p
  | p :: ps => seq p (ofElements ps)

/-- Some patterns, one behind the other. -/
def concat (ps : List Pattern) : Pattern := ofElements (joinTexts (ps.flatMap elements))

/-- The alternatives of a pattern. -/
def alternatives : Pattern → List Pattern
  | either p q => p.alternatives ++ q.alternatives
  | p => [p]

/-- Some alternatives, the first one preferred. -/
def ofAlternatives : List Pattern → Pattern
  | [] => set CharSet.empty
  | [p] => p
  | p :: ps => either p (ofAlternatives ps)

/-- The character that a pattern is. -/
def toChar? : Pattern → Option Char
  | text [c] => some c
  | _ => none

/-- The set that a pattern is. -/
def toSet? : Pattern → Option CharSet
  | set s => some s
  | _ => none

/-- The set that alternatives are, if all are characters or all are sets. -/
def unite? (ps : List Pattern) : Option CharSet :=
  ((ps.mapM toChar?).map fun cs => CharSet.ofCodes (cs.map Char.toNat)).or
    ((ps.mapM toSet?).map CharSet.unions)

/-- Alternatives, put together to a set if they are one. -/
def united (ps : List Pattern) : Pattern :=
  match ps.flatMap alternatives with
  | [p] => p
  | ps => if ps.isEmpty then ofAlternatives ps else ((unite? ps).map ofSet).getD (ofAlternatives ps)

/-- The longest list that two lists begin with. -/
def commonLead : List Pattern → List Pattern → List Pattern
  | p :: ps, q :: qs => if p = q then p :: commonLead ps qs else []
  | _, _ => []

/-- The parts that all alternatives begin with, if each has several parts. -/
def sharedLead (ps : List Pattern) : List Pattern :=
  match ps.map elements with
  | [] => []
  | first :: others =>
    if (first :: others).all fun parts => 1 < parts.length then others.foldl commonLead first else []

/-- Some alternatives, the first one preferred. -/
def alternation (ps : List Pattern) : Pattern :=
  let ps := ps.flatMap alternatives
  let lead := sharedLead ps
  if ps.length ≤ 1 || lead.isEmpty then united ps
  else concat (lead ++ [united (ps.map fun p => concat (p.elements.drop lead.length))])

/-- The repetition of a pattern. -/
def repeated (p : Pattern) (least : Nat) (most : Option Nat) (greedy : Bool) : Pattern :=
  let once := p.takesNone
  let least := if once then min least 1 else least
  let most := if once then some ((most.getD 1).min 1) else most
  if most = some 0 then empty
  else if least = 1 ∧ most = some 1 then p
  else rep p least most greedy

end Pattern

end Hyperfiction

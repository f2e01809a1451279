import Hyperfiction.Pattern.Footprint
import Hyperfiction.Pattern.Parser
import Std.Data.HashSet

/-!
# Matching patterns

A pattern becomes a program of small steps; matching runs all ways through it at once, one character at
a time, in the order of their preference. Of two ways that stand at the same step the less preferred one
is dropped, and a way that accepts drops all those behind it, so the match found is the one that trying
the alternatives in order would find.
-/

namespace Hyperfiction

/-- A step of a program; the numbers are the places of the steps behind it. -/
inductive Instruction where
  | take (s : CharSet) (next : Nat)
  | look (a : Anchor) (unicode : Bool) (next : Nat)
  /-- Both ways, the first one preferred. -/
  | fork (first second : Nat)
  | accept

/-- A pattern made ready for matching. -/
structure Program where
  code : Array Instruction
  start : Nat

namespace Pattern

/-- Emits a pattern several times, one behind the other. -/
def emitTimes (emit : Nat → Array Instruction → Nat × Array Instruction) :
    Nat → Nat → Array Instruction → Nat × Array Instruction
  | 0, next, code => (next, code)
  | n + 1, next, code =>
    let (entry, code) := emit next code
    emitTimes emit n entry code

/-- A fork into a pattern and past it. -/
def forkOf (greedy : Bool) (into past : Nat) : Instruction :=
  if greedy then .fork into past else .fork past into

/-- Emits a pattern that may be left out, several times, each one inside the one before it. -/
def emitOptional (emit : Nat → Array Instruction → Nat × Array Instruction) (greedy : Bool)
    (past : Nat) : Nat → Nat → Array Instruction → Nat × Array Instruction
  | 0, next, code => (next, code)
  | n + 1, next, code =>
    let (entry, code) := emit next code
    emitOptional emit greedy past n code.size (code.push (forkOf greedy entry past))

/-- Emits the steps of a pattern before the step `next`, and gives the place of the first. -/
def emit : Pattern → Nat → Array Instruction → Nat × Array Instruction
  | .empty, next, code => (next, code)
  | .text t, next, code =>
    t.foldr (fun c (next, code) => (code.size, code.push (.take (CharSet.one c) next))) (next, code)
  | .set s, next, code => (code.size, code.push (.take s next))
  | .anchor a unicode, next, code => (code.size, code.push (.look a unicode next))
  | .group p, next, code => emit p next code
  | .seq p q, next, code =>
    let (entry, code) := emit q next code
    emit p entry code
  | .either p q, next, code =>
    let (second, code) := emit q next code
    let (first, code) := emit p next code
    (code.size, code.push (.fork first second))
  | .rep p least (some most) greedy, next, code =>
    let (entry, code) := emitOptional (emit p) greedy next (most - least) next code
    emitTimes (emit p) least entry code
  | .rep p least none greedy, next, code =>
    let loop := code.size
    let (entry, code) := emit p loop (code.push .accept)
    let code := code.setIfInBounds loop (forkOf greedy entry next)
    if least = 0 then
      if p.takesText then (loop, code) else (code.size, code.push (forkOf greedy entry next))
    else emitTimes (emit p) (least - 1) entry code

end Pattern

/-- Is there such a place between the character before and the text behind it? -/
def Anchor.holds (a : Anchor) (unicode : Bool) (before : Option Char) (behind : Text) : Bool :=
  let next := behind.head?
  let word := if unicode then CharSet.word else CharSet.asciiWord
  let wordBefore := before.any word.has
  let wordNext := next.any word.has
  match a with
  | textStart => before.isNone
  | textEnd => next.isNone
  | lineStart => before.all (· == '\n')
  | lineEnd => next.all (· == '\n')
  | anyLineStart => before.isNone || before == some '\n' || (before == some '\r' && next != some '\n')
  | anyLineEnd => next.isNone || next == some '\r' || (next == some '\n' && before != some '\r')
  | wordBoundary => wordBefore != wordNext
  | noWordBoundary => wordBefore == wordNext
  | wordStart => !wordBefore && wordNext
  | wordEnd => wordBefore && !wordNext
  | wordStartHalf => !wordBefore
  | wordEndHalf => !wordNext

namespace Program

/-- The program of a pattern. -/
def ofPattern (p : Pattern) : Program :=
  let (start, code) := p.emit 0 #[.accept]
  ⟨code, start⟩

/-- The program of the pattern that a text writes. -/
def ofText (t : Text) : Except PatternError Program := do
  let p ← Pattern.ofText t
  p.checkSize
  return ofPattern p

/-- A way through a program: the place where it stands, and how many characters stand before its match. -/
structure Way where
  place : Nat
  start : Nat

/-- Follows forks and anchors from the ways on a stack, the first one first, to steps that take a
character or accept. `seen` holds the places met before, `found` is the result so far, its last first. -/
def follow (p : Program) (before : Option Char) (behind : Text) :
    Nat → List Way → Std.HashSet Nat → List Way → List Way
  | 0, _, _, found => found.reverse
  | _ + 1, [], _, found => found.reverse
  | fuel + 1, way :: stack, seen, found =>
    if seen.contains way.place then follow p before behind fuel stack seen found
    else
      let seen := seen.insert way.place
      match p.code[way.place]? with
      | some (.fork first second) =>
        let stack := { way with place := first } :: { way with place := second } :: stack
        follow p before behind fuel stack seen found
      | some (.look a unicode next) =>
        let stack := if a.holds unicode before behind then { way with place := next } :: stack else stack
        follow p before behind fuel stack seen found
      | _ => follow p before behind fuel stack seen (way :: found)

/-- Where ways stand that have followed forks and anchors, in the order of preference. -/
def closure (p : Program) (before : Option Char) (behind : Text) (ways : List Way) : List Way :=
  follow p before behind (3 * p.code.size + ways.length + 1) ways ∅ []

/-- Does the step of a way accept? -/
def accepts (p : Program) (way : Way) : Bool :=
  match p.code[way.place]? with
  | some .accept => true
  | _ => false

/-- A way behind a step that takes a character. -/
def taken? (p : Program) (c : Char) (way : Way) : Option Way :=
  match p.code[way.place]? with
  | some (.take s next) => if s.has c then some { way with place := next } else none
  | _ => none

/-- The first match, by where it starts and stops: `n` characters are taken, the last of them is `before`,
`ways` have begun at them, and `best` is the match found so far. While there is none a match may begin at
every place; the ways that began before are preferred. -/
def search (p : Program) (before : Option Char) (t : Text) (ways : List Way) (n : Nat)
    (best : Option (Nat × Nat)) : Option (Nat × Nat) :=
  let ways := if best.isSome then ways else ways ++ [⟨p.start, n⟩]
  let here := p.closure before t ways
  let live := here.takeWhile fun way => !p.accepts way
  let best := ((here.find? p.accepts).map fun way => (way.start, n)).or best
  match t with
  | [] => best
  | c :: t =>
    let next := live.filterMap (p.taken? c)
    if next.isEmpty && best.isSome then best else search p (some c) t next (n + 1) best

/-- The text behind a character without its matches. Where a match takes nothing, one character stays
before the search goes on. -/
def stripBehind (p : Program) (before : Option Char) : Text → Text
  | [] => []
  | c :: t =>
    match p.search before (c :: t) [] 0 none with
    | none => c :: t
    | some (start, stop) =>
      let kept := if start < stop then start else start + 1
      let passed := max kept stop
      (c :: t).take kept ++
        stripBehind p ((c :: t).take passed).getLast? ((c :: t).drop passed)
termination_by t => t.length
decreasing_by
  simp only [List.length_drop, List.length_cons]
  split <;> omega

/-- The text without its matches, from left to right. -/
def strip (p : Program) (t : Text) : Text := p.stripBehind none t

end Program

end Hyperfiction

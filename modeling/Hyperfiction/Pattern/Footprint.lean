import Hyperfiction.Pattern.Basic
import Hyperfiction.CharSet.Utf8
import Std.Data.HashMap

/-!
# Memory of patterns

A pattern is refused if one of two automata over bytes would take too much memory: one reads texts forward
and one reads them backward. A `Footprint` counts the states of an automaton and the bytes that they take
beside their fixed size, in the order in which the states would be made. A pattern leaves behind the states
made before; where its last state has room for one more goal, what follows takes a place there.

A set of characters becomes a small automaton of byte ranges. Reading forward, equal states are shared;
reading backward, equal beginnings are. Both are found again in tables of a fixed size, in which a state
may push out another one, so the numbers of the states decide what is shared.
-/

namespace Hyperfiction

/-- What an automaton takes: its states, and the bytes that they take beside their fixed size. -/
structure Footprint where
  states : Nat := 0
  extra : Nat := 0

namespace Footprint

/-- The bytes of an automaton. -/
def bytes (f : Footprint) : Nat := 32 * f.states + f.extra

/-- The most bytes that an automaton may take. -/
def limit : Nat := 10 <<< 20

/-- Does the automaton take too much? -/
def isOver (f : Footprint) : Bool := limit < f.bytes

/-- Some states more, and some bytes. -/
def add (f : Footprint) (states : Nat) (extra : Nat) : Footprint :=
  ⟨f.states + states, f.extra + extra⟩

/-- The bytes of a goal among others. -/
def goal : Nat := 4

/-- The bytes of a byte range with its goal. -/
def rangeGoal : Nat := 8

/-- Does something several times, as long as there is memory. -/
def times (step : Footprint → Footprint) : Nat → Footprint → Footprint
  | 0, f => f
  | n + 1, f => if f.isOver then f else times step n (step f)

end Footprint

/-- The way in which an automaton reads a text. -/
inductive Direction where
  | forward
  | backward
deriving DecidableEq

namespace CharSet

/-! ### Sets of characters -/

/-- The slot of a key in a table of a size. -/
def slot (size : Nat) (key : List Nat) : Nat :=
  let hash := key.foldl (fun (h : UInt64) n => (h ^^^ n.toUInt64) * 1099511628211) 14695981039346656037
  hash.toNat % size

/-- A table of states by what is in them; it has a size, and each slot holds one state. -/
abbrev StateTable := Std.HashMap Nat (List Nat × Nat)

/-- The number of the state for a key: of the one in the table, or of a new one that takes some bytes and
goes into the table. -/
def stateFor (size extra : Nat) (key : List Nat) : StateM (Footprint × StateTable) Nat := do
  let (f, table) ← get
  let place := slot size key
  match table[place]? with
  | some (k, state) =>
    if k = key then return state
    set (f.add 1 extra, table.insert place (key, f.states))
    return f.states
  | none =>
    set (f.add 1 extra, table.insert place (key, f.states))
    return f.states

/-- The rows that begin with the same range, without it, for each first range in a row. -/
def groupRows (rows : List (List ByteRange)) : List (ByteRange × List (List ByteRange)) :=
  rows.foldr (fun row groups =>
    match row, groups with
    | r :: tail, (s, tails) :: others =>
      if r = s then (s, tail :: tails) :: others else (r, [tail]) :: (s, tails) :: others
    | r :: tail, [] => [(r, [tail])]
    | [], groups => groups) []

/-- The state that reads rows of at most `k` ranges and then goes on to `target`. -/
def forwardState (target : Nat) :
    Nat → List (List ByteRange) → StateM (Footprint × StateTable) Nat
  | 0, _ => return target
  | k + 1, rows => do
    if rows.all List.isEmpty then return target
    let goals ← (groupRows rows).mapM fun (r, tails) => do
      let next ← forwardState target k tails
      return [r.1, r.2, next]
    stateFor 10000 (goals.length * Footprint.rangeGoal) goals.flatten

/-- The state that goes on to `target` behind a row read from its end. -/
def backwardState (target : Nat) : List ByteRange → StateM (Footprint × StateTable) Nat
  | [] => return target
  | r :: row => do
    let next ← stateFor 1000 0 [target, r.1, r.2]
    backwardState next row

/-- The footprint with the states of a set. -/
def footprint (s : CharSet) (d : Direction) (f : Footprint) : Footprint :=
  if s.isAscii then f.add 2 (s.ranges.size * Footprint.rangeGoal)
  else
    match d with
    | .forward => ((forwardState f.states 4 s.utf8Rows).run (f.add 1 0, ∅)).2.1
    | .backward =>
      let rows := s.utf8Rows
      let step : StateM (Footprint × StateTable) Unit :=
        rows.forM fun row => do discard (backwardState (f.states + 1) row)
      (step.run (f.add 2 (rows.length * Footprint.goal), ∅)).2.1

end CharSet

namespace Pattern

/-! ### Texts that are alternatives -/

/-- The bytes of a text. -/
def utf8Bytes (t : Text) : List UInt8 := (String.ofList t).toUTF8.toList

/-- The first bytes of words that are not empty, each with what stands behind it. -/
def groupWords (words : List (List UInt8)) : List (UInt8 × List (List UInt8)) :=
  words.foldr (fun word groups =>
    match word with
    | [] => groups
    | b :: tail =>
      if groups.any (·.1 = b) then
        groups.map fun (c, tails) => if c = b then (c, tail :: tails) else (c, tails)
      else (b, [tail]) :: groups) []

/-- The words between those that are empty, where several empty ones in front count as one. -/
def wordChunks (words : List (List UInt8)) : List (List (List UInt8)) :=
  let chunks := words.splitOnP List.isEmpty
  match chunks with
  | [] :: rest => [] :: rest.dropWhile List.isEmpty
  | chunks => chunks

/-- The footprint with the states behind which words of at most `k` bytes are told apart: for each chunk of
words one state with a range for every first byte, and one state that chooses between the chunks. -/
def wordFootprint : Nat → List (List UInt8) → Footprint → Footprint
  | 0, _, f => f
  | k + 1, words, f =>
    if words.all List.isEmpty then f
    else
      let chunks := (wordChunks words).map groupWords
      let f := chunks.foldl (fun f groups =>
        let f := groups.foldl (fun f (_, tails) => wordFootprint k tails f) f
        if groups.isEmpty then f
        else f.add 1 (if groups.length = 1 then 0 else groups.length * Footprint.rangeGoal)) f
      let goals := chunks.length - 1 + (chunks.filter (!·.isEmpty)).length
      f.add 1 (goals * Footprint.goal)

/-- The text that a pattern is. -/
def toText? : Pattern → Option Text
  | text t => some t
  | _ => none

/-- The words that a pattern chooses between, in the order in which they are read. -/
def words? (d : Direction) (p : Pattern) : Option (List (List UInt8)) :=
  (p.alternatives.mapM toText?).map fun texts =>
    texts.map fun t => if d = .forward then utf8Bytes t else (utf8Bytes t).reverse

/-! ### Patterns -/

/-- Has the last state of a pattern room for one more goal? -/
def endsOpen (d : Direction) : Pattern → Bool
  | empty | text _ | set _ | anchor _ _ | either _ _ => false
  | group p => d = .backward && p.endsOpen d
  | seq p q => if d = .forward then q.endsOpen d else p.endsOpen d
  | rep p least none _ => 0 < least || p.takesText
  | rep p least (some most) _ => least = most && p.endsOpen d

/-- The bytes that leaving a pattern takes in its last state. -/
def exit (d : Direction) (p : Pattern) : Nat := if p.endsOpen d then Footprint.goal else 0

/-- The footprint with the states of a pattern. `before` tells how many alternatives stand before it if it
is one itself, and then the states that join these are counted with the second one. -/
def footprint (d : Direction) : Pattern → Nat → Footprint → Footprint
  | either p q, before, f =>
    if before = 0 then
      match (either p q).words? d with
      | some words => wordFootprint (words.foldl (fun n w => max n w.length) 1) words (f.add 1 0)
      | none => q.footprint d 1 ((p.footprint d 0 f).add 0 (Footprint.goal + p.exit d))
    else q.footprint d 2 (p.footprint d before f)
  | p, before, f =>
    let f := match p with
      | empty => f.add 1 0
      | text t => f.add (Text.width t) 0
      | set s => s.footprint d f
      | anchor _ _ => f.add 1 0
      | group q =>
        if d = .forward then ((q.footprint d 0 (f.add 1 0)).add 1 0).add 0 (q.exit d) else q.footprint d 0 f
      | seq q r =>
        if d = .forward then r.footprint d 0 ((q.footprint d 0 f).add 0 (q.exit d))
        else q.footprint d 0 ((r.footprint d 0 f).add 0 (r.exit d))
      | rep q least most _ =>
        let copy (f : Footprint) : Footprint := (q.footprint d 0 f).add 0 (q.exit d)
        match least, most with
        | 0, some 1 => (copy (f.add 1 0)).add 1 (2 * Footprint.goal)
        | 0, none =>
          if q.takesText then (copy (f.add 1 0)).add 0 Footprint.goal
          else (copy f).add 3 (4 * Footprint.goal)
        | least, none => (Footprint.times copy least f).add 1 Footprint.goal
        | least, some most =>
          let optional (f : Footprint) : Footprint := (copy (f.add 1 0)).add 0 (2 * Footprint.goal)
          if least = most then q.footprint d 0 (Footprint.times copy (least - 1) f)
          else
            let f := if least = 0 then f.add 1 0 else Footprint.times copy least f
            Footprint.times optional (most - least) (f.add 1 0)
      | either _ _ => f
    if before = 0 then f
    else f.add (if before = 1 then 2 else 0) (Footprint.goal + p.exit d)

/-! ### Whole patterns -/

/-- Does every match of a pattern begin at the start of the text, or end at its end? -/
def staysAt (d : Direction) (a : Anchor) : Pattern → Bool
  | anchor b _ => a = b
  | group p => p.staysAt d a
  | seq p q =>
    if d = .forward then p.staysAt d a || (p.takesNone && q.staysAt d a)
    else q.staysAt d a || (q.takesNone && p.staysAt d a)
  | either p q => p.staysAt d a && q.staysAt d a
  | rep p least _ _ => 0 < least && p.staysAt d a
  | _ => false

/-- The footprint of the automaton of a pattern: the states that pass over what stands before a match, if
a match may begin anywhere, then those of the pattern and one that accepts. -/
def automaton (d : Direction) (p : Pattern) : Footprint :=
  let edge : Anchor := if d = .forward then .textStart else .textEnd
  let lead : Footprint :=
    if p.staysAt d edge then ⟨1, 0⟩ else ⟨3, Footprint.rangeGoal + 2 * Footprint.goal⟩
  ((group p).footprint d 0 lead).add 1 ((group p).exit d)

/-- Refuses a pattern with an automaton that takes too much memory. -/
def checkSize (p : Pattern) : Except PatternError Unit :=
  if (p.automaton .forward).isOver || (p.automaton .backward).isOver then .error .tooLarge else .ok ()

end Pattern

end Hyperfiction

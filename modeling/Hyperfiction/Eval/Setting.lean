import Hyperfiction.Random.Draw
import Hyperfiction.Value

/-!
# What evaluation reads and changes

Conditions, prints and assignments of a passage read a `Setting` and change a `Run`: the variables and
the number of random words used. An `Act` is a computation on a run.
-/

namespace Hyperfiction

/-- How far a pass goes before it leaves the rest of a text as it is. -/
structure Limits where
  /-- The most macros that one pass over a text handles. -/
  maxReductions : Nat := 1000
  /-- How deep the bodies of branches may be nested. -/
  maxDepth : Nat := 64

/-- What the evaluation of a passage reads. -/
structure Setting where
  /-- The passages visited, the oldest first. -/
  visits : List Text
  /-- The tags of the passages of the story. -/
  tags : Table (List Text)
  words : Words
  limits : Limits

/-- What the evaluation of a passage changes. -/
structure Run where
  /-- The variables. -/
  store : Snapshot
  /-- The number of random words used. -/
  used : Nat

/-- A computation on a run. -/
abbrev Act (α : Type) := StateM Run α

namespace Setting

/-- Was the passage visited? -/
def hasVisited (w : Setting) (name : Text) : Bool := w.visits.contains name

/-- Was a passage visited that has a tag which includes a text? -/
def hasVisitedTag (w : Setting) (part : Text) : Bool :=
  w.visits.any fun name =>
    ((w.tags.get? name).getD []).any fun tag => Text.includes tag part

end Setting

namespace Snapshot

/-- The value of a variable, whose name may have its `$` in front. -/
def lookup? (s : Snapshot) (name : Text) : Option Value :=
  match name with
  | '$' :: bare => s.get? bare
  | bare => s.get? bare

/-- The number that a variable counts as, or 0. -/
def numberOrZero (s : Snapshot) (name : Text) : Float :=
  ((s.lookup? name).bind Value.toNumber?).getD 0

end Snapshot

namespace Act

/-- The value of a variable. -/
def lookup? (name : Text) : Act (Option Value) := do
  return (← get).store.lookup? name

/-- Binds a variable. -/
def bindTo (name : Text) (v : Value) : Act Unit :=
  modify fun run => { run with store := run.store.insert name v }

/-- Draws an integer between two bounds. -/
def drawBetween (words : Words) (a b : Int64) : Act Int64 := do
  let run ← get
  let d := Draw.between words a b run.used
  set { run with used := d.used }
  return d.result

/-- Draws a number below a range. -/
def drawBelow (words : Words) (range : Nat) : Act Nat := do
  let run ← get
  let d := Draw.below words range run.used
  set { run with used := d.used }
  return d.result

end Act

end Hyperfiction

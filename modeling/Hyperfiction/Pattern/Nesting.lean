import Hyperfiction.Pattern.Basic

/-!
# Nesting of patterns

How deep the parts of a pattern are nested as it is written: a group, a repetition, a class in brackets,
several parts in a row and several alternatives each stand one level above what they hold. The depth is
limited, so that what walks over a pattern does not go deep.
-/

namespace Hyperfiction.Pattern

/-- How deep the parts of a pattern may be nested. -/
def depthLimit : Nat := 250

/-- The depth of what holds parts of a depth. -/
def deeper (depth : Nat) : Except PatternError Nat :=
  if depth < depthLimit then .ok (depth + 1) else .error .tooDeep

/-- The depth of some things in a row, by the depths of each; a thing alone is no row. -/
def rowDepth (depths : List Nat) : Except PatternError Nat :=
  match depths with
  | [] => .ok 0
  | [depth] => .ok depth
  | depths => deeper (depths.foldl max 0)

/-- A pattern, and how deep its parts are nested as it is written. -/
structure Nested where
  pattern : Pattern
  depth : Nat

namespace Nested

/-- A pattern without parts. -/
def leaf (p : Pattern) : Nested := ⟨p, 0⟩

/-- A group of its own; only one that captures is told from what it holds. -/
def group (captures : Bool) (p : Nested) : Except PatternError Nested := do
  return ⟨if captures then .group p.pattern else p.pattern, ← deeper p.depth⟩

/-- A repetition. -/
def repeated (p : Nested) (least : Nat) (most : Option Nat) (greedy : Bool) :
    Except PatternError Nested := do
  let depth ← deeper p.depth
  return ⟨p.pattern.repeated least most greedy, depth⟩

/-- Parts in a row; a part that is none only sets flags. -/
def concat (parts : List (Option Nested)) : Except PatternError Nested := do
  let depth ← rowDepth (parts.map fun part => part.elim 0 Nested.depth)
  return ⟨Pattern.concat (parts.filterMap fun part => part.map Nested.pattern), depth⟩

/-- Alternatives, the first one preferred. -/
def alternation (ps : List Nested) : Except PatternError Nested := do
  let depth ← rowDepth (ps.map Nested.depth)
  return ⟨Pattern.alternation (ps.map Nested.pattern), depth⟩

end Nested

end Hyperfiction.Pattern

import Hyperfiction.Expr.Basic

/-!
# Assignments

What one part of a `(set:)` writes: a target and the form of its value.
-/

namespace Hyperfiction

/-- Where an assignment reads an old value. -/
inductive Source where
  | var (name : Text)
  /-- The target of the assignment. -/
  | it
deriving DecidableEq

/-- The right side of an assignment. -/
inductive RightSide where
  /-- An operation on the number in a variable. -/
  | arithmetic (source : Source) (op : Operation) (operand : Expr)
  /-- A list with items behind it. -/
  | append (source : Source) (items : List Expr)
  /-- A map with entries on top of it. -/
  | merge (source : Source) (items : List Expr)
  | list (items : List Expr)
  | emptyMap
  | random (lo hi : Expr)
  | number (x : Float)
  | boolean (holds : Bool)
  /-- The value of another variable. -/
  | copy (name : Text)
  | text (t : Text)

/-- An assignment. -/
structure Assignment where
  target : Text
  value : RightSide

end Hyperfiction

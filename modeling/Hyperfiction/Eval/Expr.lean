import Hyperfiction.Eval.Setting
import Hyperfiction.Expr.Basic

/-!
# Values of expressions

An expression has a value or none: undefined variables, operands of the wrong kind and calls that do not
fit have none, and so has whatever needs them. Evaluation goes from left to right and stops at an
operand without value; only draws change the run (`Expr.evaluate`).
-/

namespace Hyperfiction

/-- The macros that an expression may call. -/
inductive Callee where
  | random
  | either
  | list
  | map

/-- The macro of a name. -/
def Callee.ofName? (name : Text) : Option Callee :=
  if name = "random".toList then some .random
  else if name = "either".toList then some .either
  else if name = "a".toList ∨ name = "array".toList then some .list
  else if name = "dm".toList ∨ name = "datamap".toList then some .map
  else none

namespace Value

/-- Entries from keys and values that take turns; a key at the end without value is dropped. -/
def pairs : List Value → List (Text × Value)
  | key :: v :: rest => (key.toText, v) :: pairs rest
  | _ => []

/-- The sum of two values that are not both numbers: lists one after the other, the entries of both
maps with the later ones on top, and the texts of both if one is a text. -/
def joined? (v w : Value) : Option Value :=
  match v, w with
  | .list vs, .list ws => some (.list (vs ++ ws))
  | .map es, .map fs => some (.map (Entries.insertAll es fs))
  | .text s, w => some (.text (s ++ w.toText))
  | v, .text t => some (.text (v.toText ++ t))
  | _, _ => none

/-- The result of an operation on two values. -/
def operate? (op : Operation) (v w : Value) : Option Value :=
  match v.toNumber?, w.toNumber? with
  | some x, some y => (op.result? x y).map number
  | _, _ => if op = .add then joined? v w else none

/-- What a value has under an index that is not evaluated: the ends and the length of a list, an entry
of a map, the length of a text. A list asks to evaluate any other index. -/
def property (v : Value) (index : Expr) : Option (Option Value) :=
  match v, index with
  | .list items, .word w =>
    some (if w = "last".toList then items.getLast?
      else if w = "first".toList then items.head?
      else if w = "length".toList then some (.number (Float.ofNat items.length))
      else none)
  | .list _, _ => none
  | .map entries, .word key => some (Entries.get? entries key)
  | .map entries, .quoted key => some (Entries.get? entries key)
  | .text t, .word w =>
    some (if w = "length".toList then some (.number (Float.ofNat t.length)) else none)
  | _, _ => some none

/-- The item of a list at a place that a number gives; the number has to be whole. -/
def itemAt? (v : Value) (place : Float) : Option Value :=
  if Number.isWhole place then v.item? (Number.toInt64 place).toInt else none

end Value

namespace Query

/-- The answer to a query. -/
def holds (w : Setting) : Query → Bool
  | passage name => w.hasVisited name
  | tag part => w.hasVisitedTag part

end Query

namespace Expr

mutual

/-- The value of an expression. -/
def evaluate (w : Setting) : Expr → Act (Option Value)
  | .number x => pure (some (.number x))
  | .quoted t => pure (some (.text t))
  | .boolean b => pure (some (.boolean b))
  | .word t => pure (some (.text t))
  | .var name => Act.lookup? name
  | .it => pure none
  | .neg e => do
    let v ← evaluate w e
    pure ((v.bind Value.toNumber?).map fun x => .number (-x))
  | .binary op left right => do
    match ← evaluate w left with
    | none => pure none
    | some v =>
      match ← evaluate w right with
      | none => pure none
      | some u => pure (v.operate? op u)
  | .call name args =>
    match Callee.ofName? name with
    | some .random => evaluateRandom w args
    | some .either =>
      if args.isEmpty then pure none
      else do
        let i ← Act.drawBelow w.words args.length
        evaluateNth w args i
    | some .list => do
      let vs ← evaluateAll w args
      pure (some (.list vs))
    | some .map => do
      let vs ← evaluateAll w args
      pure (some (.map (Entries.insertAll [] (Value.pairs vs))))
    | none => pure none
  | .visited q => pure (some (.boolean (q.holds w)))
  | .item object index => do
    match ← evaluate w object with
    | none => pure none
    | some v =>
      match v.property index with
      | some found => pure found
      | none =>
        let place ← evaluate w index
        pure ((place.bind Value.toNumber?).bind v.itemAt?)

/-- A number drawn between two operands. -/
def evaluateRandom (w : Setting) : List Expr → Act (Option Value)
  | [lo, hi] => do
    match (← evaluate w lo).bind Value.toNumber? with
    | none => pure none
    | some x =>
      match (← evaluate w hi).bind Value.toNumber? with
      | none => pure none
      | some y =>
        let n ← Act.drawBetween w.words (Number.toInt64 x) (Number.toInt64 y)
        pure (some (.number (Float.ofInt n.toInt)))
  | _ => pure none

/-- The value of the expression at a place. -/
def evaluateNth (w : Setting) : List Expr → Nat → Act (Option Value)
  | [], _ => pure none
  | e :: _, 0 => evaluate w e
  | _ :: es, n + 1 => evaluateNth w es n

/-- The values of those expressions that have one, in order. -/
def evaluateAll (w : Setting) : List Expr → Act (List Value)
  | [] => pure []
  | e :: es => do
    let v ← evaluate w e
    let vs ← evaluateAll w es
    pure (v.toList ++ vs)

end

/-- The number that an expression counts as. -/
def numeric (w : Setting) (e : Expr) : Act (Option Float) := do
  return (← evaluate w e).bind Value.toNumber?

end Expr

end Hyperfiction

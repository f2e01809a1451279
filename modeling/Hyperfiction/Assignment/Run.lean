import Hyperfiction.Assignment.Parser
import Hyperfiction.Eval.Setting
import Hyperfiction.Markup.Sweep

/-!
# Running assignments

Assignments run from left to right and each reads the variables that the ones before it left. An
operation without result leaves its target as it was. Of the assignments of a text only those outside
all square brackets run (`runSets`); those in brackets belong to the branch whose body they are.
-/

namespace Hyperfiction

namespace Source

/-- The variable that is read for an assignment to `target`. -/
def name (target : Text) : Source → Text
  | var name => name
  | it => target

end Source

namespace Snapshot

/-- The number of an operand: a literal, or a variable, which counts as 0 without a number. -/
def operand (s : Snapshot) : Expr → Float
  | .number x => x
  | .var name => s.numberOrZero name
  | _ => 0

/-- The value of an item of a list: a literal, or a variable. -/
def literal? (s : Snapshot) : Expr → Option Value
  | .quoted t => some (.text t)
  | .number x => some (.number x)
  | .boolean b => some (.boolean b)
  | .word t => some (.text t)
  | .var name => s.lookup? name
  | _ => none

end Snapshot

namespace Assignment

/-- The value that an assignment to `target` gives; an operation may have none. -/
def value? (words : Words) (target : Text) (right : RightSide) : Act (Option Value) := do
  let store := (← get).store
  match right with
  | .arithmetic source op operand =>
    return (op.result? (store.numberOrZero (source.name target)) (store.operand operand)).map
      .number
  | .append source items =>
    let old := match store.lookup? (source.name target) with
      | some (.list vs) => vs
      | _ => []
    return some (.list (old ++ items.filterMap store.literal?))
  | .merge source items =>
    let old := match store.lookup? (source.name target) with
      | some (.map es) => es
      | _ => []
    return some (.map (Entries.insertAll old (Value.pairs (items.filterMap store.literal?))))
  | .list items => return some (.list (items.filterMap store.literal?))
  | .emptyMap => return some (.map [])
  | .random lo hi =>
    let n ← Act.drawBetween words (Number.toInt64 (store.operand lo))
      (Number.toInt64 (store.operand hi))
    return some (.number (Float.ofInt n.toInt))
  | .number x => return some (.number x)
  | .boolean b => return some (.boolean b)
  | .copy name => return some ((store.lookup? name).getD (.text ('$' :: name)))
  | .text t => return some (.text t)

/-- Runs an assignment. -/
def run (words : Words) (a : Assignment) : Act Unit := do
  match ← value? words a.target a.value with
  | some v => Act.bindTo a.target v
  | none => pure ()

/-- Runs assignments in order. -/
def runAll (words : Words) : List Assignment → Act Unit
  | [] => pure ()
  | a :: as => do
    run words a
    runAll words as

/-- Runs the assignments that a text writes. -/
def runText (words : Words) (t : Text) : Act Unit := runAll words (ofText t)

end Assignment

/-- Runs those macros that stand outside square brackets, and writes the text without them. `depth` is
the depth of brackets before the first of them. -/
def runSetsFrom (words : Words) (depth : Nat) : List (Cut Invocation) → Text → Act Text
  | [], tail => pure tail
  | c :: cs, tail => do
    let here := Bracket.square.depthAfter depth c.before
    let behind := Bracket.square.depthAfter here c.item.source
    if here = 0 then
      Assignment.runText words c.item.args
      let rest ← runSetsFrom words behind cs tail
      pure (c.before ++ rest)
    else
      let rest ← runSetsFrom words behind cs tail
      pure (c.before ++ c.item.source ++ rest)

/-- Runs the assignments of a text that stand outside square brackets, and writes the text without
them. -/
def runSets (words : Words) (t : Text) : Act Text :=
  let cs := (Invocation.finder setNames).cuts t
  runSetsFrom words 0 cs.items cs.tail

end Hyperfiction

import Hyperfiction.Json.Parser
import Hyperfiction.Passage

/-!
# Stories and variables in JSON

What the nodes of a JSON text mean as values of variables, as a snapshot, as visits and as records.
-/

namespace Hyperfiction.Json.Node

mutual

/-- The value that a node is. There is none for null. -/
def toValue : Node → Except Fault Value
  | null => .error .unexpectedKind
  | truth b => .ok (.boolean b)
  | number n =>
    match n.toFloat? with
    | some x => .ok (.number x)
    | none => .error .outOfRange
  | text t => .ok (.text t)
  | list items => do return .list (← toItems items)
  | map fields => do return .map (Entries.insertAll [] (← toEntries fields))

/-- The values of a list. -/
def toItems : List Node → Except Fault (List Value)
  | [] => .ok []
  | n :: ns => do
    let v ← toValue n
    return v :: (← toItems ns)

/-- The names and values of an object. -/
def toEntries : List (Text × Node) → Except Fault (Entries Value)
  | [] => .ok []
  | (name, n) :: fields => do
    let v ← toValue n
    return (name, v) :: (← toEntries fields)

end

/-- The variables that an object binds. -/
def toSnapshot : Node → Except Fault Snapshot
  | map fields => do return Table.ofList (← toEntries fields)
  | _ => .error .unexpectedKind

/-- The names that the body of a passage goes by. -/
def bodyNames : List Text := ["raw_body".toList, "rawBody".toList, "text".toList]

/-- The names of the fields of a passage. -/
def recordFields : List Text := "name".toList :: "tags".toList :: bodyNames

/-- The passage that a node describes, as an object or as the list of its name, tags and body. -/
def toRecord : Node → Except Fault PassageRecord
  | map fields => do
    let name ← field ["name".toList] toText fields
    let tags ← field? ["tags".toList] (toList toText) fields
    let body ← field bodyNames toText fields
    return ⟨name, tags.getD [], body⟩
  | list [name, tags, body] => do
    return ⟨← toText name, ← toList toText tags, ← toText body⟩
  | _ => .error .unexpectedKind

end Hyperfiction.Json.Node

namespace Hyperfiction.Json

/-- What `read` takes from a text that may be blank. -/
def readUnlessBlank {α : Type} (read : Node → Except Fault α) (t : Text) :
    Except Fault (Option α) :=
  if Text.isBlankText t then .ok none
  else do return some (← read (← Json.read none t))

/-- The variables of a text, unless it is blank. -/
def readSnapshot (t : Text) : Except Fault (Option Snapshot) := readUnlessBlank Node.toSnapshot t

/-- The names of the passages visited, unless the text is blank. -/
def readVisits (t : Text) : Except Fault (Option (List Text)) :=
  readUnlessBlank (Node.toList Node.toText) t

/-- The records that a text lists. -/
def readRecords (t : Text) : Except Fault (List PassageRecord) := do
  (← Json.read (some Node.recordFields) t).toList Node.toRecord

end Hyperfiction.Json

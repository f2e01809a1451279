import Hyperfiction.Eval.Setting
import Hyperfiction.Filter
import Hyperfiction.Passage
import Hyperfiction.Ron.Parser

/-!
# Settings and passages in files

The settings of a story, each with a default, and the list of its passages, as files of object notation
write them.
-/

namespace Hyperfiction

/-- The settings of a story. -/
structure StoryConfig where
  /-- The passage to open with. -/
  startPassage : Option Text := none
  headerTag : Text := "header".toList
  footerTag : Text := "footer".toList
  limits : Limits := {}
  seed : Option Nat := none
  filters : List FilterRule := []

namespace Ron.Node

/-- The parts of a structure or tuple of some name. -/
def ofVariant? : Node → Option (Text × Node)
  | tuple (Option.some name) items => Option.some (name, tuple Option.none items)
  | struct (Option.some name) fields => Option.some (name, struct Option.none fields)
  | _ => Option.none

/-- The filter that a node describes. -/
def toFilter (n : Node) : Except Fault FilterRule :=
  match ofVariant? n with
  | Option.none => .error .unexpectedKind
  | Option.some (name, parts) =>
    if name = "StripBetween".toList then do
      let fields ← toFields [] parts
      return .between (← field ["start".toList] toText fields) (← field ["end".toList] toText fields)
    else if name = "StripPattern".toList then
      match parts with
      | tuple _ [item] => do return .pattern (← toText item)
      | _ => .error .unexpectedKind
    else if name = "StripLiteral".toList then
      match parts with
      | tuple _ [item] => do return .literal (← toText item)
      | _ => .error .unexpectedKind
    else .error (.unexpectedName name)

/-- The settings that a node describes. -/
def toConfig (n : Node) : Except Fault StoryConfig := do
  let fields ← toFields "StoryConfig".toList n
  let startPassage ← field? ["start_passage".toList] (toOption toText) fields
  let headerTag ← field? ["header_tag".toList] toText fields
  let footerTag ← field? ["footer_tag".toList] toText fields
  let maxReductions ← field? ["max_reductions".toList] toNat fields
  let maxDepth ← field? ["max_depth".toList] toNat fields
  let seed ← field? ["seed".toList] (toOption toNat) fields
  let filters ← field? ["filters".toList] (toList toFilter) fields
  let defaults : StoryConfig := {}
  return {
    startPassage := startPassage.getD defaults.startPassage
    headerTag := headerTag.getD defaults.headerTag
    footerTag := footerTag.getD defaults.footerTag
    limits := ⟨maxReductions.getD defaults.limits.maxReductions,
      maxDepth.getD defaults.limits.maxDepth⟩
    seed := seed.getD defaults.seed
    filters := filters.getD defaults.filters }

/-- The passage that a node describes. Its body goes by one of three names. -/
def toRecord (n : Node) : Except Fault PassageRecord := do
  let fields ← toFields "RawPassage".toList n
  let name ← field ["name".toList] toText fields
  let tags ← field? ["tags".toList] (toList toText) fields
  let body ← field ["raw_body".toList, "rawBody".toList, "text".toList] toText fields
  return ⟨name, tags.getD [], body⟩

end Ron.Node

/-- What is expected of the text of settings. -/
def StoryConfig.shape : Ron.Shape := .struct ["start_passage".toList, "seed".toList]

/-- The settings that a text of object notation describes. -/
def StoryConfig.ofText (t : Text) : Except Ron.Fault StoryConfig := do
  (← Ron.read StoryConfig.shape t).toConfig

/-- The passages that a text of object notation lists. -/
def PassageRecord.listOfText (t : Text) : Except Ron.Fault (List PassageRecord) := do
  (← Ron.read .any t).toList Ron.Node.toRecord

end Hyperfiction

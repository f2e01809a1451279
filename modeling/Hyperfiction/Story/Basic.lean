import Hyperfiction.Render.Passage
import Hyperfiction.Story.Error

/-!
# Stories

A **story** is made from passage records and settings. Records with the tag of headers or footers are
shown around the passages; all others can be gone to, and of two with one name the later stays, at the
place of the first.
-/

namespace Hyperfiction

/-- Is the record a header or a footer? -/
def StoryConfig.frames (config : StoryConfig) (p : PassageRecord) : Bool :=
  p.hasTag config.headerTag || p.hasTag config.footerTag

/-- A story ready to be told. -/
structure Story where
  config : StoryConfig
  compiler : Compiler
  /-- The passages to go to. -/
  passages : Table PassageRecord
  /-- The names of these passages in the order of the story. -/
  order : List Text
  header? : Option PassageRecord
  footer? : Option PassageRecord
  /-- The tags of all records. -/
  tags : Table (List Text)

namespace Story

/-- The name of the passage to open with where the settings have none. -/
def defaultStart : Text := "Start".toList

/-- The records that can be gone to. -/
def navigable (config : StoryConfig) (records : List PassageRecord) : List PassageRecord :=
  records.filter fun p => !config.frames p

/-- The story of some records. A header is the first record with the tag of headers, a footer the first
with that of footers only. -/
def ofRecords (config : StoryConfig) (records : List PassageRecord) : Except StoryError Story := do
  let shown := navigable config records
  if shown.isEmpty then throw .noPassages
  let compiler ← (Compiler.ofConfig config).mapError .badFilter
  return {
    config := config
    compiler := compiler
    passages := Table.ofList (shown.map fun p => (p.name, p))
    order := (shown.map (·.name)).foldl Text.addTo []
    header? := records.find? fun p => p.hasTag config.headerTag
    footer? := records.find? fun p => !p.hasTag config.headerTag && p.hasTag config.footerTag
    tags := Table.ofList (records.map fun p => (p.name, p.tags)) }

/-- Can the passage be gone to? -/
def contains (s : Story) (name : Text) : Bool := s.passages.contains name

/-- The name of the passage to open with: the one of the settings if there is such a passage, `Start` if
there is one, or the first. -/
def start? (s : Story) : Option Text :=
  match s.config.startPassage.filter s.contains with
  | some name => some name
  | none => if s.contains defaultStart then some defaultStart else s.order.head?

end Story

end Hyperfiction

import Hyperfiction.Json.Printer
import Hyperfiction.Json.Reading
import Hyperfiction.Story.Play

/-!
# Stories told through JSON

Another program, such as a page with a player, tells a story by texts: records, variables and visits come
as JSON and passages go as JSON. A blank text stands for what is not given.
-/

namespace Hyperfiction

/-- A story that is told through JSON. -/
structure Exchange where
  story : Story
  words : Words

/-- Why nothing can be told. -/
inductive ExchangeError where
  | badJson (fault : Json.Fault)
  | badStory (e : StoryError)

namespace Exchange

/-- The exchange for records and settings. -/
def ofRecords (config : StoryConfig) (records : List PassageRecord) (seed : Nat) :
    Except ExchangeError Exchange :=
  match Story.ofRecords config records with
  | .ok s => .ok ⟨s, Words.seeded (UInt64.ofNat seed)⟩
  | .error e => .error (.badStory e)

/-- The exchange for records in JSON and settings in object notation, which may be blank. -/
def ofText (records config : Text) (seed : Nat) : Except ExchangeError Exchange := do
  let records ← (Json.readRecords records).mapError .badJson
  if Text.isBlankText config then ofRecords {} records seed
  else
    let config ← (StoryConfig.ofText config).mapError (.badStory ∘ .badSettings)
    ofRecords config records seed

variable (x : Exchange)

/-- What is told of a passage. -/
def told : Except StoryError Passage → Except ExchangeError Text
  | .ok p => .ok (Json.ofPassage p)
  | .error e => .error (.badStory e)

/-- The passage of a name for variables and visits. -/
def passage (name snapshot visits : Text) : Playing (Except ExchangeError Text) :=
  match Json.readSnapshot snapshot, Json.readVisits visits with
  | .ok snapshot, .ok visits => do return told (← x.story.passage x.words name snapshot visits)
  | .error e, _ | _, .error e => return .error (.badJson e)

/-- The passage that the story opens with. -/
def startPassage (snapshot visits : Text) : Playing (Except ExchangeError Text) :=
  match x.story.start? with
  | some name => x.passage name snapshot visits
  | none => return .error (.badStory .noPassages)

/-- The text of the header, if there is one. -/
def header (snapshot : Text) : Playing (Except ExchangeError (Option Text)) :=
  match Json.readSnapshot snapshot with
  | .ok snapshot => do return .ok (← x.story.headerText x.words snapshot)
  | .error e => return .error (.badJson e)

/-- The text of the footer, if there is one. -/
def footer (snapshot : Text) : Playing (Except ExchangeError (Option Text)) :=
  match Json.readSnapshot snapshot with
  | .ok snapshot => do return .ok (← x.story.footerText x.words snapshot)
  | .error e => return .error (.badJson e)

/-- The names of the passages, in the order of the story. -/
def names : Text := Json.ofList (x.story.order.map Json.ofText)

end Exchange

end Hyperfiction

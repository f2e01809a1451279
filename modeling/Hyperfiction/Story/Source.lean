import Hyperfiction.Story.Basic
import Hyperfiction.Story.Files

/-!
# Where a story comes from

Settings come from a file or are given, records are given or come from files. The settings are read
first, then the records, and the filters of the settings last.
-/

namespace Hyperfiction

/-- A place where files are expected: `none` where nothing stands. -/
abbrev Place (α : Type) := Option α

/-- The parts that a story is made from. -/
structure StorySource where
  /-- Records that stand before those of the files. -/
  records : List PassageRecord := []
  /-- Where the files of passages are, if there are to be any. -/
  files : Option (Place FileTree) := none
  /-- The settings, unless there is a file of them. -/
  config : StoryConfig := {}
  /-- Where the file of settings is, if there is to be one. -/
  configFile : Option (Place Text) := none

namespace StorySource

/-- The settings of a story. -/
def settings (source : StorySource) : Except StoryError StoryConfig :=
  match source.configFile with
  | none => .ok source.config
  | some none => .error .noSettings
  | some (some t) => (StoryConfig.ofText t).mapError .badSettings

/-- All records of a story, those of the files last. -/
def allRecords (source : StorySource) : Except StoryError (List PassageRecord) :=
  match source.files with
  | none => .ok source.records
  | some none => .error .noFile
  | some (some tree) => do return source.records ++ (← tree.records)

/-- The story of a source. -/
def story (source : StorySource) : Except StoryError Story := do
  let config ← source.settings
  Story.ofRecords config (← source.allRecords)

end StorySource

end Hyperfiction

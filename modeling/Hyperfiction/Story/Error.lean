import Hyperfiction.Config

/-!
# What keeps a story from being told

A story may have settings or passages that cannot be read, or none to open with; and a passage may be
asked for that it does not have.
-/

namespace Hyperfiction

/-- Why there is no story or no passage. -/
inductive StoryError where
  /-- There is no file of settings where one should be. -/
  | noSettings
  | badSettings (fault : Ron.Fault)
  | badFilter (fault : PatternError)
  /-- There is no file of passages where one should be. -/
  | noFile
  | badFile (fault : Ron.Fault)
  | passageNotFound (name : Text)
  /-- All passages are headers and footers. -/
  | noPassages

/-- The error as its reader is told it. -/
def StoryError.message : StoryError → Text
  | noSettings => "config error: IO error".toList
  | badSettings _ => "config error: RON deserialization error".toList
  | badFilter _ => "config error: invalid filter pattern".toList
  | noFile => "IO error".toList
  | badFile _ => "RON error".toList
  | passageNotFound name => "passage not found: ".toList ++ name
  | noPassages => "story has no navigable passages".toList

end Hyperfiction

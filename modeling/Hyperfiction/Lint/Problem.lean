import Hyperfiction.Lint.Unclosed

/-!
# Problems of stories

What an author is told of a story before it is played: errors break the story, warnings point at what
may not be meant.
-/

namespace Hyperfiction

/-- How bad a problem is. -/
inductive Severity where
  | error
  | warning
deriving DecidableEq

/-- A problem of a story. -/
inductive Problem where
  /-- Several records have one name. -/
  | repeated (name : Text) (count : Nat)
  | emptyName
  | emptyBody (name : Text)
  /-- A link leads to a passage that is not there. -/
  | missingTarget (name target : Text)
  | unclosed (name : Text) (markup : Unclosed)
  /-- The settings open the story with a passage that is not there. -/
  | missingStart (name : Text)
  /-- The story opens with its first passage, since no other is named for it. -/
  | assumedStart (name : Text)
  | noPassages
  /-- No link leads to the passage, and the story does not open with it. -/
  | unlinked (name : Text)
deriving DecidableEq

namespace Problem

/-- How bad the problem is. -/
def severity : Problem → Severity
  | emptyName | missingTarget .. | unclosed .. | missingStart _ | noPassages => .error
  | repeated .. | emptyBody _ | assumedStart _ | unlinked _ => .warning

/-- A name in single quotes. -/
def quoted (name : Text) : Text := '\'' :: name ++ ['\'']

/-- The problem as an author is told it. -/
def message : Problem → Text
  | repeated name count =>
    "Passage ".toList ++ quoted name ++ " is defined ".toList ++ Text.ofNat count ++
      " times; the last definition wins".toList
  | emptyName => "A passage has an empty name".toList
  | emptyBody name => "Passage ".toList ++ quoted name ++ " has an empty body".toList
  | missingTarget name target =>
    "Passage ".toList ++ quoted name ++ " links to missing passage ".toList ++ quoted target
  | unclosed name markup => "Passage ".toList ++ quoted name ++ ": ".toList ++ markup.message
  | missingStart name =>
    "Configured start passage ".toList ++ quoted name ++ " does not exist".toList
  | assumedStart name =>
    "No 'Start' passage; the story will open at ".toList ++ quoted name
  | noPassages => "Story has no navigable passages".toList
  | unlinked name => "Passage ".toList ++ quoted name ++ " is never linked to".toList

end Problem

end Hyperfiction

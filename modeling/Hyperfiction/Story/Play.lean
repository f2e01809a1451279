import Hyperfiction.Story.Basic

/-!
# Telling a story

While a story is told, a `Play` counts the random words used, and keeps each passage that was shown for
no variables and no visits: it is shown the same way when it is asked for like that again
(`Story.passage`). Headers and footers are told without visits.
-/

namespace Hyperfiction

/-- What the telling of a story has come to. -/
structure Play where
  /-- The number of random words used. -/
  used : Nat := 0
  /-- The passages shown for no variables and no visits. -/
  kept : Table Passage := Table.empty

/-- A computation on a play. -/
abbrev Playing (α : Type) := StateM Play α

namespace Story

/-- The random words of a story: of the seed given, else that of the settings, else one by chance. -/
def words (s : Story) (given : Option Nat) (chance : Nat) : Words :=
  Words.seeded (UInt64.ofNat ((given <|> s.config.seed).getD chance))

/-- The passage of a record for a snapshot and visits. -/
def compiled (s : Story) (words : Words) (p : PassageRecord) (snapshot : Snapshot)
    (visits : List Text) : Playing Passage :=
  fun play =>
    let w := s.compiler.setting visits s.tags words
    let (passage, used) := s.compiler.compile w p snapshot play.used
    (passage, { play with used := used })

/-- The passage of a name. Where neither a snapshot nor visits are given, it is kept. -/
def passage (s : Story) (words : Words) (name : Text) (snapshot : Option Snapshot)
    (visits : Option (List Text)) : Playing (Except StoryError Passage) := do
  match s.passages.get? name with
  | none => return .error (.passageNotFound name)
  | some record =>
    if snapshot.isNone && visits.isNone then
      match (← get).kept.get? name with
      | some p => return .ok p
      | none =>
        let p ← s.compiled words record Table.empty []
        modify fun play => { play with kept := play.kept.insert name p }
        return .ok p
    else return .ok (← s.compiled words record (snapshot.getD Table.empty) (visits.getD []))

/-- The passage that the story opens with. -/
def startPassage (s : Story) (words : Words) (snapshot : Option Snapshot)
    (visits : Option (List Text)) : Playing (Except StoryError Passage) :=
  match s.start? with
  | none => return .error .noPassages
  | some name => s.passage words name snapshot visits

/-- The text of a record for a snapshot and no visits. -/
def frameText (s : Story) (words : Words) (p : PassageRecord) (snapshot : Option Snapshot) :
    Playing Text :=
  fun play =>
    let w := s.compiler.setting [] s.tags words
    let (t, used) := s.compiler.render w p (snapshot.getD Table.empty) play.used
    (t, { play with used := used })

/-- The text of the header, if there is one. -/
def headerText (s : Story) (words : Words) (snapshot : Option Snapshot) : Playing (Option Text) :=
  s.header?.mapM fun p => s.frameText words p snapshot

/-- The text of the footer, if there is one. -/
def footerText (s : Story) (words : Words) (snapshot : Option Snapshot) : Playing (Option Text) :=
  s.footer?.mapM fun p => s.frameText words p snapshot

end Story

end Hyperfiction

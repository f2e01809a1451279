import Hyperfiction.Story.Play

/-!
# Sessions

A **session** is what a reader carries from passage to passage: the variables, the names of the passages
entered and the one that is shown. Entering a passage shows a `Scene`; an entry that fails leaves the
session as it is. `Story.walk` follows choices by their numbers.
-/

namespace Hyperfiction

/-- What a reader carries from passage to passage. -/
structure Session where
  snapshot : Snapshot := Table.empty
  /-- The passages entered, the oldest first. -/
  visits : List Text := []
  current : Option Passage := none

/-- A passage with what is shown around it. -/
structure Scene where
  passage : Passage
  header : Option Text
  footer : Option Text

namespace Session

/-- The session behind an entry of a passage. -/
def after (session : Session) (p : Passage) : Session :=
  ⟨session.snapshot.overlay p.changes, session.visits ++ [p.name], some p⟩

/-- Enters a passage. -/
def enter (session : Session) (s : Story) (words : Words) (name : Text) :
    Playing (Except StoryError (Scene × Session)) := do
  match ← s.passage words name (some session.snapshot) (some session.visits) with
  | .error e => return .error e
  | .ok p =>
    let next := session.after p
    let header ← s.headerText words (some next.snapshot)
    let footer ← s.footerText words (some next.snapshot)
    return .ok (⟨p, header, footer⟩, next)

end Session

namespace Story

/-- Enters a passage and, for each pick, the target of the choice at that place, counted from 0. Picks
that no choice is at end the walk, and so does an error. -/
def walkFrom (s : Story) (words : Words) (name : Text) (session : Session) :
    List Nat → Playing (List (Except StoryError Scene) × Session)
  | [] => return ([], session)
  | pick :: picks => do
    match ← session.enter s words name with
    | .error e => return ([.error e], session)
    | .ok (scene, next) =>
      match scene.passage.choices[pick]? with
      | none => return ([.ok scene], next)
      | some choice =>
        let (scenes, last) ← walkFrom s words choice.target next picks
        return (.ok scene :: scenes, last)

/-- Walks from the passage that the story opens with. -/
def walk (s : Story) (words : Words) (snapshot : Snapshot) (picks : List Nat) :
    Playing (List (Except StoryError Scene) × Session) :=
  match s.start? with
  | none => return ([.error .noPassages], { snapshot := snapshot })
  | some name => s.walkFrom words name { snapshot := snapshot } picks

end Story

end Hyperfiction

import Hyperfiction.Story.Outcome
import Hyperfiction.Story.Session

/-!
# Pages of a preview

A preview shows a scene as a page: the header, the name and text of the passage, the footer, the
variables that have changed and the choices, of which those that lead nowhere are marked.
-/

namespace Hyperfiction

namespace Preview

/-- A line for a variable. -/
def variableLine (name : Text) (v : Value) : Text :=
  Text.line ("  $".toList ++ name ++ " = ".toList ++ v.toText)

/-- The text of a header or footer in brackets, unless it is empty. -/
def framed (before : Text) (t : Option Text) : Text :=
  match t with
  | none | some [] => []
  | some t => before ++ Text.line ('[' :: t ++ [']'])

/-- A line for a choice and its number. -/
def choiceLine (s : Story) (number : Nat) (c : Choice) : Text :=
  Text.line ("  ".toList ++ Text.ofNat number ++ ". ".toList ++ c.text ++ " -> ".toList ++ c.target ++
    if s.contains c.target then [] else "  [missing]".toList)

/-- The lines of choices. -/
def choiceLines (s : Story) (cs : List Choice) : Text :=
  if cs.isEmpty then Text.line "  (none)".toList
  else (cs.zipIdx 1).flatMap fun (c, number) => choiceLine s number c

/-- The lines of the variables that have changed, if there are any. -/
def changeLines (changes : Snapshot) : Text :=
  if changes.entries.isEmpty then []
  else Text.line "\n--- Changed ---".toList ++
    changes.entries.flatMap fun e => variableLine e.1 e.2

/-- The page of a scene. -/
def page (s : Story) (scene : Scene) : Text :=
  framed [] scene.header ++
    Text.line ("\n=== ".toList ++ scene.passage.name ++ " ===".toList) ++
    Text.line scene.passage.content ++
    framed ['\n'] scene.footer ++
    changeLines scene.passage.changes ++
    Text.line "\n--- Choices ---".toList ++
    choiceLines s scene.passage.choices ++ ['\n']

end Preview

end Hyperfiction

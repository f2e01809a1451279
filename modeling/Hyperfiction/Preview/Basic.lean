import Hyperfiction.Preview.Command
import Hyperfiction.Preview.Page
import Hyperfiction.Story.Source

/-!
# Previews

In a **preview** an author goes through a story by commands, one a line. A command shows a text and
leads to a session; one that fails leaves the session as it is (`Preview.perform`). A whole preview is a
function of its lines (`Preview.run`).
-/

namespace Hyperfiction

/-- A story that is gone through. -/
structure Preview where
  story : Story
  words : Words
  /-- The name of the passage to open with. -/
  start : Text

namespace Preview

/-- What asks for a command. -/
def prompt : Text := "preview> ".toList

/-- What is shown first. -/
def greeting (s : Story) : Text :=
  Text.line ("Loaded ".toList ++ Text.ofNat s.order.length ++ " passages".toList) ++
    Text.line "Type 'help' for commands.\n".toList

/-- The list of the commands. -/
def helpPage : Text :=
  (["Commands:",
    "  <n>             follow choice n",
    "  go <passage>    jump to a passage by name",
    "  vars            show current variables",
    "  set <var> <v>   set a variable (number, true/false, or text)",
    "  history         show visited passages",
    "  restart         clear state and return to the start passage",
    "  help            list commands",
    "  quit            exit"] : List String).flatMap fun t => Text.line t.toList

/-- A line for a passage entered, behind its place in the order. -/
def visitLine (name : Text) (place : Nat) : Text :=
  let digits := Text.ofNat place
  Text.line ("  ".toList ++ List.replicate (3 - digits.length) ' ' ++ digits ++ ". ".toList ++ name)

/-- The preview of a story, whose seed and passage to open with may be given; or how it fails. -/
def ofSource (source : StorySource) (seed : Option Nat) (chance : Nat) (start : Option Text) :
    Except Outcome Preview :=
  match source.story with
  | .error e => .error (Outcome.failure [] ("Failed to load story: ".toList ++ e.message))
  | .ok s =>
    match start <|> s.start? with
    | none => .error (Outcome.failure (greeting s) "story has no start passage".toList)
    | some name => .ok ⟨s, s.words seed chance, name⟩

variable (p : Preview)

/-- Enters a passage and shows it; where that fails, tells why. -/
def enter (session : Session) (name : Text) : Playing (Text × Session) := do
  match ← session.enter p.story p.words name with
  | .ok (scene, next) => return (page p.story scene, next)
  | .error e => return (Text.line ("ERROR: ".toList ++ e.message), session)

/-- The target of a choice that is shown, counted from 1. -/
def target? (session : Session) (number : Nat) : Option Text := do
  let passage ← session.current
  let choice ← if number = 0 then none else passage.choices[number - 1]?
  return choice.target

/-- Performs a command: what it shows and the session behind it, or none at the end. -/
def perform (session : Session) (c : Command) : Playing (Text × Option Session) := do
  let stay (t : Text) : Text × Option Session := (t, some session)
  let move (r : Text × Session) : Text × Option Session := (r.1, some r.2)
  match c with
  | .quit => return (Text.line "Goodbye.".toList, none)
  | .help => return stay helpPage
  | .go name => return move (← p.enter session name)
  | .vars =>
    if session.snapshot.entries.isEmpty then return stay (Text.line "No variables set.".toList)
    else return stay (session.snapshot.entries.flatMap fun e => variableLine e.1 e.2)
  | .assign name value =>
    let told := Text.line ('$' :: name ++ " = ".toList ++ value.toText)
    return (told, some { session with snapshot := session.snapshot.insert name value })
  | .history => return stay ((session.visits.zipIdx 1).flatMap fun (name, i) => visitLine name i)
  | .restart => return move (← p.enter {} p.start)
  | .choose number =>
    match target? session number with
    | some name => return move (← p.enter session name)
    | none => return stay (Text.line ("No choice ".toList ++ Text.ofNat number))
  | .incomplete usage => return stay (Text.line ("Usage: ".toList ++ usage))
  | .unknown word =>
    return stay (Text.line ("Unknown command: ".toList ++ word ++
      ". Type 'help' for commands.".toList))

/-- Performs the command of a line. A blank line does nothing. -/
def step (session : Session) (line : Text) : Playing (Text × Option Session) :=
  match Command.ofLine? line with
  | none => return ([], some session)
  | some c => p.perform session c

/-- What the lines show, each behind the prompt, to the end or to the line that ends the preview. -/
def steps (session : Session) : List Text → Playing Text
  | [] => return prompt
  | line :: lines => do
    match ← p.step session line with
    | (t, none) => return prompt ++ t
    | (t, some next) => return prompt ++ t ++ (← steps next lines)

/-- Shows the passage to open with. -/
def opening : Playing (Text × Session) := p.enter {} p.start

/-- The lines of an input, of which the last may lack its end. -/
def linesOf (input : Text) : List Text :=
  let parts := Text.splitOn '\n' input
  if parts.getLast? = some [] then parts.dropLast else parts

/-- A whole preview. -/
def run (source : StorySource) (seed : Option Nat) (chance : Nat) (start : Option Text)
    (input : Text) : Outcome :=
  match ofSource source seed chance start with
  | .error o => o
  | .ok p =>
    let shown : Playing Text := do
      let (first, session) ← p.opening
      return greeting p.story ++ first ++ (← p.steps session (linesOf input))
    { output := (shown.run {}).1 }

end Preview

end Hyperfiction

import Hyperfiction.Arguments
import Hyperfiction.Lint.Report
import Hyperfiction.Preview.Basic

/-!
# The program

Reads the story that the arguments name, and checks it or goes through it line by line.
-/

namespace Hyperfiction.Program

/-- Shows a text. -/
def display (t : Text) : IO Unit := do
  let output ← IO.getStdout
  output.putStr (String.ofList t)
  output.flush

/-- Shows the outcome of a run. -/
def finish (o : Outcome) : IO UInt32 := do
  display o.output
  for t in o.complaints do IO.eprintln (String.ofList t)
  return if o.succeeds then 0 else 1

/-- The content of a file, or `none` where it cannot be read. -/
def readText? (path : String) : IO (Option Text) := do
  try return some (← IO.FS.readFile path).toList
  catch _ => return none

/-- The files at a path. -/
partial def readTree (path : String) : IO FileTree := do
  let place := System.mkFilePath [path]
  if ← place.isDir then
    let entries ← (← place.readDir).toList.mapM fun e =>
      return (e.fileName.toList, ← readTree (path ++ "/" ++ e.fileName))
    return .folder (Entries.insertAll [] entries)
  else return ((← readText? path).map FileTree.file).getD .unreadable

/-- The files at a path, if there is anything. -/
def readPlace (path : String) : IO (Place FileTree) := do
  if ← (System.mkFilePath [path]).pathExists then return some (← readTree path) else return none

/-- Goes through a story by the lines of the input. -/
partial def converse (p : Preview) (session : Session) (play : Play) : IO UInt32 := do
  display Preview.prompt
  let line ← (← IO.getStdin).getLine
  if line.isEmpty then return 0
  match (p.step session line.toList).run play with
  | ((t, none), _) =>
    display t
    return 0
  | ((t, some next), play) =>
    display t
    converse p next play

/-- A seed by chance. -/
def anySeed : IO Nat := do
  return (← IO.getRandomBytes 8).foldl (fun n b => n * 256 + b.toNat) 0

/-- Does what the arguments say. -/
def run (a : Arguments) : IO UInt32 := do
  let files ← readPlace (String.ofList a.path)
  let configFile ← a.config.mapM fun path => readText? (String.ofList path)
  let source : StorySource := { files := some files, configFile := configFile }
  match a.task with
  | .lint => finish (Lint.run a.path source)
  | .preview =>
    match Preview.ofSource source a.seed (← anySeed) a.start with
    | .error o => finish o
    | .ok p =>
      let ((t, session), play) := p.opening.run {}
      display (Preview.greeting p.story ++ t)
      converse p session play

end Hyperfiction.Program

/-- Runs the program. -/
def main (args : List String) : IO UInt32 :=
  match Hyperfiction.Arguments.ofList? args with
  | some a => Hyperfiction.Program.run a
  | none => do
    IO.eprintln (String.ofList Hyperfiction.Arguments.usage)
    return 2

import Hyperfiction.Lint.Basic
import Hyperfiction.Story.Outcome
import Hyperfiction.Story.Source

/-!
# The report of a check

A story in a file or in a tree of folders is read and checked, and its problems are reported: warnings
first, then errors, then their numbers. The check fails if there is an error, or if the settings, the
file or the place of the story cannot be read.
-/

namespace Hyperfiction

namespace Lint

/-- The problems of one severity, as told. -/
def messages (severity : Severity) (problems : List Problem) : List Text :=
  (problems.filter fun p => p.severity = severity).map Problem.message

/-- The report of a check. -/
def report (problems : List Problem) : Text :=
  let errors := messages .error problems
  let warnings := messages .warning problems
  "\n=== Passage Lint Report ===\n\n".toList ++
    (if problems.isEmpty then Text.line "All checks passed!".toList else []) ++
    warnings.flatMap (fun t => Text.line ("WARNING: ".toList ++ t)) ++
    errors.flatMap (fun t => Text.line ("ERROR: ".toList ++ t)) ++
    Text.line ("\nSummary: ".toList ++ Text.ofNat errors.length ++ " errors, ".toList ++
      Text.ofNat warnings.length ++ " warnings".toList)

/-- The outcome of a check of records, behind what was told while they were read. -/
def outcome (config : StoryConfig) (records : List PassageRecord) (told : Text)
    (complaints : List Text) : Outcome :=
  let problems := lint config records
  { output := told ++ Text.line ("Loaded ".toList ++ Text.ofNat records.length ++ " passages".toList) ++
      report problems
    complaints := complaints
    succeeds := problems.all fun p => p.severity ≠ .error }

/-- What is told of a file that was read. -/
def told (r : FileTree.Reading) : Text :=
  match r.result with
  | .ok records =>
    Text.line ("  Loaded: ".toList ++ r.path ++ " (".toList ++ Text.ofNat records.length ++
      " passages)".toList)
  | .error _ => []

/-- What is told of a file that cannot be read. -/
def complaint? (r : FileTree.Reading) : Option Text :=
  match r.result with
  | .ok _ => none
  | .error e => some ("  ERROR loading ".toList ++ r.path ++ ": ".toList ++ e.message)

/-- Checks the story of a source, whose files are at a path. -/
def run (path : Text) (source : StorySource) : Outcome :=
  match source.settings with
  | .error e => Outcome.failure [] ("Failed to load config: ".toList ++ e.message)
  | .ok config =>
    match source.files with
    | none => outcome config source.records [] []
    | some none => Outcome.failure [] ("Path ".toList ++ Problem.quoted path ++ " does not exist".toList)
    | some (some (.folder es)) =>
      let readings := FileTree.readings path es
      outcome config (source.records ++ readings.flatMap fun r => r.result.toOption.getD [])
        (readings.flatMap told) (readings.filterMap complaint?)
    | some (some file) =>
      match file.fileRecords with
      | .error e => Outcome.failure [] ("Failed to load passage file: ".toList ++ e.message)
      | .ok records => outcome config (source.records ++ records) [] []

end Lint

end Hyperfiction

import Hyperfiction.Lint.Problem
import Hyperfiction.Story.Basic

/-!
# Checking a story

`lint` lists the problems of the records of a story: names that are used again, then what is wrong with
each record by itself, then the passage to open with, then the passages that nothing leads to.
-/

namespace Hyperfiction

namespace Lint

/-- The targets of the links in the body of a record, wherever they stand. -/
def targets (p : PassageRecord) : List Text := (Link.choices p.body).map (·.target)

/-- The names that several records have, in the order of the names. -/
def repeatedNames (records : List PassageRecord) : List Problem :=
  let names := records.map (·.name)
  let counts := Table.ofList (names.map fun name => (name, names.count name))
  (counts.filter fun _ count => 1 < count).entries.map fun e => .repeated e.1 e.2

/-- What is wrong with a record by itself; `names` are those of all records. -/
def ofRecord (names : List Text) (p : PassageRecord) : List Problem :=
  (if Text.isBlankText p.name then [.emptyName] else []) ++
    (if Text.isBlankText p.body then [.emptyBody p.name] else []) ++
    ((targets p).filter fun target => !names.contains target).map (.missingTarget p.name) ++
    ((Unclosed.first? p.body).map (.unclosed p.name)).toList

/-- The passage that the story opens with, as far as the records tell, and what is wrong with it. -/
def start (config : StoryConfig) (records : List PassageRecord) : Option Text × List Problem :=
  let names := records.map (·.name)
  match config.startPassage with
  | some name => if names.contains name then (some name, []) else (none, [.missingStart name])
  | none =>
    if names.contains Story.defaultStart then (some Story.defaultStart, [])
    else
      match (Story.navigable config records).head? with
      | some p => (some p.name, [.assumedStart p.name])
      | none => (none, [])

/-- The passages that no link leads to and that the story does not open with. The first record of a name
stands for all. -/
def unlinked (config : StoryConfig) (records : List PassageRecord) : List Problem :=
  let linked := records.flatMap targets
  let opening := (start config records).1
  let firsts := records.zipIdx.filter fun (p, i) =>
    !((records.take i).map (·.name)).contains p.name && !config.frames p
  (firsts.filter fun (p, _) => some p.name != opening && !linked.contains p.name).map
    fun (p, _) => .unlinked p.name

end Lint

/-- The problems of the records of a story. -/
def lint (config : StoryConfig) (records : List PassageRecord) : List Problem :=
  Lint.repeatedNames records ++ records.flatMap (Lint.ofRecord (records.map (·.name))) ++
    (Lint.start config records).2 ++
    (if (Story.navigable config records).isEmpty then [.noPassages] else []) ++
    Lint.unlinked config records

end Hyperfiction

import Hyperfiction.Config
import Hyperfiction.Markup.Layout
import Hyperfiction.Render.Chain

/-!
# Passages compiled

A passage is compiled from its body, the variables and the visits: its assignments run, its chains and
guards are resolved, its links become choices, groups and prints are written, and filters and layout
finish the text. `draft` is the text before the layout; `compile` keeps only those variables as changes
whose values differ from the ones given.
-/

namespace Hyperfiction

/-- What passages are compiled with. -/
structure Compiler where
  filters : List Filter := []
  limits : Limits := {}

/-- The limits that a compiler uses: at least one macro in each pass. -/
def Limits.effective (l : Limits) : Limits := { l with maxReductions := max l.maxReductions 1 }

/-- The compiler that settings describe. -/
def Compiler.ofConfig (config : StoryConfig) : Except PatternError Compiler := do
  return ⟨← Filter.ofRules config.filters, config.limits.effective⟩

/-- The text of a body with its assignments run, its chains and guards resolved and what they leave over
removed. Its links are still in it. -/
def settled (w : Setting) (body : Text) : Act Text := do
  let run ← runSets w.words body
  let reduced ← reduceChains w run
  return removeOrphans w.limits.maxReductions reduced

/-- The text of a settled body without links, with groups and prints written. -/
def written (w : Setting) (t : Text) : Act Text := do
  let printed ← resolvePrints w (stripSets (collapseGroups (Link.strip t)))
  return substitute (← get).store printed

/-- The text of a body before filters and layout, and its choices. -/
def draft (w : Setting) (body : Text) : Act (Text × List Choice) := do
  let t ← settled w body
  let content ← written w t
  return (content, Link.choices t)

namespace Compiler

/-- The setting of a compilation. -/
def setting (c : Compiler) (visits : List Text) (tags : Table (List Text)) (words : Words) : Setting :=
  ⟨visits, tags, words, c.limits⟩

/-- The text that is shown for a draft. -/
def finish (c : Compiler) (content : Text) : Text := normalize (Filter.applyAll c.filters content)

/-- The passage that a record becomes for a snapshot of the variables, after `used` random words, and
the number of words used then. -/
def compile (c : Compiler) (w : Setting) (p : PassageRecord) (snapshot : Snapshot) (used : Nat) :
    Passage × Nat :=
  let ((content, choices), run) := (draft w p.body).run ⟨snapshot, used⟩
  (⟨p.name, c.finish content, choices, p.tags, run.store.changesSince snapshot⟩, run.used)

/-- The text alone. -/
def render (c : Compiler) (w : Setting) (p : PassageRecord) (snapshot : Snapshot) (used : Nat) :
    Text × Nat :=
  let (passage, used) := compile c w p snapshot used
  (passage.content, used)

end Compiler

end Hyperfiction

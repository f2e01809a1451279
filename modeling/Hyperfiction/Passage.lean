import Hyperfiction.Markup.Link
import Hyperfiction.Value

/-!
# Passages

A **record** is a passage as its author wrote it; a **passage** is what a reader sees of it: the text,
the choices, and the variables that it has changed.
-/

namespace Hyperfiction

/-- A passage as written. -/
structure PassageRecord where
  name : Text
  tags : List Text
  body : Text
deriving DecidableEq

/-- A passage as shown. -/
structure Passage where
  name : Text
  content : Text
  choices : List Choice
  tags : List Text
  changes : Snapshot

/-- The list with a text at its end, unless the text is in it. -/
def Text.addTo (ts : List Text) (t : Text) : List Text := if t ∈ ts then ts else ts ++ [t]

namespace PassageRecord

/-- Has the passage the tag? -/
def hasTag (p : PassageRecord) (tag : Text) : Bool := p.tags.contains tag

/-- The passage with the words of a text as tags behind its own, each once. -/
def withTags (p : PassageRecord) (t : Text) : PassageRecord :=
  { p with tags := (Text.words t).foldl Text.addTo p.tags }

end PassageRecord

end Hyperfiction

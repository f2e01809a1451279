import Hyperfiction.Markup.Cut
import Hyperfiction.Text.Letter

/-!
# Links

A link is written in two or three square brackets and offers a choice: a text to show and the passage
that it leads to. `->` points from text to target and the last one counts, `<-` points the other way and
the first one counts, `|` stands between text and target; without any of them the link shows its
target. The first link that is not closed ends the search.
-/

namespace Hyperfiction

/-- What a reader may choose: the text shown and the passage it leads to. -/
structure Choice where
  text : Text
  target : Text
deriving DecidableEq

/-- A link: whether it has three brackets, and what stands in them. -/
structure Link where
  triple : Bool
  inner : Text
deriving DecidableEq

/-- The choice that the inside of a link describes. -/
def Choice.ofLink (inner : Text) : Choice :=
  match Text.breakOnLast? ['-', '>'] inner with
  | some (text, target) => ⟨Text.trim text, Text.trim target⟩
  | none =>
    match Text.breakOn? ['<', '-'] inner with
    | some (target, text) => ⟨Text.trim text, Text.trim target⟩
    | none =>
      match Text.breakOn? ['|'] inner with
      | some (text, target) => ⟨Text.trim text, Text.trim target⟩
      | none => ⟨Text.trim inner, Text.trim inner⟩

namespace Link

/-- The brackets that open a link. -/
def opening (triple : Bool) : Text := if triple then ['[', '[', '['] else ['[', '[']

/-- The brackets that close a link. -/
def closing (triple : Bool) : Text := if triple then [']', ']', ']'] else [']', ']']

/-- The link as written. -/
def source (l : Link) : Text := opening l.triple ++ l.inner ++ closing l.triple

/-- The choice of a link; a link of blanks offers none. -/
def choice? (l : Link) : Option Choice :=
  if Text.isBlankText l.inner then none else some (Choice.ofLink l.inner)

/-- What stands before the first link, the link, and what follows it. -/
def find? (t : Text) : Option (Text × Link × Text) :=
  match Text.breakOn? (opening false) t with
  | none => none
  | some (before, u) =>
    match Text.after? u ['['] with
    | some v => (Text.breakOn? (closing true) v).map fun p => (before, ⟨true, p.1⟩, p.2)
    | none => (Text.breakOn? (closing false) u).map fun p => (before, ⟨false, p.1⟩, p.2)

theorem source_ne_nil (l : Link) : l.source ≠ [] := by
  cases h : l.triple <;> simp [source, opening, h]

theorem eq_append_of_find? {t b u : Text} {l : Link} (h : find? t = some (b, l, u)) :
    t = b ++ (l.source ++ u) := by
  simp only [find?] at h
  split at h
  · simp at h
  · rename_i before v hv
    rw [Text.eq_append_of_breakOn? hv]
    split at h
    · rename_i w hw
      simp only [Option.map_eq_some_iff, Prod.mk.injEq, Prod.exists] at h
      obtain ⟨inner, rest, hi, rfl, rfl, rfl⟩ := h
      rw [Text.after?_eq_some.1 hw, Text.eq_append_of_breakOn? hi]
      simp [source, opening]
    · simp only [Option.map_eq_some_iff, Prod.mk.injEq, Prod.exists] at h
      obtain ⟨inner, rest, hi, rfl, rfl, rfl⟩ := h
      rw [Text.eq_append_of_breakOn? hi]
      simp [source]

/-- Finds links. -/
def finder : Finder Link where
  source := source
  find? := find?
  eq_append := eq_append_of_find?
  source_ne_nil := fun _ => source_ne_nil _

/-- The choices that the links of a text offer, in order. -/
def choices (t : Text) : List Choice := (finder.cuts t).found.filterMap choice?

/-- The text without its links. -/
def strip (t : Text) : Text := (finder.cuts t).without

end Link

end Hyperfiction

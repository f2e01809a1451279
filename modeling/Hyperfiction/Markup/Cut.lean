import Hyperfiction.Text.Basic

/-!
# Texts cut at the items found in them

Each pass over the markup looks for items of one kind from left to right: an item found is handled and
the search goes on behind it. `Finder.cuts` makes the list of all items with the text before each;
nothing of the text is lost (`Finder.render_cuts`). A pass is then a function on that list, so what it
writes is never searched again.
-/

namespace Hyperfiction

/-- An item found in a text, with the text between the item before it and itself. -/
structure Cut (α : Type) where
  before : Text
  item : α

/-- A text as its items and what follows the last one. -/
structure Cuts (α : Type) where
  items : List (Cut α)
  tail : Text

/-- A way to find the first item of a kind. -/
structure Finder (α : Type) where
  /-- The item as written. -/
  source : α → Text
  /-- The text before the first item, the item, and the text behind it. -/
  find? : Text → Option (Text × α × Text)
  eq_append : ∀ {t b a u}, find? t = some (b, a, u) → t = b ++ (source a ++ u)
  source_ne_nil : ∀ {t b a u}, find? t = some (b, a, u) → source a ≠ []

namespace Cuts

variable {α : Type}

/-- The text that an item-wise replacement gives. -/
def render (f : α → Text) : List (Cut α) → Text → Text
  | [], tail => tail
  | c :: cs, tail => c.before ++ f c.item ++ render f cs tail

/-- The items without the text between them. -/
def found (cs : Cuts α) : List α := cs.items.map Cut.item

/-- The text without its items. -/
def without (cs : Cuts α) : Text := render (fun _ => []) cs.items cs.tail

/-- Replaces the first `limit` items by what `f` writes for them, from left to right; what is left
stays as written. -/
def rewrite {m : Type → Type} [Monad m] (source : α → Text) (f : α → m Text) :
    Nat → List (Cut α) → Text → m Text
  | 0, cs, tail => pure (render source cs tail)
  | _ + 1, [], tail => pure tail
  | limit + 1, c :: cs, tail => do
    let written ← f c.item
    let rest ← rewrite source f limit cs tail
    pure (c.before ++ written ++ rest)

end Cuts

namespace Finder

variable {α : Type}

theorem length_lt (F : Finder α) {t b : Text} {a : α} {u : Text}
    (h : F.find? t = some (b, a, u)) : u.length < t.length := by
  have := List.length_pos_iff.2 (F.source_ne_nil h)
  rw [F.eq_append h]
  simp only [List.length_append]
  omega

/-- The text cut at all its items. -/
def cuts (F : Finder α) (t : Text) : Cuts α :=
  match h : F.find? t with
  | none => ⟨[], t⟩
  | some (b, a, u) =>
    have := F.length_lt h
    let rest := F.cuts u
    ⟨⟨b, a⟩ :: rest.items, rest.tail⟩
termination_by t.length

theorem cuts_of_find?_eq_none (F : Finder α) {t : Text} (h : F.find? t = none) :
    F.cuts t = ⟨[], t⟩ := by
  rw [cuts]; split
  · rfl
  · simp_all

theorem cuts_of_find?_eq_some (F : Finder α) {t b : Text} {a : α} {u : Text}
    (h : F.find? t = some (b, a, u)) :
    F.cuts t = ⟨⟨b, a⟩ :: (F.cuts u).items, (F.cuts u).tail⟩ := by
  rw [cuts]; split
  · simp_all
  · rename_i h'
    rw [h] at h'
    simp only [Option.some.injEq, Prod.mk.injEq] at h'
    obtain ⟨rfl, rfl, rfl⟩ := h'
    rfl

/-- Nothing of a text is lost when it is cut. -/
theorem render_cuts (F : Finder α) (t : Text) :
    Cuts.render F.source (F.cuts t).items (F.cuts t).tail = t := by
  match h : F.find? t with
  | none => rw [F.cuts_of_find?_eq_none h]; rfl
  | some (b, a, u) =>
    have := F.length_lt h
    rw [F.cuts_of_find?_eq_some h]
    simp only [Cuts.render, F.render_cuts u]
    rw [F.eq_append h, List.append_assoc]
termination_by t.length

end Finder

end Hyperfiction

import Hyperfiction.Markup.Chain

/-!
# Macros in a text, and what is swept out of it

`Invocation.finder` finds the complete macros of some names; a head that is not completed ends its
search. What a passage leaves over is removed without effect: assignments that no branch ran
(`stripSets`), and branches that no chain took up, with the hooks attached to them (`removeOrphans`).
-/

namespace Hyperfiction

/-- The names of the macro that assigns. -/
def setNames : List Text := ["set".toList]

/-- The names of the macros that write text. -/
def printNames : List Text := ["print".toList, "random".toList, "either".toList]

/-- Finds the macros of some names. -/
def Invocation.finder (names : List Text) : Finder Invocation where
  source := Invocation.source
  find? := Invocation.find? names
  eq_append := Invocation.eq_append_of_find?
  source_ne_nil := fun _ => Invocation.source_ne_nil _

/-- The text without its assignments. -/
def stripSets (t : Text) : Text := ((Invocation.finder setNames).cuts t).without

/-- A branch that belongs to no chain: its macro, and the hook attached to it if there is one. -/
structure Orphan where
  call : Invocation
  hook : Option Hook
deriving DecidableEq

namespace Orphan

/-- The orphan as written. -/
def source (o : Orphan) : Text := o.call.source ++ (o.hook.map Hook.source).getD []

/-- The names of the macros of branches behind the first. -/
def names : List Text := elseIfNames ++ elseNames

/-- What stands before the first orphan, the orphan, and what follows it. -/
def find? (t : Text) : Option (Text × Orphan × Text) :=
  (Invocation.find? names t).map fun (before, m, u) =>
    match Hook.attached? u with
    | some (k, v) => (before, ⟨m, some k⟩, v)
    | none => (before, ⟨m, none⟩, u)

theorem source_ne_nil (o : Orphan) : o.source ≠ [] := by simp [source, Invocation.source]

theorem eq_append_of_find? {t b u : Text} {o : Orphan} (h : find? t = some (b, o, u)) :
    t = b ++ (o.source ++ u) := by
  simp only [find?, Option.map_eq_some_iff, Prod.exists] at h
  obtain ⟨b', m, v, hm, hk⟩ := h
  rw [Invocation.eq_append_of_find? hm]
  split at hk
  · rename_i k w hw
    simp only [Prod.mk.injEq] at hk
    obtain ⟨rfl, rfl, rfl⟩ := hk
    rw [Hook.eq_append_of_attached? hw]
    simp [source]
  · simp only [Prod.mk.injEq] at hk
    obtain ⟨rfl, rfl, rfl⟩ := hk
    simp [source]

/-- Finds orphans. -/
def finder : Finder Orphan where
  source := source
  find? := find?
  eq_append := eq_append_of_find?
  source_ne_nil := fun _ => source_ne_nil _

end Orphan

/-- The text without its first orphans, at most `limit` of them. -/
def removeOrphans (limit : Nat) (t : Text) : Text :=
  let cs := Orphan.finder.cuts t
  Id.run (Cuts.rewrite Orphan.source (fun _ => pure []) limit cs.items cs.tail)

end Hyperfiction

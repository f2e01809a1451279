import Hyperfiction.Markup.Bracket

/-!
# Macro invocations

An invocation is written `(name: arguments)`. Its name is of ASCII letters, digits, `-` and `_`, stands
right behind the bracket and right before the colon; its arguments reach to the bracket that matches.
`Invocation.read?` takes one off the front of a text (`eq_append_of_read?`).
-/

namespace Hyperfiction

/-- A macro invocation. -/
structure Invocation where
  name : Text
  args : Text
deriving DecidableEq

namespace Invocation

/-- The invocation as written. -/
def source (m : Invocation) : Text := '(' :: m.name ++ ':' :: m.args ++ [')']

/-- May the character stand in the name of a macro? -/
def isNameChar (c : Char) : Bool := c.isAlphanum || c == '-' || c == '_'

/-- The name at the front of `(name:`, and what follows the colon. -/
def head? : Text → Option (Text × Text)
  | [] => none
  | c :: t =>
    let name := t.takeWhile isNameChar
    match t.dropWhile isNameChar with
    | d :: rest => if c = '(' ∧ d = ':' ∧ name ≠ [] then some (name, rest) else none
    | [] => none

/-- The invocation at the front of a text, and what follows it. -/
def read? (t : Text) : Option (Invocation × Text) :=
  match head? t with
  | none => none
  | some (name, u) => (Bracket.round.closing? 0 u).map fun (args, rest) => (⟨name, args⟩, rest)

/-- Is the name one of `names`, which are in lower case, upper or lower case apart? -/
def isNamed (names : List Text) (name : Text) : Bool := names.contains (name.map Char.toLower)

theorem eq_append_of_head? {t name u : Text} (h : head? t = some (name, u)) :
    t = '(' :: name ++ ':' :: u := by
  cases t with
  | nil => simp [head?] at h
  | cons c t =>
    have ht := List.takeWhile_append_dropWhile (p := isNameChar) (l := t)
    simp only [head?] at h
    split at h
    · rename_i d rest hd
      split at h
      · rename_i hc
        simp only [Option.some.injEq, Prod.mk.injEq] at h
        obtain ⟨rfl, rfl, -⟩ := hc
        obtain ⟨rfl, rfl⟩ := h
        rw [hd] at ht
        simp [ht]
      · simp at h
    · simp at h

theorem eq_append_of_read? {t u : Text} {m : Invocation} (h : read? t = some (m, u)) :
    t = m.source ++ u := by
  simp only [read?] at h
  split at h
  · simp at h
  · rename_i name v hv
    simp only [Option.map_eq_some_iff, Prod.mk.injEq, Prod.exists] at h
    obtain ⟨args, rest, hc, rfl, rfl⟩ := h
    have := Bracket.eq_append_of_closing? hc
    simp [eq_append_of_head? hv, this, source, Bracket.closer]

theorem source_ne_nil (m : Invocation) : m.source ≠ [] := by simp [source]

/-- What stands before the first head of one of the macros, and the text from its bracket on. The
invocation need not be complete. -/
def findHead? (names : List Text) : Text → Option (Text × Text)
  | [] => none
  | c :: t =>
    if (head? (c :: t)).any fun h => isNamed names h.1 then some ([], c :: t)
    else (findHead? names t).map fun (before, u) => (c :: before, u)

theorem eq_append_of_findHead? {names : List Text} {t b u : Text}
    (h : findHead? names t = some (b, u)) : t = b ++ u := by
  induction t generalizing b with
  | nil => simp [findHead?] at h
  | cons c t ih =>
    simp only [findHead?] at h
    split at h
    · simp only [Option.some.injEq, Prod.mk.injEq] at h
      obtain ⟨rfl, rfl⟩ := h
      rfl
    · simp only [Option.map_eq_some_iff, Prod.mk.injEq, Prod.exists] at h
      obtain ⟨b', u', hb, rfl, rfl⟩ := h
      simp [← ih hb]

theorem head?_of_findHead? {names : List Text} {t b u : Text}
    (h : findHead? names t = some (b, u)) : u.head? = some '(' := by
  induction t generalizing b with
  | nil => simp [findHead?] at h
  | cons c t ih =>
    simp only [findHead?] at h
    split at h
    · rename_i hc
      simp only [Option.some.injEq, Prod.mk.injEq] at h
      obtain ⟨rfl, rfl⟩ := h
      cases hv : head? (c :: t) with
      | none => simp [hv] at hc
      | some p => simp [eq_append_of_head? hv]
    · simp only [Option.map_eq_some_iff, Prod.mk.injEq, Prod.exists] at h
      obtain ⟨b', u', hb, rfl, rfl⟩ := h
      exact ih hb

/-- What stands before the first invocation of one of the macros, the invocation, and what follows it.
Where the first head is not completed there is none: all that follows it lies inside its arguments. -/
def find? (names : List Text) (t : Text) : Option (Text × Invocation × Text) :=
  match findHead? names t with
  | none => none
  | some (before, u) => (read? u).map fun (m, rest) => (before, m, rest)

theorem eq_append_of_find? {names : List Text} {t b u : Text} {m : Invocation}
    (h : find? names t = some (b, m, u)) : t = b ++ (m.source ++ u) := by
  simp only [find?] at h
  split at h
  · simp at h
  · rename_i before v hv
    simp only [Option.map_eq_some_iff, Prod.mk.injEq, Prod.exists] at h
    obtain ⟨m', rest, hm, rfl, rfl, rfl⟩ := h
    rw [eq_append_of_findHead? hv, eq_append_of_read? hm]

end Invocation

end Hyperfiction

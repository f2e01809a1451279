import Hyperfiction.Markup.Invocation

/-!
# Hooks

A hook is a body in square brackets behind a macro, with or without a gap. Two brackets open a link and
no hook; three open a hook that begins with a link.
-/

namespace Hyperfiction

/-- A hook: the gap before it and the body in its brackets. -/
structure Hook where
  gap : Text
  body : Text
deriving DecidableEq

namespace Hook

/-- The hook as written, from its gap to its closing bracket. -/
def source (k : Hook) : Text := k.gap ++ '[' :: k.body ++ [']']

/-- The body in the brackets at the front of a text, and what follows them. -/
def body? : Text → Option (Text × Text)
  | [] => none
  | c :: t => if c = '[' then Bracket.square.closing? 0 t else none

/-- Does the text begin with two brackets and not with three? -/
def opensLink (t : Text) : Bool :=
  Text.startsWith t ['[', '['] && !Text.startsWith t ['[', '[', '[']

/-- The hook at the front of a text, behind a gap, and what follows it. -/
def attached? (t : Text) : Option (Hook × Text) :=
  let rest := t.dropWhile Text.isGap
  if opensLink rest then none
  else (body? rest).map fun (body, u) => (⟨t.takeWhile Text.isGap, body⟩, u)

/-- The hook that no macro stands before: it follows a gap and begins with one bracket only. -/
def bare? (t : Text) : Option (Hook × Text) :=
  let rest := t.dropWhile Text.isGap
  if Text.startsWith rest ['[', '['] then none
  else (body? rest).map fun (body, u) => (⟨t.takeWhile Text.isGap, body⟩, u)

theorem eq_append_of_body? {t body u : Text} (h : body? t = some (body, u)) :
    t = '[' :: body ++ ']' :: u := by
  cases t with
  | nil => simp [body?] at h
  | cons c t =>
    simp only [body?] at h
    split at h
    · subst_vars
      simp [Bracket.eq_append_of_closing? h, Bracket.closer]
    · simp at h

private theorem eq_append_of_gap {t u : Text} {k : Hook}
    (h : (body? (t.dropWhile Text.isGap)).map
      (fun (body, u) => (⟨t.takeWhile Text.isGap, body⟩, u)) = some (k, u)) :
    t = k.source ++ u := by
  simp only [Option.map_eq_some_iff, Prod.mk.injEq, Prod.exists] at h
  obtain ⟨body, v, hb, rfl, rfl⟩ := h
  have := List.takeWhile_append_dropWhile (p := Text.isGap) (l := t)
  rw [eq_append_of_body? hb] at this
  simpa [source] using this.symm

theorem eq_append_of_attached? {t u : Text} {k : Hook} (h : attached? t = some (k, u)) :
    t = k.source ++ u := by
  simp only [attached?] at h
  split at h
  · simp at h
  · exact eq_append_of_gap h

theorem eq_append_of_bare? {t u : Text} {k : Hook} (h : bare? t = some (k, u)) :
    t = k.source ++ u := by
  simp only [bare?] at h
  split at h
  · simp at h
  · exact eq_append_of_gap h

theorem length_lt_of_eq_append {t u : Text} {k : Hook} (h : t = k.source ++ u) :
    u.length < t.length := by
  rw [h]; simp [source]; omega

end Hook

end Hyperfiction

import Hyperfiction.Markup.Bracket

/-!
# Groups and white space

Braces group text that is set as one line: `collapseGroups` writes what stands between them, groups in
groups included, with single spaces between its words. `normalize` is the last step of a passage: no
blanks at the ends of text and lines, and no two blank lines one after the other.
-/

namespace Hyperfiction

/-- What stands before the first brace that is closed, what stands in it, and what follows it. -/
def findGroup? : Text → Option (Text × Text × Text)
  | [] => none
  | c :: t =>
    match (if c = '{' then Bracket.curly.closing? 0 t else none) with
    | some (inner, u) => some ([], inner, u)
    | none => (findGroup? t).map fun p => (c :: p.1, p.2)

theorem eq_append_of_findGroup? {t b inner u : Text} (h : findGroup? t = some (b, inner, u)) :
    t = b ++ '{' :: inner ++ '}' :: u := by
  induction t generalizing b with
  | nil => simp [findGroup?] at h
  | cons c t ih =>
    simp only [findGroup?] at h
    split at h
    · rename_i hc
      split at hc
      · subst_vars
        simp only [Option.some.injEq, Prod.mk.injEq] at h
        obtain ⟨rfl, rfl, rfl⟩ := h
        simp [Bracket.eq_append_of_closing? hc, Bracket.closer]
      · simp at hc
    · simp only [Option.map_eq_some_iff, Prod.mk.injEq, Prod.exists] at h
      obtain ⟨b', i', u', hb, rfl, rfl, rfl⟩ := h
      simp [ih hb]

/-- The text with its groups set as one line each. -/
def collapseGroups (t : Text) : Text :=
  match h : findGroup? t with
  | none => t
  | some (before, inner, u) =>
    have hlen := congrArg List.length (eq_append_of_findGroup? h)
    have : inner.length < t.length := by
      simp only [List.length_append, List.length_cons] at hlen; omega
    have : u.length < t.length := by
      simp only [List.length_append, List.length_cons] at hlen; omega
    before ++ [' '].intercalate (Text.words (collapseGroups inner)) ++ collapseGroups u
termination_by t.length

/-- The lines with at most one blank one between others. -/
def dropRepeatedBlanks : List Text → List Text
  | [] => []
  | [line] => [line]
  | line :: next :: lines =>
    if line.isEmpty && next.isEmpty then dropRepeatedBlanks (next :: lines)
    else line :: dropRepeatedBlanks (next :: lines)

/-- The text without blanks at its ends and at the ends of its lines, and without repeated blank
lines. -/
def normalize (t : Text) : Text :=
  ['\n'].intercalate (dropRepeatedBlanks ((Text.splitOn '\n' (Text.trim t)).map Text.trimEnd))

end Hyperfiction

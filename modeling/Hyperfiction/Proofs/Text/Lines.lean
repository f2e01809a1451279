import Hyperfiction.Proofs.Text.Blanks

/-!
# Texts that are laid out

A text is **laid out** (`IsLaidOut`) when no blank is at its ends or at the end of one of its lines, and of
two lines one after the other at most one is blank. Layout gives such a text (`isLaidOut_normalize`), and
leaves a text as it is exactly when it is laid out already (`normalize_eq_self_iff`); all four conditions
are needed for that, and together they are kept by every step. With what layout does not change, the words
of a text, this is its normal form (`normalize_normalForm`).
-/

namespace Hyperfiction

namespace Text

/-! ### Parts -/

theorem splitOn_ne_nil (sep : Char) (t : Text) : splitOn sep t ≠ [] := by
  rw [splitOn_eq]
  exact List.splitOn_ne_nil sep t

/-- A part begins at the start of the text or behind a separator, and goes on up to the next one. -/
theorem not_mem_of_mem_splitOn {sep : Char} {t part : Text} (h : part ∈ splitOn sep t) : sep ∉ part := by
  induction t generalizing part with
  | nil =>
    obtain rfl := List.mem_singleton.mp h
    exact List.not_mem_nil
  | cons c t ih =>
    obtain ⟨first, parts, hparts⟩ := List.exists_cons_of_ne_nil (splitOn_ne_nil sep t)
    rw [splitOn, hparts] at h
    rw [hparts] at ih
    simp only at h
    split at h
    · rcases List.mem_cons.mp h with rfl | h
      · exact List.not_mem_nil
      · exact ih h
    · rename_i hc
      rcases List.mem_cons.mp h with rfl | h
      · rw [List.mem_cons, not_or]
        exact ⟨Ne.symm hc, ih List.mem_cons_self⟩
      · exact ih (List.mem_cons_of_mem first h)

end Text

/-! ### Blank lines -/

/-- The lines that stay are lines of the text. -/
theorem mem_of_mem_dropRepeatedBlanks {line : Text} {lines : List Text}
    (h : line ∈ dropRepeatedBlanks lines) : line ∈ lines := by
  induction lines using dropRepeatedBlanks.induct with
  | case1 => exact h
  | case2 first => exact h
  | case3 first next lines hblank ih =>
    rw [dropRepeatedBlanks, if_pos hblank] at h
    exact List.mem_cons_of_mem first (ih h)
  | case4 first next lines hblank ih =>
    rw [dropRepeatedBlanks, if_neg hblank] at h
    rcases List.mem_cons.mp h with rfl | h
    · exact List.mem_cons_self
    · exact List.mem_cons_of_mem first (ih h)

/-- The first line stays the first: it is dropped only before one that is as empty as it is. -/
theorem head?_dropRepeatedBlanks (lines : List Text) :
    (dropRepeatedBlanks lines).head? = lines.head? := by
  induction lines using dropRepeatedBlanks.induct with
  | case1 => rfl
  | case2 first => rfl
  | case3 first next lines hblank ih =>
    have hsame : next = first := by simp_all
    rw [dropRepeatedBlanks, if_pos hblank, ih, hsame]
    rfl
  | case4 first next lines hblank ih => rw [dropRepeatedBlanks, if_neg hblank, List.head?_cons]; rfl

/-- **No two empty lines** are left one after the other. -/
theorem isChain_dropRepeatedBlanks (lines : List Text) :
    (dropRepeatedBlanks lines).IsChain fun line next => ¬(line = [] ∧ next = []) := by
  induction lines using dropRepeatedBlanks.induct with
  | case1 => exact .nil
  | case2 first => exact .singleton first
  | case3 first next lines hblank ih =>
    rw [dropRepeatedBlanks, if_pos hblank]
    exact ih
  | case4 first next lines hblank ih =>
    rw [dropRepeatedBlanks, if_neg hblank]
    refine ih.cons fun line hline => ?_
    rw [head?_dropRepeatedBlanks, List.head?_cons, Option.mem_some_iff] at hline
    rw [← hline]
    simpa using hblank

/-- Nothing is dropped where no two empty lines follow each other. -/
theorem dropRepeatedBlanks_eq_self {lines : List Text}
    (h : lines.IsChain fun line next => ¬(line = [] ∧ next = [])) : dropRepeatedBlanks lines = lines := by
  induction lines using dropRepeatedBlanks.induct with
  | case1 => rfl
  | case2 first => rfl
  | case3 first next lines hblank ih => exact absurd (by simpa using hblank) h.rel
  | case4 first next lines hblank ih => rw [dropRepeatedBlanks, if_neg hblank, ih h.tail]

/-! ### The normal form -/

/-- A text is **laid out** when no blank is at its ends or at the end of a line, and no two blank lines are
one after the other. -/
structure IsLaidOut (t : Text) : Prop where
  startsPlain : t.StartsPlain
  endsPlain : t.EndsPlain
  lines : ∀ line ∈ Text.splitOn '\n' t, line.EndsPlain
  spaced : (Text.splitOn '\n' t).IsChain fun line next => ¬(Text.isBlankText line ∧ Text.isBlankText next)

/-- The lines of a text that is laid out are those that layout leaves of the trimmed text. -/
theorem splitOn_normalize (t : Text) :
    Text.splitOn '\n' (normalize t) =
      dropRepeatedBlanks ((Text.splitOn '\n' (Text.trim t)).map Text.trimEnd) := by
  rw [normalize, Text.splitOn_eq]
  refine List.splitOn_intercalate '\n' ?_ ?_
  · intro line hline hmem
    obtain ⟨part, hpart, rfl⟩ := List.mem_map.mp (mem_of_mem_dropRepeatedBlanks hline)
    exact Text.not_mem_of_mem_splitOn hpart (Text.mem_of_mem_trimEnd hmem)
  · intro hnil
    have hhead := head?_dropRepeatedBlanks ((Text.splitOn '\n' (Text.trim t)).map Text.trimEnd)
    rw [hnil, List.head?_map] at hhead
    obtain ⟨part, parts, hparts⟩ := List.exists_cons_of_ne_nil (Text.splitOn_ne_nil '\n' (Text.trim t))
    rw [hparts] at hhead
    cases hhead

/-- A text that is laid out does not begin with a blank. -/
private theorem startsPlain_normalize (t : Text) : (normalize t).StartsPlain := by
  have hstart := Text.startsPlain_trim t
  rw [normalize]
  cases h : Text.trim t with
  | nil => exact fun c hc => by cases hc
  | cons c u =>
    rw [h] at hstart
    have hc := hstart c rfl
    have hne : c ≠ '\n' := by
      rintro rfl
      exact absurd hc (by decide)
    -- The first line begins with a character that no step takes away.
    obtain ⟨part, parts, hparts⟩ := List.exists_cons_of_ne_nil (Text.splitOn_ne_nil '\n' u)
    have hfirst : ((Text.splitOn '\n' (c :: u)).map Text.trimEnd).head? = some (c :: Text.trimEnd part) := by
      rw [Text.splitOn, hparts]
      simp only [if_neg hne, List.map_cons, List.head?_cons, Text.trimEnd_cons hc]
    obtain ⟨lines, hlines⟩ : ∃ lines, dropRepeatedBlanks
        ((Text.splitOn '\n' (c :: u)).map Text.trimEnd) = (c :: Text.trimEnd part) :: lines := by
      rw [← head?_dropRepeatedBlanks] at hfirst
      exact List.head?_eq_some_iff.mp hfirst
    rw [hlines]
    intro d hd
    cases lines with
    | nil => simp_all
    | cons next lines =>
      rw [List.intercalate_cons_cons] at hd
      simp_all

/-- **Layout gives a text that is laid out.** -/
theorem isLaidOut_normalize (t : Text) : IsLaidOut (normalize t) := by
  have hlines : ∀ line ∈ Text.splitOn '\n' (normalize t), line.EndsPlain := by
    intro line hline
    rw [splitOn_normalize] at hline
    obtain ⟨part, -, rfl⟩ := List.mem_map.mp (mem_of_mem_dropRepeatedBlanks hline)
    exact Text.endsPlain_trimEnd part
  refine ⟨startsPlain_normalize t, endsPlain_normalize t, hlines, ?_⟩
  -- A blank line that ends plain is empty.
  have hchain := isChain_dropRepeatedBlanks ((Text.splitOn '\n' (Text.trim t)).map Text.trimEnd)
  rw [← splitOn_normalize, List.isChain_iff_forall_rel_of_append_cons_cons] at hchain
  rw [List.isChain_iff_forall_rel_of_append_cons_cons]
  intro line next before behind heq hblank
  have hmem : line ∈ Text.splitOn '\n' (normalize t) ∧ next ∈ Text.splitOn '\n' (normalize t) := by
    rw [heq]
    simp
  exact hchain heq ⟨(hlines line hmem.1).eq_nil hblank.1, (hlines next hmem.2).eq_nil hblank.2⟩

/-- **Text that is laid out is left as it is.** -/
theorem IsLaidOut.normalize_eq {t : Text} (h : IsLaidOut t) : normalize t = t := by
  have htrim : Text.trim t = t := by rw [Text.trim, h.startsPlain.trimStart_eq, h.endsPlain.trimEnd_eq]
  have hends : (Text.splitOn '\n' t).map Text.trimEnd = Text.splitOn '\n' t :=
    (List.map_congr_left fun line hline => (h.lines line hline).trimEnd_eq).trans (List.map_id _)
  have hkept : dropRepeatedBlanks (Text.splitOn '\n' t) = Text.splitOn '\n' t := by
    refine dropRepeatedBlanks_eq_self (h.spaced.imp fun line next hblank hempty => hblank ?_)
    rw [hempty.1, hempty.2]
    exact ⟨rfl, rfl⟩
  rw [normalize, htrim, hends, hkept, Text.intercalate_splitOn]

/-- **The texts that layout leaves as they are** are those that are laid out. -/
theorem normalize_eq_self_iff {t : Text} : normalize t = t ↔ IsLaidOut t := by
  refine ⟨fun h => ?_, IsLaidOut.normalize_eq⟩
  rw [← h]
  exact isLaidOut_normalize t

/-- **The normal form of a text**: it is laid out, it stays as it is, and it has the characters and the words
of the text. -/
theorem normalize_normalForm (t : Text) :
    IsLaidOut (normalize t) ∧ normalize (normalize t) = normalize t ∧
      ((normalize t).filter fun c => !Text.isBlank c) = (t.filter fun c => !Text.isBlank c) ∧
      Text.words (normalize t) = Text.words t :=
  ⟨isLaidOut_normalize t, (isLaidOut_normalize t).normalize_eq,
    (Text.ignoresBlanks_filter fun c hc => by rw [hc, Bool.not_true]).normalize t,
    Text.ignoresBlanks_words.normalize t⟩

end Hyperfiction

import Mathlib.Data.List.Chain
import Hyperfiction.Proofs.Text.Ends

/-!
# What blanks do not change

Layout takes blanks away and puts others in their places. What a text gives **without regard to its blanks**
(`Text.IgnoresBlanks`) it gives line by line as well, and still gives when it is laid out
(`Text.IgnoresBlanks.normalize`). Its words are of that kind (`Text.ignoresBlanks_words`), and so are its
characters other than blanks (`Text.ignoresBlanks_filter`), which the words are made of
(`Text.flatten_words`); its words with spaces between them are a line (`Text.isLine_words`).
-/

namespace Hyperfiction

namespace Text

/-- What the text gives is that of its parts at any blank, one after the other: blanks give nothing and
only keep apart what stands on their two sides. -/
structure IgnoresBlanks {β : Type} (f : Text → List β) : Prop where
  nil : f [] = []
  append_cons : ∀ {c}, isBlank c → ∀ s t, f (s ++ c :: t) = f s ++ f t

/-- The parts of a text are those of the list of its characters. -/
theorem splitOn_eq (sep : Char) (t : Text) : splitOn sep t = List.splitOn sep t := by
  induction t with
  | nil => rw [splitOn, List.splitOn_nil]
  | cons c t ih =>
    obtain ⟨part, parts, hparts⟩ := List.exists_cons_of_ne_nil (List.splitOn_ne_nil sep t)
    rw [splitOn, ih, hparts, List.splitOn_cons_eq_if_modifyHead, hparts]
    simp only [beq_iff_eq, List.modifyHead_cons]

/-- The parts of a text, with the separators put back, are the text. -/
theorem intercalate_splitOn (sep : Char) (t : Text) : [sep].intercalate (splitOn sep t) = t := by
  rw [splitOn_eq, List.intercalate_splitOn]

/-! ### Layout -/

namespace IgnoresBlanks

variable {β : Type} {f : Text → List β}

theorem cons (h : IgnoresBlanks f) {c : Char} (hc : isBlank c) (t : Text) : f (c :: t) = f t := by
  rw [← List.nil_append (c :: t), h.append_cons hc, h.nil, List.nil_append]

theorem of_forall (h : IgnoresBlanks f) {u : Text} (hu : ∀ c ∈ u, isBlank c) : f u = [] := by
  induction u with
  | nil => exact h.nil
  | cons c u ih =>
    rw [h.cons (hu c List.mem_cons_self)]
    exact ih fun d hd => hu d (List.mem_cons_of_mem c hd)

theorem append_of_forall (h : IgnoresBlanks f) {u : Text} (hu : ∀ c ∈ u, isBlank c) (s : Text) :
    f (s ++ u) = f s := by
  cases u with
  | nil => rw [List.append_nil]
  | cons c u =>
    rw [h.append_cons (hu c List.mem_cons_self), h.of_forall fun d hd => hu d (List.mem_cons_of_mem c hd),
      List.append_nil]

theorem trimEnd (h : IgnoresBlanks f) (t : Text) : f (trimEnd t) = f t := by
  obtain ⟨u, hu, hblank⟩ := exists_trimEnd t
  conv => rhs; rw [hu]
  exact (h.append_of_forall hblank _).symm

theorem trimStart (h : IgnoresBlanks f) (t : Text) : f (trimStart t) = f t := by
  induction t with
  | nil => rfl
  | cons c t ih =>
    rw [Text.trimStart]
    cases hc : isBlank c with
    | true => rw [List.dropWhile_cons_of_pos hc, h.cons hc, ← ih]; rfl
    | false => rw [List.dropWhile_cons_of_neg (by simp [hc])]

theorem trim (h : IgnoresBlanks f) (t : Text) : f (trim t) = f t := by
  rw [Text.trim, h.trimEnd, h.trimStart]

/-- Texts joined with blanks give what they give in order. -/
theorem intercalate (h : IgnoresBlanks f) {sep : Char} (hsep : isBlank sep) (parts : List Text) :
    f ([sep].intercalate parts) = parts.flatMap f := by
  induction parts with
  | nil => exact h.nil
  | cons part parts ih =>
    cases parts with
    | nil => simp
    | cons next parts =>
      rw [List.intercalate_cons_cons, List.append_assoc, List.singleton_append, h.append_cons hsep, ih,
        ← List.flatMap_cons]

theorem dropRepeatedBlanks (h : IgnoresBlanks f) (lines : List Text) :
    (dropRepeatedBlanks lines).flatMap f = lines.flatMap f := by
  induction lines using dropRepeatedBlanks.induct with
  | case1 => rfl
  | case2 line => rfl
  | case3 line next lines hblank ih =>
    have hline : line = [] := by simp_all
    rw [Hyperfiction.dropRepeatedBlanks, if_pos hblank, ih, List.flatMap_cons (x := line), hline, h.nil,
      List.nil_append]
  | case4 line next lines hblank ih =>
    rw [Hyperfiction.dropRepeatedBlanks, if_neg hblank, List.flatMap_cons, ih, ← List.flatMap_cons]

/-- **Layout keeps** all that a text gives without regard to its blanks. -/
theorem normalize (h : IgnoresBlanks f) (t : Text) : f (normalize t) = f t := by
  have htrim : (fun line => f (Text.trimEnd line)) = f := funext h.trimEnd
  have hsep : isBlank '\n' := by decide
  calc f (Hyperfiction.normalize t)
      = ((splitOn '\n' (Text.trim t)).map Text.trimEnd).flatMap f := by
        rw [Hyperfiction.normalize, h.intercalate hsep, h.dropRepeatedBlanks]
    _ = (splitOn '\n' (Text.trim t)).flatMap f := by
        rw [List.flatMap_map, htrim]
    _ = f (Text.trim t) := by
        rw [← h.intercalate hsep, intercalate_splitOn]
    _ = f t := h.trim t

end IgnoresBlanks

/-- A filter for characters that are no blanks ignores blanks. -/
theorem ignoresBlanks_filter {p : Char → Bool} (hp : ∀ c, isBlank c → p c = false) :
    IgnoresBlanks fun t => t.filter p where
  nil := rfl
  append_cons := by
    intro c hc s t
    rw [List.filter_append, List.filter_cons_of_neg (by simp [hp c hc])]

/-! ### Words -/

/-- The word that the text begins with, empty if it begins with a blank, and the words behind it. -/
def cutWord (t : Text) : Text × List Text := t.foldr words.step ([], [])

/-- The words of a text are the one it begins with and the others. -/
theorem words_eq (t : Text) :
    words t = if (cutWord t).1.isEmpty then (cutWord t).2 else (cutWord t).1 :: (cutWord t).2 :=
  rfl

theorem cutWord_of_blank {c : Char} (hc : isBlank c) (t : Text) :
    cutWord (c :: t) = ([], words t) := by
  rw [words_eq]
  exact if_pos hc

theorem cutWord_cons {c : Char} (hc : isBlank c = false) (t : Text) :
    cutWord (c :: t) = (c :: (cutWord t).1, (cutWord t).2) :=
  if_neg (by simp [hc])

private theorem cutWord_append_cons {c : Char} (hc : isBlank c) (s t : Text) :
    cutWord (s ++ c :: t) = ((cutWord s).1, (cutWord s).2 ++ words t) := by
  induction s with
  | nil => exact cutWord_of_blank hc t
  | cons d s ih =>
    rw [List.cons_append]
    cases hd : isBlank d with
    | true =>
      rw [cutWord_of_blank hd, cutWord_of_blank hd, words_eq, ih, words_eq s]
      split <;> rfl
    | false => rw [cutWord_cons hd, cutWord_cons hd, ih]

/-- **Words do not depend on the blanks between them.** -/
theorem ignoresBlanks_words : IgnoresBlanks words where
  nil := rfl
  append_cons := by
    intro c hc s t
    rw [words_eq, cutWord_append_cons hc, words_eq s]
    split <;> rfl

/-- The words together are the text without its blanks. -/
private theorem flatten_cutWord (t : Text) :
    (cutWord t).1 ++ (cutWord t).2.flatten = t.filter fun c => !isBlank c := by
  induction t with
  | nil => rfl
  | cons c t ih =>
    cases hc : isBlank c with
    | true =>
      rw [cutWord_of_blank hc, List.filter_cons_of_neg (by simp [hc]), ← ih, words_eq]
      split
      · rename_i hempty
        rw [List.isEmpty_iff.mp hempty]
      · rfl
    | false =>
      rw [cutWord_cons hc, List.filter_cons_of_pos (by simp [hc]), ← ih]
      rfl

/-- **The words of a text** hold all its characters other than blanks, in order. -/
theorem flatten_words (t : Text) : (words t).flatten = t.filter fun c => !isBlank c := by
  rw [← flatten_cutWord, words_eq]
  split
  · rename_i hempty
    rw [List.isEmpty_iff.mp hempty, List.nil_append]
  · rfl

private theorem ne_nil_of_mem_cutWord {t w : Text} (h : w ∈ (cutWord t).2) : w ≠ [] := by
  induction t with
  | nil => cases h
  | cons c t ih =>
    cases hc : isBlank c with
    | true =>
      rw [cutWord_of_blank hc, words_eq] at h
      split at h
      · exact ih h
      · rename_i hword
        rcases List.mem_cons.mp h with rfl | h
        · simpa using hword
        · exact ih h
    | false =>
      rw [cutWord_cons hc] at h
      exact ih h

/-- No word is empty, and no blank is in one. -/
theorem of_mem_words {t w : Text} (h : w ∈ words t) : w ≠ [] ∧ ∀ c ∈ w, isBlank c = false := by
  constructor
  · have hbehind : w ∈ (cutWord (' ' :: t)).2 := by rwa [cutWord_of_blank (by decide)]
    exact ne_nil_of_mem_cutWord hbehind
  · intro c hc
    have hmem : c ∈ (words t).flatten := List.mem_flatten_of_mem h hc
    rw [flatten_words, List.mem_filter] at hmem
    simpa using hmem.2

/-! ### Words on one line -/

/-- A text is **a line of words** when it has no blanks but single spaces inside of it. -/
structure IsLine (t : Text) : Prop where
  startsPlain : t.StartsPlain
  endsPlain : t.EndsPlain
  spaces : ∀ c ∈ t, isBlank c → c = ' '
  single : t.IsChain fun c d => ¬(isBlank c ∧ isBlank d)

theorem isLine_nil : IsLine [] where
  startsPlain := nofun
  endsPlain := endsPlain_nil
  spaces := nofun
  single := .nil

private theorem isLine_of_mem_words {t w : Text} (h : w ∈ words t) : IsLine w := by
  have hplain := (of_mem_words h).2
  refine ⟨fun c hc => hplain c (List.mem_of_head? hc), fun c hc => hplain c (List.mem_of_getLast? hc), ?_, ?_⟩
  · intro c hc hblank
    rw [hplain c hc] at hblank
    cases hblank
  · refine (List.pairwise_of_forall_mem_list fun c hc d _ hblank => ?_).isChain
    rw [hplain c hc] at hblank
    exact Bool.false_ne_true hblank.1

/-- Two lines with a space between them are one, if neither is empty. -/
private theorem IsLine.append_cons {s t : Text} (hs : IsLine s) (ht : IsLine t) (hs' : s ≠ [])
    (ht' : t ≠ []) : IsLine (s ++ ' ' :: t) where
  startsPlain := by
    obtain ⟨c, s, rfl⟩ := List.exists_cons_of_ne_nil hs'
    exact hs.startsPlain
  endsPlain := by
    intro c hc
    obtain ⟨d, t, rfl⟩ := List.exists_cons_of_ne_nil ht'
    rw [List.getLast?_append_cons, List.getLast?_cons_cons] at hc
    exact ht.endsPlain c hc
  spaces := by
    intro c hc hblank
    rcases List.mem_append.mp hc with hc | hc
    · exact hs.spaces c hc hblank
    · rcases List.mem_cons.mp hc with rfl | hc
      · rfl
      · exact ht.spaces c hc hblank
  single := by
    have hspace : (' ' :: t).IsChain fun c d => ¬(isBlank c ∧ isBlank d) :=
      ht.single.cons fun c hc hblank => by simp [ht.startsPlain c hc] at hblank
    refine List.IsChain.append hs.single hspace fun c hc d _ hblank => ?_
    simp [hs.endsPlain c hc] at hblank

/-- Words with spaces between them are on a line. -/
private theorem isLine_intercalate {ws : List Text} (h : ∀ w ∈ ws, w ≠ [] ∧ IsLine w) :
    IsLine ([' '].intercalate ws) := by
  induction ws with
  | nil => exact isLine_nil
  | cons w ws ih =>
    obtain ⟨⟨hne, hline⟩, hrest⟩ := List.forall_mem_cons.mp h
    cases ws with
    | nil =>
      rw [List.intercalate_singleton]
      exact hline
    | cons next ws =>
      obtain ⟨c, next, rfl⟩ := List.exists_cons_of_ne_nil (hrest next List.mem_cons_self).1
      have hbehind : [' '].intercalate ((c :: next) :: ws) ≠ [] := by cases ws <;> simp
      rw [List.intercalate_cons_cons, List.append_assoc, List.singleton_append]
      exact hline.append_cons (ih hrest) hne hbehind

/-- **Words joined with spaces** are a line of words. -/
theorem isLine_words (t : Text) : IsLine ([' '].intercalate (words t)) :=
  isLine_intercalate fun _ hw => ⟨(of_mem_words hw).1, isLine_of_mem_words hw⟩

end Text

end Hyperfiction

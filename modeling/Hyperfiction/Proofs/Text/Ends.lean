import Mathlib.Data.List.Basic
import Mathlib.Data.List.TakeWhile
import Hyperfiction.Markup.Layout

/-!
# The ends of texts

A text ends plain when no blank is at its end, and starts plain when none is at its start. Trimming takes
away blanks at the ends only (`Text.exists_trimEnd`, `Text.exists_trim`) and leaves such a text, one that ends
plain is left as it is, and a text that is laid out by lines ends plain (`endsPlain_normalize`).
-/

namespace Hyperfiction

namespace Text

/-- Is no blank at the end of the text? -/
def EndsPlain (t : Text) : Prop := ∀ c ∈ t.getLast?, isBlank c = false

theorem endsPlain_nil : EndsPlain [] := by
  intro c hc
  cases hc

theorem endsPlain_trimEnd (t : Text) : EndsPlain (trimEnd t) := by
  induction t with
  | nil => exact endsPlain_nil
  | cons c t ih =>
    rw [trimEnd]
    cases h : trimEnd t with
    | nil =>
      cases hc : isBlank c with
      | true => simpa using endsPlain_nil
      | false => simp [EndsPlain, hc]
    | cons d u =>
      rw [h] at ih
      intro e he
      rw [List.getLast?_cons_cons] at he
      exact ih e he

/-- A text that ends plain has nothing to trim at its end. -/
theorem EndsPlain.trimEnd_eq {t : Text} (h : t.EndsPlain) : trimEnd t = t := by
  induction t with
  | nil => rfl
  | cons c t ih =>
    cases t with
    | nil => simp [trimEnd, h c rfl]
    | cons d t =>
      have hrest : EndsPlain (d :: t) := by
        intro e he
        rw [← List.getLast?_cons_cons (a := c)] at he
        exact h e he
      rw [trimEnd, ih hrest]

theorem trimEnd_append_singleton (t : Text) {c : Char} (hc : isBlank c) :
    trimEnd (t ++ [c]) = trimEnd t := by
  induction t with
  | nil => simp [trimEnd, hc]
  | cons d t ih => rw [List.cons_append, trimEnd, trimEnd, ih]

/-- What is trimmed at the end of a text is a tail of blanks. -/
theorem exists_trimEnd (t : Text) : ∃ u, t = trimEnd t ++ u ∧ ∀ c ∈ u, isBlank c := by
  induction t with
  | nil => exact ⟨[], rfl, fun c hc => by cases hc⟩
  | cons c t ih =>
    obtain ⟨u, hu, hblank⟩ := ih
    rw [trimEnd]
    cases h : trimEnd t with
    | nil =>
      obtain rfl : t = u := by rw [h] at hu; exact hu
      cases hc : isBlank c with
      | true => exact ⟨c :: t, rfl, List.forall_mem_cons.mpr ⟨hc, hblank⟩⟩
      | false => exact ⟨t, rfl, hblank⟩
    | cons d v =>
      rw [h] at hu
      exact ⟨u, congrArg (c :: ·) hu, hblank⟩

/-! ### Starts -/

/-- Is no blank at the start of the text? -/
def StartsPlain (t : Text) : Prop := ∀ c ∈ t.head?, isBlank c = false

theorem startsPlain_trimStart (t : Text) : StartsPlain (trimStart t) := by
  intro c hc
  have hnot := List.head?_dropWhile_not isBlank t
  rw [show t.dropWhile isBlank = trimStart t from rfl, Option.mem_def.mp hc] at hnot
  exact hnot

/-- A text that does not begin with a blank is left as it is. -/
theorem StartsPlain.trimStart_eq {t : Text} (h : t.StartsPlain) : trimStart t = t := by
  cases t with
  | nil => rfl
  | cons c t => exact List.dropWhile_cons_of_neg (by simp [h c rfl])

/-- Behind a character that is no blank, only the rest of the text is trimmed. -/
theorem trimEnd_cons {c : Char} (hc : isBlank c = false) (t : Text) :
    trimEnd (c :: t) = c :: trimEnd t := by
  rw [trimEnd]
  cases trimEnd t with
  | nil => simp [hc]
  | cons d u => rfl

/-- A trimmed text does not begin with a blank. -/
theorem startsPlain_trim (t : Text) : StartsPlain (trim t) := by
  have hstart := startsPlain_trimStart t
  rw [trim]
  cases h : trimStart t with
  | nil => exact fun c hc => by cases hc
  | cons c u =>
    rw [h] at hstart
    rw [trimEnd_cons (hstart c rfl)]
    exact hstart

theorem trim_of_not_blank {t : Text} (h : ∀ c ∈ t, isBlank c = false) : trim t = t := by
  have hstart : StartsPlain t := fun c hc => h c (List.mem_of_head? hc)
  have hend : EndsPlain t := fun c hc => h c (List.mem_of_getLast? hc)
  rw [trim, hstart.trimStart_eq, hend.trimEnd_eq]

/-! ### Blanks at the ends -/

theorem trimEnd_append_blanks (t : Text) {u : Text} (hu : ∀ c ∈ u, isBlank c) :
    trimEnd (t ++ u) = trimEnd t := by
  induction u generalizing t with
  | nil => rw [List.append_nil]
  | cons c u ih =>
    obtain ⟨hc, hu⟩ := List.forall_mem_cons.mp hu
    rw [List.append_cons, ih _ hu, trimEnd_append_singleton t hc]

/-- **Blanks around a text** are trimmed with its own. -/
theorem trim_between_blanks {b u : Text} (hb : ∀ c ∈ b, isBlank c) (t : Text) (hu : ∀ c ∈ u, isBlank c) :
    trim (b ++ t ++ u) = trim t := by
  rw [trim, trim, trimStart, trimStart, List.append_assoc, List.dropWhile_append_of_pos hb,
    List.dropWhile_append]
  split
  · rename_i hnil
    rw [List.isEmpty_iff.mp hnil, List.dropWhile_eq_nil_iff.mpr hu]
  · exact trimEnd_append_blanks _ hu

/-- What is trimmed of a text is blank. -/
theorem exists_trim (t : Text) :
    ∃ b u, t = b ++ trim t ++ u ∧ (∀ c ∈ b, isBlank c) ∧ ∀ c ∈ u, isBlank c := by
  obtain ⟨u, hu, hblank⟩ := exists_trimEnd (trimStart t)
  refine ⟨t.takeWhile isBlank, u, ?_, fun c hc => List.mem_takeWhile_imp hc, hblank⟩
  rw [trim, List.append_assoc, ← hu, trimStart, List.takeWhile_append_dropWhile]

/-- A text of blanks that ends plain is empty. -/
theorem EndsPlain.eq_nil {t : Text} (h : t.EndsPlain) (hblank : isBlankText t) : t = [] := by
  rw [isBlankText, List.all_eq_true] at hblank
  by_contra hne
  have hlast := h (t.getLast hne) (List.getLast?_eq_getLast_of_ne_nil hne)
  rw [hblank _ (List.getLast_mem hne)] at hlast
  cases hlast

theorem mem_of_mem_trimEnd {c : Char} {t : Text} (h : c ∈ trimEnd t) : c ∈ t := by
  obtain ⟨u, hu, -⟩ := exists_trimEnd t
  rw [hu]
  exact List.mem_append_left u h

/-! ### Lines -/

/-- The last part of a text ends as the text does, where the text does not end at a separator. -/
theorem getLast?_splitOn {sep c : Char} {t : Text} (h : t.getLast? = some c) (hc : c ≠ sep) :
    ∃ part, (splitOn sep t).getLast? = some part ∧ part.getLast? = some c := by
  induction t with
  | nil => cases h
  | cons d t ih =>
    cases t with
    | nil =>
      obtain rfl : d = c := Option.some.inj h
      exact ⟨[d], by simp [splitOn, hc], rfl⟩
    | cons e t =>
      rw [List.getLast?_cons_cons] at h
      obtain ⟨part, hlast, hpart⟩ := ih h
      rw [splitOn]
      cases hs : splitOn sep (e :: t) with
      | nil =>
        rw [hs] at hlast
        cases hlast
      | cons p parts =>
        rw [hs] at hlast
        simp only
        split
        · exact ⟨part, by rwa [List.getLast?_cons_cons], hpart⟩
        · cases parts with
          | nil =>
            obtain rfl : p = part := Option.some.inj hlast
            refine ⟨d :: p, rfl, ?_⟩
            cases p with
            | nil => cases hpart
            | cons f p => rwa [List.getLast?_cons_cons]
          | cons q parts => exact ⟨part, by rwa [List.getLast?_cons_cons] at hlast ⊢, hpart⟩

/-- Lines that are joined end as the last of them does. -/
theorem getLast?_intercalate {sep : Text} {lines : List Text} {line : Text} {c : Char}
    (h : lines.getLast? = some line) (hc : line.getLast? = some c) :
    (sep.intercalate lines).getLast? = some c := by
  obtain ⟨front, rfl⟩ := List.getLast?_eq_some_iff.mp h
  obtain ⟨front', rfl⟩ := List.getLast?_eq_some_iff.mp hc
  induction front with
  | nil => simp
  | cons p front ih =>
    have hrest := ih List.getLast?_concat
    cases front with
    | nil => simp
    | cons q front =>
      rw [List.cons_append, List.cons_append, List.intercalate_cons_cons, ← List.cons_append,
        List.getLast?_append, hrest, Option.some_or]

end Text

theorem getLast?_dropRepeatedBlanks (lines : List Text) :
    (dropRepeatedBlanks lines).getLast? = lines.getLast? := by
  induction lines using dropRepeatedBlanks.induct with
  | case1 => rfl
  | case2 line => rfl
  | case3 line next lines h ih => rw [dropRepeatedBlanks, if_pos h, ih, List.getLast?_cons_cons]
  | case4 line next lines h ih =>
    rw [dropRepeatedBlanks, if_neg h, List.getLast?_cons, ih, List.getLast?_cons_cons,
      List.getLast?_cons]
    rfl

/-- **A text that is laid out** ends plain. -/
theorem endsPlain_normalize (t : Text) : (normalize t).EndsPlain := by
  have hplain : (Text.trim t).EndsPlain := Text.endsPlain_trimEnd _
  rw [normalize]
  cases hlast : (Text.trim t).getLast? with
  | none =>
    rw [List.getLast?_eq_none_iff.mp hlast]
    exact Text.endsPlain_nil
  | some c =>
    have hc := hplain c hlast
    have hne : c ≠ '\n' := by
      rintro rfl
      exact absurd hc (by decide)
    obtain ⟨part, hpart, hend⟩ := Text.getLast?_splitOn hlast hne
    have hkept : Text.trimEnd part = part := by
      apply Text.EndsPlain.trimEnd_eq
      intro d hd
      rw [hend] at hd
      rwa [← Option.some.inj hd]
    have hlines : (dropRepeatedBlanks ((Text.splitOn '\n' (Text.trim t)).map Text.trimEnd)).getLast? =
        some part := by
      rw [getLast?_dropRepeatedBlanks, List.getLast?_map, hpart, Option.map_some, hkept]
    intro d hd
    rw [Text.getLast?_intercalate hlines hend] at hd
    rwa [← Option.some.inj hd]

end Hyperfiction

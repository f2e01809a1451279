import Hyperfiction.Proofs.Text.Blanks

/-!
# Texts set as one line

The words of a text with single spaces between them are written character by character: a blank is held back
until a word follows (`Text.lineFrom`, `Text.intercalate_words`). So the line of two texts one behind the
other is that of the first, and then that of the second from where the first ends (`Text.lineFrom_append`).
No two characters other than blanks come together that did not stand together before
(`Text.prefix_of_prefix_lineFrom`).
-/

namespace Hyperfiction

namespace Text

/-- Where a line ends that is being written: at its start, in a word, or in the gap behind one. -/
inductive LineEnd where
  | start
  | word
  | gap
deriving DecidableEq

namespace LineEnd

/-- The end of the line behind a blank. -/
def blank : LineEnd → LineEnd
  | start => start
  | _ => gap

/-- The space that is held back. -/
def pending : LineEnd → Text
  | gap => [' ']
  | _ => []

end LineEnd

/-- What a text adds to a line. -/
def lineFrom (e : LineEnd) : Text → Text
  | [] => []
  | c :: t => if isBlank c then lineFrom e.blank t else e.pending ++ c :: lineFrom .word t

/-- Where the line ends behind a text. -/
def endFrom (e : LineEnd) : Text → LineEnd
  | [] => e
  | c :: t => endFrom (if isBlank c then e.blank else .word) t

/-- The text with single spaces in place of its blanks. -/
def squeeze (t : Text) : Text := lineFrom .word t ++ (endFrom .word t).pending

variable {c : Char} {e : LineEnd} {s t w : Text}

theorem lineFrom_of_blank (hc : isBlank c) (e : LineEnd) (t : Text) :
    lineFrom e (c :: t) = lineFrom e.blank t :=
  if_pos hc

/-- Another character stands behind what was held back. -/
theorem lineFrom_cons (hc : isBlank c = false) (e : LineEnd) (t : Text) :
    lineFrom e (c :: t) = e.pending ++ c :: lineFrom .word t :=
  if_neg (by simp [hc])

theorem lineFrom_append (e : LineEnd) (s t : Text) :
    lineFrom e (s ++ t) = lineFrom e s ++ lineFrom (endFrom e s) t := by
  induction s generalizing e with
  | nil => rfl
  | cons c s ih =>
    rw [List.cons_append]
    cases hc : isBlank c with
    | true => rw [lineFrom_of_blank hc, lineFrom_of_blank hc, ih, endFrom, if_pos hc]
    | false =>
      rw [lineFrom_cons hc, lineFrom_cons hc, ih, endFrom, if_neg (by simp [hc]), List.append_assoc,
        List.cons_append]

theorem endFrom_append (e : LineEnd) (s t : Text) : endFrom e (s ++ t) = endFrom (endFrom e s) t := by
  induction s generalizing e with
  | nil => rfl
  | cons c s ih => exact ih _

/-! ### Lines of words -/

/-- Words behind another, each with a space in front. -/
private def behind (words : List Text) : Text := words.flatMap (' ' :: ·)

private theorem intercalate_cons (w : Text) (ws : List Text) : [' '].intercalate (w :: ws) = w ++ behind ws := by
  induction ws generalizing w with
  | nil => simp [behind]
  | cons v ws ih => rw [List.intercalate_cons_cons, ih v]; simp [behind]

/-- What a text adds to a line are its words. -/
private theorem lineFrom_eq (t : Text) :
    lineFrom .start t = [' '].intercalate (words t) ∧ lineFrom .gap t = behind (words t) ∧
      lineFrom .word t = (cutWord t).1 ++ behind (cutWord t).2 := by
  induction t with
  | nil => exact ⟨rfl, rfl, rfl⟩
  | cons c t ih =>
    obtain ⟨hstart, hgap, hword⟩ := ih
    cases hc : isBlank c with
    | true =>
      rw [lineFrom_of_blank hc, lineFrom_of_blank hc, lineFrom_of_blank hc, cutWord_of_blank hc,
        ignoresBlanks_words.cons hc]
      exact ⟨hstart, hgap, hgap⟩
    | false =>
      have hwords : words (c :: t) = (c :: (cutWord t).1) :: (cutWord t).2 := by
        rw [words_eq, cutWord_cons hc]
        rfl
      rw [lineFrom_cons hc, lineFrom_cons hc, lineFrom_cons hc, cutWord_cons hc, hwords, intercalate_cons,
        hword]
      exact ⟨rfl, rfl, rfl⟩

/-- **The words of a text, set as a line**, are what it adds to an empty one. -/
theorem intercalate_words (t : Text) : [' '].intercalate (words t) = lineFrom .start t :=
  (lineFrom_eq t).1.symm

/-! ### The characters of a line -/

/-- The characters on a line are those of the text, and spaces. -/
theorem mem_of_mem_lineFrom (h : c ∈ lineFrom e t) : c = ' ' ∨ c ∈ t := by
  induction t generalizing e with
  | nil => cases h
  | cons d t ih =>
    cases hd : isBlank d with
    | true =>
      rw [lineFrom_of_blank hd] at h
      exact (ih h).imp_right (List.mem_cons_of_mem d)
    | false =>
      rw [lineFrom_cons hd, List.mem_append, List.mem_cons] at h
      rcases h with h | rfl | h
      · cases e with
        | gap => exact .inl (List.mem_singleton.mp h)
        | start | word => cases h
      · exact .inr List.mem_cons_self
      · exact (ih h).imp_right (List.mem_cons_of_mem d)

theorem mem_of_mem_squeeze (h : c ∈ squeeze t) : c = ' ' ∨ c ∈ t := by
  rcases List.mem_append.mp h with h | h
  · exact mem_of_mem_lineFrom h
  · cases hend : endFrom .word t with
    | gap =>
      rw [hend] at h
      exact .inl (List.mem_singleton.mp h)
    | start | word =>
      rw [hend] at h
      cases h

/-- A character other than a blank is written. -/
theorem mem_lineFrom (hc : isBlank c = false) (h : c ∈ t) : c ∈ lineFrom e t := by
  induction t generalizing e with
  | nil => cases h
  | cons d t ih =>
    cases hd : isBlank d with
    | true =>
      rw [lineFrom_of_blank hd]
      rcases List.mem_cons.mp h with rfl | h
      · rw [hc] at hd
        cases hd
      · exact ih h
    | false =>
      rw [lineFrom_cons hd]
      rcases List.mem_cons.mp h with rfl | h
      · exact List.mem_append_right _ List.mem_cons_self
      · exact List.mem_append_right _ (List.mem_cons_of_mem d (ih h))

private theorem endFrom_ne_start (he : e ≠ .start) (t : Text) : endFrom e t ≠ .start := by
  induction t generalizing e with
  | nil => exact he
  | cons d t ih =>
    refine ih ?_
    split
    · cases e with
      | start => exact absurd rfl he
      | word | gap => exact nofun
    · exact nofun

/-- Behind a text that has other characters than blanks, a blank makes a gap. -/
theorem blank_endFrom (hc : isBlank c = false) (h : c ∈ t) : (endFrom e t).blank = .gap := by
  obtain ⟨s, u, rfl⟩ := List.append_of_mem h
  have hend := endFrom_ne_start (e := .word) nofun u
  rw [endFrom_append, endFrom, if_neg (by simp [hc])]
  cases hword : endFrom .word u with
  | start => exact absurd hword hend
  | word | gap => rfl

/-- A word is written as it is, behind the space that is held back. -/
theorem lineFrom_of_not_blank (hne : w ≠ []) (hw : ∀ c ∈ w, isBlank c = false) :
    lineFrom e w = e.pending ++ w ∧ endFrom e w = .word := by
  induction w generalizing e with
  | nil => exact absurd rfl hne
  | cons c w ih =>
    obtain ⟨hc, hw⟩ := List.forall_mem_cons.mp hw
    rw [lineFrom_cons hc, endFrom, if_neg (by simp [hc])]
    cases w with
    | nil => exact ⟨rfl, rfl⟩
    | cons d w =>
      obtain ⟨hline, hend⟩ := ih (e := .word) (List.cons_ne_nil d w) hw
      rw [hline]
      exact ⟨rfl, hend⟩

/-- Behind a gap there is nothing but blanks, of which nothing is written, or a space comes first. -/
theorem lineFrom_gap (t : Text) :
    (∀ c ∈ t, isBlank c) ∧ lineFrom .gap t = [] ∨ ∃ u, lineFrom .gap t = ' ' :: u := by
  induction t with
  | nil => exact .inl ⟨nofun, rfl⟩
  | cons c t ih =>
    cases hc : isBlank c with
    | true =>
      rw [lineFrom_of_blank hc]
      exact ih.imp_left fun ⟨ht, hline⟩ => ⟨List.forall_mem_cons.mpr ⟨hc, ht⟩, hline⟩
    | false => exact .inr ⟨_, lineFrom_cons hc .gap t⟩

/-- **Only what stood together stands together**: a line goes on with a word where the text does. -/
theorem prefix_of_prefix_lineFrom (hw : ∀ c ∈ w, isBlank c = false) (h : w <+: lineFrom .word t) :
    w <+: t := by
  induction w generalizing t with
  | nil => exact List.nil_prefix
  | cons c w ih =>
    obtain ⟨hc, hw⟩ := List.forall_mem_cons.mp hw
    cases t with
    | nil => exact absurd (List.prefix_nil.mp h) (List.cons_ne_nil c w)
    | cons d t =>
      cases hd : isBlank d with
      | true =>
        rw [lineFrom_of_blank hd] at h
        rcases lineFrom_gap t with ⟨-, hline⟩ | ⟨u, hline⟩
        · exact absurd (List.prefix_nil.mp (hline ▸ h)) (List.cons_ne_nil c w)
        · obtain ⟨rfl, -⟩ := List.cons_prefix_cons.mp (hline ▸ h)
          exact absurd hc (by decide)
      | false =>
        rw [lineFrom_cons hd] at h
        obtain ⟨rfl, hrest⟩ := List.cons_prefix_cons.mp h
        exact List.cons_prefix_cons.mpr ⟨rfl, ih hw hrest⟩

theorem endsPlain_lineFrom (e : LineEnd) (t : Text) : (lineFrom e t).EndsPlain := by
  induction t generalizing e with
  | nil => exact endsPlain_nil
  | cons c t ih =>
    cases hc : isBlank c with
    | true =>
      rw [lineFrom_of_blank hc]
      exact ih _
    | false =>
      rw [lineFrom_cons hc]
      intro d hd
      rw [List.getLast?_append_cons, List.getLast?_cons] at hd
      cases hlast : (lineFrom .word t).getLast? with
      | none =>
        obtain rfl : c = d := by simpa [hlast] using hd
        exact hc
      | some x =>
        obtain rfl : x = d := by simpa [hlast] using hd
        exact ih .word x hlast

/-- Where no blank is written behind a word, the text had blanks at its end alone. -/
theorem lineFrom_eq_trimEnd (h : ∀ c ∈ lineFrom .word t, isBlank c = false) :
    lineFrom .word t = trimEnd t := by
  induction t with
  | nil => rfl
  | cons c t ih =>
    cases hc : isBlank c with
    | true =>
      rw [lineFrom_of_blank hc] at h ⊢
      rcases lineFrom_gap t with ⟨hblank, hline⟩ | ⟨u, hline⟩
      · exact hline.trans (trimEnd_append_blanks [] (List.forall_mem_cons.mpr ⟨hc, hblank⟩)).symm
      · rw [show LineEnd.word.blank = .gap from rfl, hline] at h
        exact absurd (h ' ' List.mem_cons_self) (by decide)
    | false =>
      rw [lineFrom_cons hc] at h ⊢
      rw [trimEnd_cons hc, ← ih fun d hd => h d (List.mem_append_right _ (List.mem_cons_of_mem c hd))]
      rfl

/-! ### Squeezing -/

/-- The first character is not changed if it is no blank. -/
theorem squeeze_cons (hc : isBlank c = false) (t : Text) : squeeze (c :: t) = c :: squeeze t := by
  rw [squeeze, lineFrom_cons hc, endFrom, if_neg (by simp [hc])]
  rfl

/-- In place of blanks one behind the other goes one space. -/
theorem squeeze_of_blank (hc : isBlank c) (t : Text) : squeeze (c :: t) = ' ' :: squeeze (trimStart t) := by
  have hgap : squeeze (c :: t) = lineFrom .gap t ++ (endFrom .gap t).pending := by
    rw [squeeze, lineFrom_of_blank hc, endFrom, if_pos hc]
    rfl
  rw [hgap]
  clear hgap
  induction t with
  | nil => rfl
  | cons d t ih =>
    cases hd : isBlank d with
    | true =>
      rw [lineFrom_of_blank hd, endFrom, if_pos hd, trimStart, List.dropWhile_cons_of_pos hd]
      exact ih
    | false =>
      rw [lineFrom_cons hd, endFrom, if_neg (by simp [hd]), trimStart,
        List.dropWhile_cons_of_neg (by simp [hd]), squeeze_cons hd]
      rfl

theorem startsPlain_squeeze (h : t.StartsPlain) : (squeeze t).StartsPlain := by
  cases t with
  | nil => exact h
  | cons c t =>
    rw [squeeze_cons (h c rfl)]
    exact h

/-- **What is squeezed** is squeezed already. -/
theorem squeeze_squeeze (t : Text) : squeeze (squeeze t) = squeeze t := by
  induction hn : t.length using Nat.strongRecOn generalizing t with
  | ind n ih =>
    subst hn
    cases t with
    | nil => rfl
    | cons c t =>
      cases hc : isBlank c with
      | true =>
        have hlen : (trimStart t).length < (c :: t).length :=
          Nat.lt_succ_of_le (List.dropWhile_sublist isBlank).length_le
        rw [squeeze_of_blank hc, squeeze_of_blank (by decide),
          (startsPlain_squeeze (startsPlain_trimStart t)).trimStart_eq, ih _ hlen _ rfl]
      | false => rw [squeeze_cons hc, squeeze_cons hc, ih t.length (Nat.lt_succ_self _) t rfl]

end Text

end Hyperfiction

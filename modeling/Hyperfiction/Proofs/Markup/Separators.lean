import Hyperfiction.Markup.Link
import Hyperfiction.Proofs.Text.Occurrence

/-!
# Separators of links

Three signs may stand between the text of a link and its target: an arrow from one to the other, the arrow
the other way, and a bar. A link may hold several of them, and arrows may overlap with what stands around
them. A separator **binds** (`Separator.Binds`) where its sign is the one that counts: the last arrow to the
right, else the first arrow to the left, else the first bar. Every inside of a link that holds a sign is
written in exactly one way with a separator that binds (`Separator.read?_eq_some_iff`,
`Separator.read?_eq_none_iff`), and the choice of the link is read off it (`Choice.ofLink_write`).
-/

namespace Hyperfiction

/-- What may stand between the text of a link and its target. -/
inductive Separator where
  | right
  | left
  | bar
deriving DecidableEq

namespace Separator

/-- The sign of a separator. -/
def sign : Separator → Text
  | .right => ['-', '>']
  | .left => ['<', '-']
  | .bar => ['|']

/-- The inside of a link that gives a text and a target; the arrow to the left has the target first. -/
def write (s : Separator) (text target : Text) : Text :=
  match s with
  | .right => text ++ (sign .right ++ target)
  | .left => target ++ (sign .left ++ text)
  | .bar => text ++ (sign .bar ++ target)

/-- A separator **binds** between a text and a target: in what they write, its sign between them is the last
one to the right, or the first one to the left and none points to the right, or the first bar and there is
no arrow. -/
def Binds (s : Separator) (text target : Text) : Prop :=
  match s with
  | .right => ¬ sign .right <:+: target
  | .left => ¬ sign .left <:+: target ∧ ¬ sign .right <:+: write .left text target
  | .bar => '|' ∉ text ∧ ¬ sign .right <:+: write .bar text target ∧
      ¬ sign .left <:+: write .bar text target

instance (s : Separator) (text target : Text) : Decidable (s.Binds text target) :=
  match s with
  | .right => inferInstanceAs (Decidable (¬ _))
  | .left => inferInstanceAs (Decidable (_ ∧ _))
  | .bar => inferInstanceAs (Decidable (_ ∧ _ ∧ _))

theorem sign_ne_nil (s : Separator) : s.sign ≠ [] := by cases s <;> decide

/-- A separator stands in what is written with it. -/
theorem sign_infix_write (s : Separator) (text target : Text) : s.sign <:+: s.write text target := by
  cases s with
  | right => exact ⟨text, target, List.append_assoc _ _ _⟩
  | left => exact ⟨target, text, List.append_assoc _ _ _⟩
  | bar => exact ⟨text, target, List.append_assoc _ _ _⟩

/-! ### Where the signs are found -/

/-- An arrow to the right does not begin in another one. -/
theorem breakOnLast?_right_iff {inner text target : Text} :
    Text.breakOnLast? (sign .right) inner = some (text, target) ↔
      inner = write .right text target ∧ Binds .right text target := by
  have htail : sign .right <:+: (sign .right).tail ++ target ↔ sign .right <:+: target := by
    refine List.infix_cons_iff.trans (or_iff_right ?_)
    rintro ⟨u, hu⟩
    exact absurd (List.cons.inj hu).1 (by decide)
  rw [Text.breakOnLast?_eq_some_iff_not_infix (sign_ne_nil .right), htail]
  rfl

/-- An arrow to the left does not end in another one. -/
theorem breakOn?_left_iff {inner text target : Text} :
    Text.breakOn? (sign .left) inner = some (target, text) ↔
      inner = write .left text target ∧ ¬ sign .left <:+: target := by
  have hfront : sign .left <:+: target ++ (sign .left).dropLast ↔ sign .left <:+: target := by
    refine List.infix_concat_iff.trans (or_iff_right ?_)
    rintro ⟨u, hu⟩
    have hlast : u ++ ['<'] ++ ['-'] = target ++ ['<'] := by simpa [sign] using hu
    exact absurd (List.append_inj_right' hlast rfl) (by decide)
  rw [Text.breakOn?_eq_some_iff_not_infix (sign_ne_nil .left), hfront]
  rfl

theorem breakOn?_bar_iff {inner text target : Text} :
    Text.breakOn? (sign .bar) inner = some (text, target) ↔
      inner = write .bar text target ∧ '|' ∉ text := by
  rw [Text.breakOn?_eq_some_iff_not_infix (sign_ne_nil .bar), ← List.singleton_infix_iff]
  simp [sign, write]

/-! ### The separator of a link -/

/-- The separator that binds in the inside of a link, with the text and the target that it stands
between. -/
def read? (inner : Text) : Option (Separator × Text × Text) :=
  match Text.breakOnLast? (sign .right) inner with
  | some (text, target) => some (.right, text, target)
  | none =>
    match Text.breakOn? (sign .left) inner with
    | some (target, text) => some (.left, text, target)
    | none => (Text.breakOn? (sign .bar) inner).map fun p => (.bar, p)

theorem Binds.read?_eq {s : Separator} {text target : Text} (h : s.Binds text target) :
    read? (s.write text target) = some (s, text, target) := by
  cases s with
  | right => rw [read?, breakOnLast?_right_iff.mpr ⟨rfl, h⟩]
  | left =>
    obtain ⟨hfirst, hright⟩ := h
    rw [read?, Text.breakOnLast?_eq_none_iff.mpr hright, breakOn?_left_iff.mpr ⟨rfl, hfirst⟩]
  | bar =>
    obtain ⟨hfirst, hright, hleft⟩ := h
    rw [read?, Text.breakOnLast?_eq_none_iff.mpr hright,
      Text.breakOn?_eq_none_iff_not_infix.mpr hleft, breakOn?_bar_iff.mpr ⟨rfl, hfirst⟩]
    rfl

theorem binds_of_read? {inner text target : Text} {s : Separator}
    (h : read? inner = some (s, text, target)) :
    inner = s.write text target ∧ s.Binds text target := by
  rw [read?] at h
  split at h
  · rename_i hright
    cases h
    exact breakOnLast?_right_iff.mp hright
  · rename_i hright
    rw [Text.breakOnLast?_eq_none_iff] at hright
    split at h
    · rename_i hleft
      cases h
      obtain ⟨rfl, hfirst⟩ := breakOn?_left_iff.mp hleft
      exact ⟨rfl, hfirst, hright⟩
    · rename_i hleft
      rw [Text.breakOn?_eq_none_iff_not_infix] at hleft
      obtain ⟨p, hbar, hp⟩ := Option.map_eq_some_iff.mp h
      cases hp
      obtain ⟨rfl, hfirst⟩ := breakOn?_bar_iff.mp hbar
      exact ⟨rfl, hfirst, hright, hleft⟩

/-- **One separator binds** in the inside of a link, and in one way. -/
theorem read?_eq_some_iff {inner text target : Text} {s : Separator} :
    read? inner = some (s, text, target) ↔ inner = s.write text target ∧ s.Binds text target := by
  refine ⟨binds_of_read?, ?_⟩
  rintro ⟨rfl, hbinds⟩
  exact hbinds.read?_eq

/-- No separator binds where no sign stands. -/
theorem read?_eq_none_iff {inner : Text} : read? inner = none ↔ ∀ s : Separator, ¬ s.sign <:+: inner := by
  refine ⟨fun h => ?_, fun h => ?_⟩
  · rw [read?] at h
    split at h
    · cases h
    · rename_i hright
      split at h
      · cases h
      · rename_i hleft
        intro s
        cases s with
        | right => exact Text.breakOnLast?_eq_none_iff.mp hright
        | left => exact Text.breakOn?_eq_none_iff_not_infix.mp hleft
        | bar => exact Text.breakOn?_eq_none_iff_not_infix.mp (Option.map_eq_none_iff.mp h)
  · rw [Option.eq_none_iff_forall_ne_some]
    rintro ⟨s, text, target⟩ hread
    obtain ⟨rfl, -⟩ := read?_eq_some_iff.mp hread
    exact h s (sign_infix_write s text target)

/-! ### Texts without signs -/

/-- The text has no character of a sign. -/
def Unsigned (t : Text) : Prop := ∀ c ∈ t, c ∉ ['-', '<', '>', '|']

instance (t : Text) : Decidable (Unsigned t) := List.decidableBAll _ t

/-- Every separator binds between texts without signs. -/
theorem Unsigned.binds {text target : Text} (htext : Unsigned text) (htarget : Unsigned target)
    (s : Separator) : s.Binds text target := by
  have hnot {c : Char} (hc : c ∈ ['-', '<', '>', '|']) : c ∉ text ∧ c ∉ target :=
    ⟨fun h => htext c h hc, fun h => htarget c h hc⟩
  have hminus := hnot (c := '-') (by decide)
  have hless := hnot (c := '<') (by decide)
  have hgreater := hnot (c := '>') (by decide)
  have hbar := hnot (c := '|') (by decide)
  cases s with
  | right => exact fun h => hminus.2 (h.subset (by decide))
  | left =>
    refine ⟨fun h => hminus.2 (h.subset (by decide)), fun h => ?_⟩
    have hmem : '>' ∈ write .left text target := h.subset (by decide)
    simp [write, sign, hgreater] at hmem
  | bar =>
    refine ⟨hbar.1, fun h => ?_, fun h => ?_⟩
    · have hmem : '-' ∈ write .bar text target := h.subset (by decide)
      simp [write, sign, hminus] at hmem
    · have hmem : '-' ∈ write .bar text target := h.subset (by decide)
      simp [write, sign, hminus] at hmem

end Separator

/-! ### The choice of a link -/

namespace Choice

open Separator

/-- The choice is read off the separator that binds; without one the link shows its target. -/
theorem ofLink_eq (inner : Text) :
    ofLink inner =
      match read? inner with
      | some (_, text, target) => ⟨Text.trim text, Text.trim target⟩
      | none => ⟨Text.trim inner, Text.trim inner⟩ := by
  rw [ofLink, read?, sign, sign, sign]
  cases Text.breakOnLast? ['-', '>'] inner with
  | some p => rfl
  | none =>
    cases Text.breakOn? ['<', '-'] inner with
    | some p => rfl
    | none =>
      cases Text.breakOn? ['|'] inner with
      | some p => rfl
      | none => rfl

/-- **Separators of links bind as they are written**: between the texts where one binds, the link gives these
texts, trimmed, whatever other signs they hold. So between texts without signs the three separators give
the same choice. -/
theorem ofLink_write :
    (∀ (s : Separator) (text target : Text), s.Binds text target →
      ofLink (s.write text target) = ⟨Text.trim text, Text.trim target⟩) ∧
    (∀ text target : Text, Unsigned text → Unsigned target →
      ∀ s : Separator, ofLink (s.write text target) = ⟨Text.trim text, Text.trim target⟩) := by
  have hbinds (s : Separator) (text target : Text) (h : s.Binds text target) :
      ofLink (s.write text target) = ⟨Text.trim text, Text.trim target⟩ := by
    rw [ofLink_eq, h.read?_eq]
  exact ⟨hbinds, fun text target htext htarget s => hbinds s text target (htext.binds htarget s)⟩

/-- Signs that overlap with the separator are text, and so are signs that do not count. -/
theorem ofLink_write_overlapping :
    ofLink "a->b<->-|c ".toList = ⟨"a->b<".toList, "-|c".toList⟩ ∧
      ofLink "a<<--b<-c".toList = ⟨"-b<-c".toList, "a<".toList⟩ ∧
      ofLink " a- > < -b||c".toList = ⟨"a- > < -b".toList, "|c".toList⟩ ∧
      ∀ s : Separator, ofLink (s.write "go on".toList "Cave".toList) = ⟨"go on".toList, "Cave".toList⟩ :=
  ⟨ofLink_write.1 .right "a->b<".toList "-|c ".toList (by decide),
    ofLink_write.1 .left "-b<-c".toList "a<".toList (by decide),
    ofLink_write.1 .bar " a- > < -b".toList "|c".toList (by decide),
    fun s => ofLink_write.2 "go on".toList "Cave".toList (by decide) (by decide) s⟩

end Choice

end Hyperfiction

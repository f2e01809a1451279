import Hyperfiction.Proofs.Eval.Squares
import Hyperfiction.Proofs.Script.Lines

/-!
# Characters that are replaced

Setting groups and writing inline variables go over a text character by character: some characters stay, and
in place of others there is a text without square brackets, which may be empty (`Replaces`). Blanks and braces
are replaced where groups are set (`Group.replaces_collapseGroups`), and names behind a `$` where variables
are written (`replaces_substitute`); a name right behind a square bracket has no `$` in front. As long as what
keeps like brackets apart is not emptied, links stay as they are (`Path.replace`).
-/

namespace Hyperfiction

open Text (NoSquare LineEnd lineFrom)

/-- Characters of a text are **replaced**: those that `keep` asks for stay, and in place of any other there may
be a text without square brackets. Of a character right behind a square bracket `keep false` is asked. -/
inductive Replaces (keep : Bool → Char → Prop) : Bool → Text → Text → Prop where
  | nil (loose : Bool) : Replaces keep loose [] []
  | stays {loose : Bool} {c : Char} {s t : Text} : Replaces keep (!decide (IsSquare c)) s t →
    Replaces keep loose (c :: s) (c :: t)
  | goes {loose : Bool} {c : Char} {y s t : Text} : ¬ keep loose c → NoSquare y → Replaces keep true s t →
    Replaces keep loose (c :: s) (y ++ t)

namespace Replaces

variable {keep : Bool → Char → Prop} {loose : Bool} {c : Char} {s t u s' t' x y : Text}

protected theorem refl (loose : Bool) (t : Text) : Replaces keep loose t t := by
  induction t generalizing loose with
  | nil => exact .nil loose
  | cons c t ih => exact .stays (ih _)

/-- What replaces a text without square brackets has none. -/
theorem noSquare (h : Replaces keep loose s t) (hs : s.NoSquare) : t.NoSquare := by
  induction h with
  | nil => exact .nil
  | @stays _ c s t _ ih =>
    rw [← List.singleton_append, NoSquare.append_iff] at hs ⊢
    exact ⟨hs.1, ih hs.2⟩
  | @goes _ c y s t _ hy _ ih =>
    rw [← List.singleton_append, NoSquare.append_iff] at hs
    exact hy.append (ih hs.2)

theorem append (h : Replaces keep loose s t) (h' : ∀ loose, Replaces keep loose s' t') :
    Replaces keep loose (s ++ s') (t ++ t') := by
  induction h with
  | nil loose => exact h' loose
  | stays _ ih => exact .stays ih
  | goes hc hy _ ih =>
    rw [List.append_assoc]
    exact .goes hc hy ih

section Mono

variable (hmono : ∀ c, keep true c → keep false c)

include hmono in
/-- Less is kept where something may stand in front. -/
theorem loosen (h : Replaces keep loose s t) : Replaces keep true s t := by
  cases h with
  | nil => exact .nil true
  | stays h => exact .stays h
  | @goes _ c y s t hc hy h =>
    refine .goes (fun hkeep => hc ?_) hy h
    cases loose with
    | true => exact hkeep
    | false => exact hmono c hkeep

include hmono in
/-- What comes of two texts one behind the other are two texts one behind the other. -/
theorem exists_append (h : Replaces keep loose (x ++ s) t) :
    ∃ y u, t = y ++ u ∧ Replaces keep loose x y ∧ Replaces keep true s u := by
  induction x generalizing loose t with
  | nil => exact ⟨[], t, rfl, .nil loose, h.loosen hmono⟩
  | cons c x ih =>
    cases h with
    | stays h =>
      obtain ⟨y, u, rfl, hx, hs⟩ := ih h
      exact ⟨c :: y, u, rfl, .stays hx, hs⟩
    | goes hc hy h =>
      obtain ⟨y, u, rfl, hx, hs⟩ := ih h
      exact ⟨_, u, (List.append_assoc _ _ _).symm, .goes hc hy hx, hs⟩

include hmono in
theorem trans (h : Replaces keep loose s t) (h' : Replaces keep loose t u) : Replaces keep loose s u := by
  induction s generalizing loose t u with
  | nil =>
    cases h
    exact h'
  | cons c s ih =>
    cases h with
    | stays h =>
      cases h' with
      | stays h' => exact .stays (ih h h')
      | goes hc hy h' => exact .goes hc hy (ih (h.loosen hmono) h')
    | goes hc hy h =>
      obtain ⟨z, v, rfl, hz, hv⟩ := h'.exists_append hmono
      exact .goes hc (hz.noSquare hy) (ih h hv)

end Mono

/-- A character that is kept everywhere stays. -/
theorem mem (h : Replaces keep loose s t) (hc : ∀ loose, keep loose c) (hmem : c ∈ s) : c ∈ t := by
  induction h with
  | nil => exact hmem
  | stays _ ih =>
    rcases List.mem_cons.mp hmem with rfl | hmem
    · exact List.mem_cons_self
    · exact List.mem_cons_of_mem _ (ih hmem)
  | goes hgone _ _ ih =>
    rcases List.mem_cons.mp hmem with rfl | hmem
    · exact absurd (hc _) hgone
    · exact List.mem_append_right _ (ih hmem)

end Replaces

/-! ### Groups -/

/-- The characters that stay where groups are set. -/
def Group.Stays (_ : Bool) (c : Char) : Prop := Group.isPlain c

namespace Group

/-- Square brackets stay where groups are set. -/
theorem stays_square (loose : Bool) (c : Char) (hc : IsSquare c) : Stays loose c := by
  rcases hc with rfl | rfl <;> exact show isPlain _ by decide

/-- Blanks are set as single spaces, of which one is held back behind a blank. -/
private theorem replaces_line (t : Text) :
    (∀ loose, Replaces Stays loose t (lineFrom .start t)) ∧ (∀ loose, Replaces Stays loose t (lineFrom .word t)) ∧
      ∀ loose b, Text.isBlank b → Replaces Stays loose (b :: t) (lineFrom .gap t) := by
  have hgone {b : Char} (hb : Text.isBlank b) (loose : Bool) : ¬ Stays loose b := by
    simp [Stays, isPlain, hb]
  have hempty {b : Char} (hb : Text.isBlank b) {loose : Bool} {s t : Text} (h : Replaces Stays true s t) :
      Replaces Stays loose (b :: s) t := .goes (hgone hb loose) .nil h
  induction t with
  | nil => exact ⟨.nil, .nil, fun _ b hb => hempty hb (.nil true)⟩
  | cons c t ih =>
    obtain ⟨hstart, hword, hgap⟩ := ih
    cases hc : Text.isBlank c with
    | true =>
      simp only [Text.lineFrom_of_blank hc]
      exact ⟨fun _ => hempty hc (hstart true), fun loose => hgap loose c hc,
        fun _ b hb => hempty hb (hgap true c hc)⟩
    | false =>
      simp only [Text.lineFrom_cons hc]
      exact ⟨fun _ => .stays (hword _), fun _ => .stays (hword _), fun loose b hb =>
        .goes (hgone hb loose) (by decide) (.stays (hword _))⟩

/-- **Setting groups** replaces blanks and braces. -/
theorem replaces_collapseGroups (t : Text) : ∀ loose, Replaces Stays loose t (collapseGroups t) := by
  have hmono : ∀ c, Stays true c → Stays false c := fun _ => id
  have hbrace {c : Char} (hc : isBrace c) {loose : Bool} {s t : Text} (h : Replaces Stays true s t) :
      Replaces Stays loose (c :: s) t := .goes (by simp [Stays, isPlain, hc]) .nil h
  induction t using Group.induction with
  | stops _ => exact fun loose => .refl loose _
  | @goesOn b inner u _ hinner hbehind =>
    intro loose
    refine (Replaces.refl loose b).append fun loose => ?_
    rw [show source inner = '{' :: (inner ++ ['}']) from rfl, List.cons_append, List.append_assoc]
    refine hbrace rfl (((hinner true).trans hmono ?_).append fun loose => ?_)
    · rw [line, Text.intercalate_words]
      exact (replaces_line _).1 true
    · exact hbrace rfl (hbehind true)

end Group

/-! ### Inline variables -/

/-- The characters that stay where variables are written: those of a name go only behind a `$`. -/
def Inline.Stays (loose : Bool) (c : Char) : Prop := c ≠ '$' ∧ (loose → ¬ isInlineChar c)

theorem Inline.stays_mono (c : Char) (h : Inline.Stays true c) : Inline.Stays false c := ⟨h.1, nofun⟩

theorem Inline.stays_square (loose : Bool) (c : Char) (hc : IsSquare c) : Inline.Stays loose c := by
  rcases hc with rfl | rfl <;> exact ⟨by decide, fun _ => by decide⟩

private theorem replaces_name {name s t : Text} (hname : ∀ c ∈ name, isInlineChar c)
    (h : Replaces Inline.Stays true s t) : Replaces Inline.Stays true (name ++ s) t := by
  induction name with
  | nil => exact h
  | cons c name ih =>
    obtain ⟨hc, hname⟩ := List.forall_mem_cons.mp hname
    exact .goes (fun hkeep => hkeep.2 rfl hc) .nil (ih hname)

/-- **Writing variables** replaces them and their names. -/
theorem replaces_substitute {σ : Snapshot} (hσ : σ.NoSquare) (t : Text) :
    ∀ loose, Replaces Inline.Stays loose t (substitute σ t) := by
  induction hn : t.length using Nat.strongRecOn generalizing t with
  | ind n ih =>
    subst hn
    intro loose
    cases t with
    | nil =>
      rw [substitute]
      exact .nil loose
    | cons c t =>
      have hstays : Replaces Inline.Stays loose (c :: t) (c :: substitute σ t) :=
        .stays (ih t.length (Nat.lt_succ_self _) t rfl _)
      rw [substitute]
      split
      · rename_i hname
        split
        · rename_i v hv
          refine .goes (fun hkeep => hkeep.1 hname.1) (hσ.lookup hv) ?_
          -- The name goes, character by character.
          have hname : ∀ c ∈ t.takeWhile isInlineChar, isInlineChar c := fun c => List.mem_takeWhile_imp
          have hlen := (List.dropWhile_suffix isInlineChar (l := t)).length_le
          have hrest := ih _ (Nat.lt_succ_of_le hlen) (t.dropWhile isInlineChar) rfl true
          have hgone := replaces_name hname hrest
          rwa [List.takeWhile_append_dropWhile] at hgone
        · exact hstays
      · exact hstays

/-! ### Texts on a path -/

namespace Path

variable {P : Spot → Text → Text → Spot → Prop} {keep : Bool → Char → Prop} {solid : Bool → Text → Prop}
  {p q : Spot} {s t t' : Text}

/-- **Links stay as they are when characters are replaced**, as long as square brackets are kept and no text
that stays is emptied. -/
theorem replace (hP : ∀ p x y q, P p x y q → Keeps solid p x y q) (hmono : ∀ c, keep true c → keep false c)
    (hsquare : ∀ loose c, IsSquare c → keep loose c)
    (hsolid : ∀ loose x y, solid loose x → Replaces keep loose x y → y ≠ []) (h : Path P p s t q)
    (hr : Replaces keep p.loose t t') : Path KeepsLinks p s t' q := by
  induction h generalizing t' with
  | nil p =>
    cases hr
    exact .nil p
  | @cons p q _ x y s t hpiece _ ih =>
    cases hP _ _ _ _ hpiece with
    | free hx hy hpass =>
      obtain ⟨y', u, rfl, hy', hu⟩ := hr.exists_append hmono
      have hloose : q.loose = true := by rcases hpass with rfl | ⟨-, -, rfl⟩ <;> rfl
      refine .cons (.free hx (hy'.noSquare hy) ?_) (ih (by rwa [hloose]))
      exact hpass.imp_right fun ⟨h₁, h₂, hq⟩ => ⟨hsolid _ _ _ h₁ (.refl _ x), hsolid _ _ _ h₂ hy', hq⟩
    | @square c depth hc hallow =>
      cases hr with
      | stays hr =>
        rw [decide_eq_true hc] at hr
        exact .cons (.square depth hc hallow) (ih hr)
      | goes hgone _ _ => exact absurd (hsquare _ c hc) hgone

end Path

end Hyperfiction

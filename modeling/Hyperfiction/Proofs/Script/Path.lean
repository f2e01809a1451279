import Mathlib.Data.ENat.Basic
import Hyperfiction.Proofs.Markup.Runs
import Hyperfiction.Proofs.Markup.Whole

/-!
# Texts side by side, piece by piece

Two texts that are alike but for what may vanish are cut into pieces that correspond to each other. A
`Path P p s t q` leads through two texts `s` and `t` by pieces that `P` accepts, from a spot `p` in front
of them to a spot `q` behind them. What matters of a `Spot` is the square bracket in front of it: two
brackets that touch in one of the texts and not in the other make a link of the one alone, so a spot
`Spot.Allows` a bracket only if none like it stands in front with nothing between but what may vanish.
`Keeps` is what pieces do that leave links alone: on its paths the two texts have corresponding links
(`Path.find?_link`), or none (`Path.noLink_iff`).
-/

namespace Hyperfiction

/-! ### Spots -/

/-- A **spot** in a text, told by what stands in front of it. -/
structure Spot where
  /-- The number of square brackets that are open in the hook around it; outside of hooks it is `⊤`. -/
  depth : ℕ∞
  /-- The square bracket in front, if nothing that stays stands behind it. -/
  bracket : Option Char
  /-- Does something stand behind that bracket which may vanish? -/
  loose : Bool
  /-- Have two brackets in a row been opened? -/
  linked : Bool

namespace Spot

variable {p q p' q' : Spot} {c : Char}

/-- The spot where the text of a passage begins. -/
def start : Spot := ⟨⊤, none, true, false⟩

/-- The spot behind something that may vanish. -/
def thin (p : Spot) : Spot := { p with loose := true }

/-- The spot behind something that stays. -/
def solid (p : Spot) : Spot := { p with bracket := none, loose := true }

/-- The spot behind a square bracket that leads to a depth. -/
def behind (p : Spot) (c : Char) (depth : ℕ∞) : Spot :=
  ⟨depth, some c, false, p.linked || (c == '[' && p.bracket == some '[')⟩

/-- No bracket like this one stands in front with nothing between but what may vanish. Closing brackets
need to be kept apart only where two have been opened. -/
def Allows (p : Spot) (c : Char) : Prop :=
  ¬ (p.bracket = some c ∧ p.loose = true ∧ (c = '[' ∨ p.linked = true))

instance (p : Spot) (c : Char) : Decidable (p.Allows c) := inferInstanceAs (Decidable (¬ _))

theorem allows_of_none (h : p.bracket = none) : p.Allows c := fun ⟨hb, _⟩ => by
  rw [h] at hb
  cases hb

theorem allows_of_ne {d : Char} (h : p.bracket = some d) (hd : d ≠ c) : p.Allows c := fun ⟨hb, _⟩ =>
  hd (Option.some.inj (h.symm.trans hb))

/-- Brackets may touch. -/
theorem allows_of_tight (h : p.loose = false) : p.Allows c := fun ⟨_, hl, _⟩ => by
  rw [h] at hl
  cases hl

/-- The spot `p'` **eases** the spot `p`: it allows what `p` does. -/
structure Eases (p' p : Spot) : Prop where
  depth : p'.depth = p.depth
  linked : p'.linked = true → p.linked = true
  opener : p'.bracket = some '[' → p.bracket = some '[' ∧ (p'.loose = true → p.loose = true)
  closer : p'.linked = true → p'.bracket = some ']' →
    p.bracket = some ']' ∧ (p'.loose = true → p.loose = true)

theorem Eases.refl (p : Spot) : Eases p p :=
  ⟨rfl, id, fun h => ⟨h, id⟩, fun _ h => ⟨h, id⟩⟩

theorem Eases.thin (h : Eases p' p) : Eases p'.thin p.thin :=
  ⟨h.depth, h.linked, fun hb => ⟨(h.opener hb).1, fun _ => rfl⟩,
    fun hl hb => ⟨(h.closer hl hb).1, fun _ => rfl⟩⟩

theorem Eases.solid (h : Eases p' p) : Eases p'.solid p.solid :=
  ⟨h.depth, h.linked, nofun, fun _ => nofun⟩

/-- What may vanish does no harm behind something that may vanish, where there was none. -/
theorem Eases.thin_solid (h : Eases p' p) (hl : p.loose = false) (hl' : p'.loose = true) :
    Eases p'.thin p.solid := by
  have habsurd {C : Prop} (hloose : p'.loose = true → p.loose = true) : C :=
    absurd (hloose hl') (by simp [hl])
  exact ⟨h.depth, h.linked, fun hb => habsurd (h.opener hb).2, fun hk hb => habsurd (h.closer hk hb).2⟩

/-- Behind the same bracket one spot still eases the other. -/
theorem Eases.behind (h : Eases p' p) (c : Char) (depth : ℕ∞) :
    Eases (p'.behind c depth) (p.behind c depth) := by
  refine ⟨rfl, fun hl => ?_, fun hb => ⟨hb, nofun⟩, fun _ hb => ⟨hb, nofun⟩⟩
  simp only [Spot.behind, Bool.or_eq_true, Bool.and_eq_true, beq_iff_eq] at hl ⊢
  exact hl.imp h.linked fun ⟨hc, hb⟩ => ⟨hc, (h.opener hb).1⟩

/-- A spot that eases another allows the brackets it allows. -/
theorem Eases.allows (h : Eases p' p) (hc : IsSquare c) (hp : p.Allows c) : p'.Allows c := by
  rintro ⟨hb, hl, hact⟩
  rcases hc with rfl | rfl
  · obtain ⟨hb', hl'⟩ := h.opener hb
    exact hp ⟨hb', hl' hl, .inl rfl⟩
  · have hlinked : p'.linked = true := hact.resolve_left (by decide)
    obtain ⟨hb', hl'⟩ := h.closer hlinked hb
    exact hp ⟨hb', hl' hl, .inr (h.linked hlinked)⟩

/-- From the spot behind a link the search goes on as from the one in front of it. -/
theorem eases_of_linkless (hdepth : p'.depth = p.depth) (hb : p'.bracket ≠ some '[')
    (hl : p'.linked = false) : Eases p' p :=
  ⟨hdepth, by simp [hl], fun h => absurd h hb, by simp [hl]⟩

end Spot

/-! ### Pieces -/

/-- A piece leads from one spot to the next: it may vanish, or stays in both texts. Which texts stay may
depend on whether the spot is loose. -/
def Passes (solid : Bool → Text → Prop) (p : Spot) (x y : Text) (q : Spot) : Prop :=
  q = p.thin ∨ (solid p.loose x ∧ solid p.loose y ∧ q = p.solid)

/-- From a spot that allows more, a text leads to one that does. -/
theorem Passes.exists_eases {solid : Bool → Text → Prop} {p q p' : Spot} {x y : Text}
    (hmono : ∀ x, solid true x → solid false x) (h : Passes solid p x y q) (he : p'.Eases p) :
    ∃ q' : Spot, q'.Eases q ∧ Passes solid p' x y q' := by
  rcases h with rfl | ⟨hx, hy, rfl⟩
  · exact ⟨_, he.thin, .inl rfl⟩
  · cases hl : p.loose with
    | true =>
      have hsolid {x : Text} (hx : solid p.loose x) : solid p'.loose x := by
        rw [hl] at hx
        cases p'.loose with
        | true => exact hx
        | false => exact hmono x hx
      exact ⟨_, he.solid, .inr ⟨hsolid hx, hsolid hy, rfl⟩⟩
    | false =>
      cases hl' : p'.loose with
      | false => exact ⟨_, he.solid, .inr ⟨by rwa [hl', ← hl], by rwa [hl', ← hl], rfl⟩⟩
      | true => exact ⟨_, he.thin_solid hl hl', .inl rfl⟩

/-- Pieces that **keep** links as they are: square brackets, each where it is allowed, and stretches
without square brackets. -/
inductive Keeps (solid : Bool → Text → Prop) : Spot → Text → Text → Spot → Prop where
  | free {p q : Spot} {x y : Text} : x.NoSquare → y.NoSquare → Passes solid p x y q →
    Keeps solid p x y q
  | square {p : Spot} {c : Char} (depth : ℕ∞) : IsSquare c → p.Allows c →
    Keeps solid p [c] [c] (p.behind c depth)

/-- What keeps links in two texts does so in the first alone. -/
theorem Keeps.left {solid : Bool → Text → Prop} {p q : Spot} {x y : Text} (h : Keeps solid p x y q) :
    Keeps solid p x x q := by
  cases h with
  | free hx _ hpass => exact .free hx hx (hpass.imp_right fun ⟨h, _, hq⟩ => ⟨h, h, hq⟩)
  | square depth hc hp => exact .square depth hc hp

theorem Keeps.mono {solid solid' : Bool → Text → Prop} (hsolid : ∀ b x, solid b x → solid' b x)
    {p q : Spot} {x y : Text} (h : Keeps solid p x y q) : Keeps solid' p x y q := by
  cases h with
  | free hx hy hpass =>
    exact .free hx hy (hpass.imp_right fun ⟨h₁, h₂, hq⟩ => ⟨hsolid _ _ h₁, hsolid _ _ h₂, hq⟩)
  | square depth hc hp => exact .square depth hc hp

/-- Pieces that keep links where every text that is not empty stays. -/
abbrev KeepsLinks : Spot → Text → Text → Spot → Prop := Keeps fun _ x => x ≠ []

/-- A **path** leads through two texts by pieces that correspond to each other. -/
inductive Path (P : Spot → Text → Text → Spot → Prop) : Spot → Text → Text → Spot → Prop where
  | nil (p : Spot) : Path P p [] [] p
  | cons {p q r : Spot} {x y s t : Text} : P p x y q → Path P q s t r → Path P p (x ++ s) (y ++ t) r

namespace Path

variable {P P' : Spot → Text → Text → Spot → Prop} {p q r p' : Spot} {s t s' t' x y : Text}

theorem single (h : P p x y q) : Path P p x y q := by
  simpa using Path.cons h (.nil q)

theorem append (h : Path P p s t q) (h' : Path P q s' t' r) : Path P p (s ++ s') (t ++ t') r := by
  induction h with
  | nil => exact h'
  | cons hpiece _ ih =>
    rw [List.append_assoc, List.append_assoc]
    exact .cons hpiece (ih h')

theorem mono (hP : ∀ p x y q, P p x y q → P' p x y q) (h : Path P p s t q) : Path P' p s t q := by
  induction h with
  | nil => exact .nil _
  | cons hpiece _ ih => exact .cons (hP _ _ _ _ hpiece) ih

/-- A path leads through the same texts where every spot is replaced by another. -/
theorem map (f : Spot → Spot) (hP : ∀ p x y q, P p x y q → P' (f p) x y (f q)) (h : Path P p s t q) :
    Path P' (f p) s t (f q) := by
  induction h with
  | nil => exact .nil _
  | cons hpiece _ ih => exact .cons (hP _ _ _ _ hpiece) ih

/-- **What is done to texts piece by piece** leads from a path to a path. -/
theorem image {f g : Text → Text} (hf : f [] = []) (hg : g [] = [])
    (hP : ∀ p x y q, P p x y q → P' p (f x) (g y) q ∧ (∀ s, f (x ++ s) = f x ++ f s) ∧
      ∀ t, g (y ++ t) = g y ++ g t) (h : Path P p s t q) : Path P' p (f s) (g t) q := by
  induction h with
  | nil =>
    rw [hf, hg]
    exact .nil _
  | cons hpiece _ ih =>
    obtain ⟨himage, hx, hy⟩ := hP _ _ _ _ hpiece
    rw [hx, hy]
    exact .cons himage ih

/-- The texts of a path may be exchanged if those of its pieces may. -/
theorem symm (hP : ∀ p x y q, P p x y q → P p y x q) (h : Path P p s t q) : Path P p t s q := by
  induction h with
  | nil => exact .nil _
  | cons hpiece _ ih => exact .cons (hP _ _ _ _ hpiece) ih

/-- What the pieces of a path have in common the first of the texts has. -/
theorem left_induction {C : Text → Prop} (hnil : C []) (happend : ∀ {s t}, C s → C t → C (s ++ t))
    (hP : ∀ p x y q, P p x y q → C x) (h : Path P p s t q) : C s := by
  induction h with
  | nil => exact hnil
  | cons hpiece _ ih => exact happend (hP _ _ _ _ hpiece) ih

/-- A path leads from an eased spot as well. -/
theorem exists_eases
    (hP : ∀ p x y q p', P p x y q → p'.Eases p → ∃ q', Spot.Eases q' q ∧ P p' x y q')
    (h : Path P p s t q) (he : p'.Eases p) : ∃ q' : Spot, q'.Eases q ∧ Path P p' s t q' := by
  induction h generalizing p' with
  | nil => exact ⟨p', he, .nil p'⟩
  | cons hpiece _ ih =>
    obtain ⟨q', hq, hpiece⟩ := hP _ _ _ _ _ hpiece he
    obtain ⟨r', hr, hrest⟩ := ih hq
    exact ⟨r', hr, .cons hpiece hrest⟩

/-- What may stand before what follows it, piece by piece, may stand at the front of a path. -/
theorem fold {S : Spot → Text → Text → Prop} (hnil : S q [] [])
    (hcons : ∀ p p' x y s t, P p x y p' → S p' s t → S p (x ++ s) (y ++ t)) (h : Path P p s t q) :
    S p s t := by
  induction h with
  | nil => exact hnil
  | cons hpiece _ ih => exact hcons _ _ _ _ _ _ hpiece (ih hnil)

/-- What pieces keep of a spot holds at each piece of a path. -/
theorem along {C : Spot → Prop} (hP : ∀ p x y q, P p x y q → C p → C q) (h : Path P p s t q) (hp : C p) :
    Path (fun p x y q => P p x y q ∧ C p) p s t q := by
  induction h with
  | nil => exact .nil _
  | cons hpiece _ ih => exact .cons ⟨hpiece, hp⟩ (ih (hP _ _ _ _ hpiece hp))

/-- A path leads from the one spot to the other. -/
def Reaches (P : Spot → Text → Text → Spot → Prop) (p q : Spot) : Prop := ∃ s t, Path P p s t q

/-- What pieces keep of a spot is kept along a path. -/
theorem Reaches.spot {C : Spot → Prop} (hP : ∀ p x y q, P p x y q → C p → C q) (h : Reaches P p q)
    (hp : C p) : C q := by
  obtain ⟨s, t, hpath⟩ := h
  induction hpath with
  | nil => exact hp
  | cons hpiece _ ih => exact ih (hP _ _ _ _ hpiece hp)

theorem Reaches.refl (p : Spot) : Reaches P p p := ⟨_, _, .nil p⟩

theorem Reaches.cons (h : P p x y q) (h' : Reaches P q r) : Reaches P p r := by
  obtain ⟨s, t, hpath⟩ := h'
  exact ⟨_, _, .cons h hpath⟩

/-- What is reached from a spot that is reached is reached. -/
theorem Reaches.trans (h : Reaches P p q) (h' : Reaches P q r) : Reaches P p r := by
  obtain ⟨s, t, hpath⟩ := h
  obtain ⟨s', t', hpath'⟩ := h'
  exact ⟨_, _, hpath.append hpath'⟩

end Path

end Hyperfiction

import Hyperfiction.Proofs.Render.Unchosen
import Hyperfiction.Proofs.Script.Links

/-!
# Scripts

A body is a **script** if it can be cut into pieces that every pass over it takes for what they are: texts in
which no macro begins (`Script.Quiet`), square brackets, braces, whole macros, and chains and guards whose
hooks are scripts again. What stands in a hook becomes part of the text around it, so `Script` follows the
spots that a body may lead to, whichever branches are taken: behind a chain the text goes on from the spot
in front of it, or from one that one of its bodies leads to.

`Script.Rules` says what a use of scripts asks of the macros and conditions in them. `Script.Piece R own`
relates the pieces of two texts that come from the same script in two runs: only what is printed in hooks
differs. While `own` is true the assignments of a hook still stand in it.
-/

namespace Hyperfiction

open Invocation

/-! ### Spots of hooks -/

namespace Spot

/-- The spot where a hook begins. -/
def within (p : Spot) : Spot := { p with depth := 0 }

/-- The spot with more brackets open around it. -/
def deeper (p : Spot) (depth : ℕ∞) : Spot := { p with depth := p.depth + depth }

@[simp] theorem depth_deeper (p : Spot) (depth : ℕ∞) : (p.deeper depth).depth = p.depth + depth := rfl

@[simp] theorem depth_thin (p : Spot) : p.thin.depth = p.depth := rfl

@[simp] theorem depth_solid (p : Spot) : p.solid.depth = p.depth := rfl

@[simp] theorem depth_behind (p : Spot) (c : Char) (depth : ℕ∞) : (p.behind c depth).depth = depth := rfl

theorem deeper_within (p : Spot) : p.within.deeper p.depth = p := by
  simp [within, deeper]

/-- With more brackets around them one spot still eases the other. -/
theorem Eases.deeper {p' p : Spot} (h : p'.Eases p) (depth : ℕ∞) : (p'.deeper depth).Eases (p.deeper depth) :=
  ⟨by simp [h.depth], h.linked, h.opener, h.closer⟩

end Spot

/-- The conditions that decide on a chain; a guard asks about visits alone. -/
def Conditional.conditions : Conditional → List Text
  | chain c => c.branches.filterMap Branch.condition?
  | guard _ => []
  | stray => []

namespace Script

/-! ### Texts and macros -/

/-- The macros that are looked for in what becomes of a body. -/
def heardNames : List Text := setNames ++ Orphan.names ++ printNames

/-- No assignment, orphan or print begins in a **quiet** text, no macro is completed by what follows it, and it has
no square brackets and begins no group. Where braces set groups, blanks at its end may be taken away, and it
closes none. -/
structure Quiet (groups : Prop) (t : Text) : Prop where
  isSealed : Sealed t
  noHead : NoHead heardNames t
  noSquare : t.NoSquare
  noOpener : '{' ∉ t
  tight : groups → '}' ∉ t ∧ Sealed (Text.trimEnd t)

instance (groups : Prop) [Decidable groups] (t : Text) : Decidable (Quiet groups t) :=
  decidable_of_iff (Sealed t ∧ NoHead heardNames t ∧ t.NoSquare ∧ '{' ∉ t ∧
      (groups → '}' ∉ t ∧ Sealed (Text.trimEnd t)))
    ⟨fun h => ⟨h.1, h.2.1, h.2.2.1, h.2.2.2.1, h.2.2.2.2⟩,
      fun h => ⟨h.isSealed, h.noHead, h.noSquare, h.noOpener, h.tight⟩⟩

theorem quiet_nil (groups : Prop) : Quiet groups [] :=
  ⟨sealed_nil, noHead_nil _, .nil, by simp, fun _ => ⟨by simp, sealed_nil⟩⟩

/-- What is quiet where groups are set is quiet where they are not. -/
theorem Quiet.of_true {t : Text} (h : Quiet True t) (groups : Prop) : Quiet groups t :=
  ⟨h.isSealed, h.noHead, h.noSquare, h.noOpener, fun _ => h.tight trivial⟩

/-- The macro has no braces in its arguments that could belong to a group. -/
def NoBrace (groups : Prop) (m : Invocation) : Prop := '{' ∉ m.args ∧ (groups → '}' ∉ m.args)

instance (groups : Prop) [Decidable groups] (m : Invocation) : Decidable (NoBrace groups m) :=
  inferInstanceAs (Decidable (_ ∧ _))

/-- What is asked of the pieces of a script. -/
structure Rules where
  /-- Do braces set groups? -/
  groups : Prop
  /-- The texts that stay, whatever is done to them before links are read, where something that may vanish
  stands in front, or where nothing does. -/
  solid : Bool → Text → Prop
  solid_mono : ∀ x, solid true x → solid false x
  /-- Do macros that are left stay as well? -/
  whole : Prop
  /-- The macros that may print outside of hooks. -/
  shows : Invocation → Prop
  /-- Those of them that may print in hooks. -/
  prints : Invocation → Prop
  /-- The arguments of assignments that run in hooks. -/
  sets : Text → Prop
  /-- The conditions of chains. -/
  asks : Text → Prop

namespace Rules

variable (R : Rules)

/-- A macro leads from one spot to the next. -/
def Crosses (p q : Spot) : Prop := q = p.thin ∨ (R.whole ∧ q = p.solid)

/-- A macro that a script may print. -/
structure IsPrint (m : Invocation) : Prop where
  whole : Whole printNames Link.macroNames m
  noBrace : NoBrace R.groups m
  shows : R.shows m

/-- An assignment of a script that does not run. -/
structure IsKept (m : Invocation) : Prop where
  whole : Whole setNames (Conditional.names ++ Orphan.names) m
  noBrace : NoBrace R.groups m

/-- An assignment of a script that runs in its hook. -/
structure IsOwn (m : Invocation) : Prop where
  whole : Whole setNames Conditional.names m
  sets : R.sets m.args

end Rules

/-! ### Pieces -/

/-- The pieces of two texts that come from the same script. -/
inductive Piece (R : Rules) (own : Bool) : Spot → Text → Text → Spot → Prop where
  | text {p q : Spot} {x y : Text} : Quiet R.groups x → Quiet R.groups y → Passes R.solid p x y q →
    Piece R own p x y q
  | brace {p q : Spot} {c : Char} : R.groups → c = '{' ∨ c = '}' → Passes R.solid p [c] [c] q →
    Piece R own p [c] [c] q
  | opens {p : Spot} : p.Allows '[' → Piece R own p ['['] ['['] (p.behind '[' (p.depth + 1))
  /-- In a hook each bracket that closes has one that opens. -/
  | closes {p : Spot} (depth : ℕ∞) : p.depth = depth + 1 → p.Allows ']' →
    Piece R own p [']'] [']'] (p.behind ']' depth)
  /-- What is printed in a hook may vanish. -/
  | print {p q : Spot} {m : Invocation} : R.IsPrint m → R.Crosses p q →
    (p.depth = ⊤ ∨ R.prints m ∧ q = p.thin) → Piece R own p m.source m.source q
  /-- An assignment in square brackets does not run; outside of hooks assignments have had their turn. -/
  | kept {p q : Spot} {m : Invocation} : R.IsKept m → p.depth ≠ 0 → R.Crosses p q →
    (p.depth = ⊤ ∨ NoHead printNames m.args) → Piece R own p m.source m.source q
  /-- An assignment of the hook itself leaves nothing behind. -/
  | own {p : Spot} {m : Invocation} : own = true → R.IsOwn m → p.depth = 0 →
    Piece R own p m.source m.source p

namespace Piece

variable {R : Rules} {own : Bool} {p q p' : Spot} {x y : Text}

/-- The pieces of two texts are those of the texts the other way round. -/
theorem symm (h : Piece R own p x y q) : Piece R own p y x q := by
  cases h with
  | text hx hy hpass => exact .text hy hx (hpass.imp_right fun ⟨h₁, h₂, hq⟩ => ⟨h₂, h₁, hq⟩)
  | brace hg hc hpass => exact .brace hg hc hpass
  | opens hp => exact .opens hp
  | closes depth hd hp => exact .closes depth hd hp
  | print hm hcross hp => exact .print hm hcross hp
  | kept hm hd hcross hp => exact .kept hm hd hcross hp
  | own hown hm hd => exact .own hown hm hd

/-- The pieces without assignments of the hook itself are pieces of the hook. -/
theorem of_false (h : Piece R false p x y q) : Piece R true p x y q := by
  cases h with
  | text hx hy hpass => exact .text hx hy hpass
  | brace hg hc hpass => exact .brace hg hc hpass
  | opens hp => exact .opens hp
  | closes depth hd hp => exact .closes depth hd hp
  | print hm hcross hp => exact .print hm hcross hp
  | kept hm hd hcross hp => exact .kept hm hd hcross hp
  | own hown _ _ => cases hown

/-- No macro begins with another character than `(`. -/
theorem noHead_opener {names : List Text} {c : Char} (hc : c ≠ '(') : NoHead names [c] :=
  noHead_of_not_mem (by simpa using hc.symm)

theorem sealed_opener {c : Char} (hc : c ≠ '(') : Sealed [c] := sealed_of_not_mem (by simpa using hc.symm)

/-- Nothing in a piece is completed by what follows it. -/
theorem sealed_left (h : Piece R own p x y q) : Sealed x := by
  cases h with
  | text hx _ _ => exact hx.isSealed
  | brace _ hc _ => exact sealed_opener (by rcases hc with rfl | rfl <;> decide)
  | opens | closes => exact sealed_opener (by decide)
  | print | kept | own => exact sealed_source _

/-- No orphan is left in a piece. -/
theorem noOrphan_left (h : Piece R false p x y q) : NoHead Orphan.names x := by
  cases h with
  | text hx _ _ => exact hx.noHead.mono (by decide)
  | brace _ hc _ => exact noHead_opener (by rcases hc with rfl | rfl <;> decide)
  | opens | closes => exact noHead_opener (by decide)
  | print hm _ _ => exact (hm.whole.mono (by simp [Link.macroNames])).noHead_source (by decide)
  | kept hm _ _ _ => exact (hm.whole.mono (by simp)).noHead_source (by decide)
  | own hown _ _ => cases hown

/-- From a spot that allows more, a piece leads to one that does. -/
theorem exists_eases (h : Piece R false p x y q) (he : p'.Eases p) :
    ∃ q' : Spot, q'.Eases q ∧ Piece R false p' x y q' := by
  have hcross {q : Spot} (h : R.Crosses p q) : ∃ q' : Spot, q'.Eases q ∧ R.Crosses p' q' := by
    rcases h with rfl | ⟨hw, rfl⟩
    · exact ⟨_, he.thin, .inl rfl⟩
    · exact ⟨_, he.solid, .inr ⟨hw, rfl⟩⟩
  cases h with
  | text hx hy hpass =>
    obtain ⟨q', hq, hpass⟩ := hpass.exists_eases R.solid_mono he
    exact ⟨q', hq, .text hx hy hpass⟩
  | brace hg hc hpass =>
    obtain ⟨q', hq, hpass⟩ := hpass.exists_eases R.solid_mono he
    exact ⟨q', hq, .brace hg hc hpass⟩
  | opens hp =>
    have hopens : Piece R false p' ['['] ['['] _ := .opens (he.allows (.inl rfl) hp)
    rw [he.depth] at hopens
    exact ⟨_, he.behind '[' _, hopens⟩
  | closes depth hd hp =>
    exact ⟨_, he.behind ']' depth, .closes depth (he.depth.trans hd) (he.allows (.inr rfl) hp)⟩
  | print hm hc hp =>
    rcases hp with htop | ⟨hprints, rfl⟩
    · obtain ⟨q', hq, hc⟩ := hcross hc
      exact ⟨q', hq, .print hm hc (.inl (he.depth.trans htop))⟩
    · exact ⟨_, he.thin, .print hm (.inl rfl) (.inr ⟨hprints, rfl⟩)⟩
  | kept hm hd hc hp =>
    obtain ⟨q', hq, hc⟩ := hcross hc
    rw [← he.depth] at hd hp
    exact ⟨q', hq, .kept hm hd hc hp⟩
  | own hown _ _ => cases hown

/-- A piece of a hook without its own assignments is a piece of the text around the hook. -/
theorem deeper (h : Piece R false p x y q) (depth : ℕ∞) :
    Piece R false (p.deeper depth) x y (q.deeper depth) := by
  have hcross {q : Spot} (h : R.Crosses p q) : R.Crosses (p.deeper depth) (q.deeper depth) := by
    rcases h with rfl | ⟨hw, rfl⟩
    · exact .inl rfl
    · exact .inr ⟨hw, rfl⟩
  have htop {d : ℕ∞} (h : d = ⊤) : d + depth = ⊤ := by rw [h, top_add]
  cases h with
  | text hx hy hpass =>
    refine .text hx hy ?_
    rcases hpass with rfl | ⟨h₁, h₂, rfl⟩
    · exact .inl rfl
    · exact .inr ⟨h₁, h₂, rfl⟩
  | brace hg hc hpass =>
    refine .brace hg hc ?_
    rcases hpass with rfl | ⟨h₁, h₂, rfl⟩
    · exact .inl rfl
    · exact .inr ⟨h₁, h₂, rfl⟩
  | opens hp =>
    have hopens : Piece R false (p.deeper depth) ['['] ['['] _ := .opens hp
    rw [Spot.depth_deeper, add_right_comm] at hopens
    exact hopens
  | closes d hd hp =>
    exact .closes (d + depth) (by rw [Spot.depth_deeper, hd, add_right_comm]) hp
  | print hm hc hp =>
    exact .print hm (hcross hc) (hp.imp htop fun ⟨hprints, hq⟩ => ⟨hprints, by rw [hq]; rfl⟩)
  | kept hm hd hc hp =>
    refine .kept hm ?_ (hcross hc) (hp.imp_left htop)
    rw [Spot.depth_deeper]
    exact fun h0 => hd (add_eq_zero.mp h0).1
  | own hown _ _ => cases hown

/-- **Pieces keep links** as they are, outside of hooks and in them. -/
theorem keeps {solid : Bool → Text → Prop} (hsolid : ∀ b t, R.solid b t → solid b t)
    (hwhole : R.whole → ∀ b m, solid b (Invocation.source m)) (h : Piece R false p x y q) :
    Keeps solid p x y q := by
  have hpass {x y : Text} {q : Spot} (h : Passes R.solid p x y q) : Passes solid p x y q :=
    h.imp_right fun ⟨hx, hy, hq⟩ => ⟨hsolid _ _ hx, hsolid _ _ hy, hq⟩
  have hcross {m : Invocation} {q : Spot} (h : R.Crosses p q) : Passes solid p m.source m.source q :=
    h.imp_right fun ⟨hw, hq⟩ => ⟨hwhole hw _ m, hwhole hw _ m, hq⟩
  cases h with
  | text hx hy hp => exact .free hx.noSquare hy.noSquare (hpass hp)
  | brace _ hc hp =>
    have hsquare : Text.NoSquare [‹Char›] := by rcases hc with rfl | rfl <;> decide
    exact .free hsquare hsquare (hpass hp)
  | opens hp => exact .square _ (.inl rfl) hp
  | closes depth _ hp => exact .square depth (.inr rfl) hp
  | print hm hc _ => exact .free hm.whole.noSquare_source hm.whole.noSquare_source (hcross hc)
  | kept hm _ hc _ => exact .free hm.whole.noSquare_source hm.whole.noSquare_source (hcross hc)
  | own hown _ _ => cases hown

/-- A piece stands in a hook, or outside of all, with its whole text. -/
theorem depth_eq_top_iff (h : Piece R own p x y q) : q.depth = ⊤ ↔ p.depth = ⊤ := by
  have hcross {q : Spot} (h : R.Crosses p q) : q.depth = p.depth := by
    rcases h with rfl | ⟨-, rfl⟩ <;> rfl
  have hpass {x y : Text} {q : Spot} (h : Passes R.solid p x y q) : q.depth = p.depth := by
    rcases h with rfl | ⟨-, -, rfl⟩ <;> rfl
  cases h with
  | text _ _ h => rw [hpass h]
  | brace _ _ h => rw [hpass h]
  | opens => simp
  | closes depth hd _ => simp [hd]
  | print _ hc _ => rw [hcross hc]
  | kept _ _ hc _ => rw [hcross hc]
  | own => rfl

end Piece

/-- Links may be taken out of texts that are made of such pieces. -/
theorem strips_piece {R : Rules} (hsolid : ∀ b t, R.solid b t → t ≠ []) : Path.Strips (Piece R false) where
  keeps _ _ _ _ h := h.keeps hsolid fun _ _ m => m.source_ne_nil
  eases _ _ _ _ _ h he := h.exists_eases he
  outside _ _ _ _ h hp := h.depth_eq_top_iff.mpr hp

end Script

/-- A text is a **script** from a spot on: it leads to spots in `ends`, by way of no more than `left` chains
and guards, each of which has bodies with no more than `limit`, nested no deeper than `room` levels. -/
inductive Script (R : Script.Rules) (limit : ℕ) : ℕ → ℕ → Spot → Text → (Spot → Prop) → Prop where
  | done {room left : ℕ} {p : Spot} {ends : Spot → Prop} : ends p → Script R limit room left p [] ends
  /-- A piece in which no chain or guard begins. -/
  | piece {room left : ℕ} {p q : Spot} {x t : Text} {ends : Spot → Prop} : Script.Piece R true p x x q →
    NoHead Conditional.names x → Script R limit room left q t ends → Script R limit room left p (x ++ t) ends
  /-- A head of a chain or guard that begins none is text. -/
  | stray {room left : ℕ} {p q : Spot} {x t : Text} {ends : Spot → Prop} :
    Script.Piece R true p ('(' :: x) ('(' :: x) q →
    Conditional.find? ('(' :: x ++ t) = some ([], .stray, x ++ t) → NoHead Conditional.names x →
    Script R limit room left q t ends → Script R limit room (left + 1) p ('(' :: x ++ t) ends
  /-- A chain or guard, and what follows it: from the spot in front of it if no branch is taken, and from any
  spot `q` that one of its bodies leads to. -/
  | item {room left : ℕ} {p : Spot} {k : Conditional} {t : Text} {ends : Spot → Prop}
    (bodyEnds : Spot → Prop) : k ≠ .stray → Conditional.find? (k.source ++ t) = some ([], k, t) →
    (∀ c ∈ k.conditions, R.asks c) →
    (∀ body ∈ k.bodies, Script R limit room limit p.within body bodyEnds) →
    (∀ q, bodyEnds q → q.depth = 0) → Script R limit (room + 1) left p t ends →
    (∀ q, bodyEnds q → Script R limit (room + 1) left (q.deeper p.depth) t ends) →
    Script R limit (room + 1) (left + 1) p (k.source ++ t) ends

namespace Script

variable {R : Rules} {limit room left : ℕ} {p q : Spot} {x t : Text} {ends : Spot → Prop}

/-! ### Scripts that begin with a text or a bracket -/

theorem text (hx : Quiet R.groups x) (hnone : NoHead Conditional.names x) (hpass : Passes R.solid p x x q)
    (h : Script R limit room left q t ends) : Script R limit room left p (x ++ t) ends :=
  .piece (.text hx hx hpass) hnone h

theorem brace (hg : R.groups) {c : Char} (hc : c = '{' ∨ c = '}') (hpass : Passes R.solid p [c] [c] q)
    (h : Script R limit room left q t ends) : Script R limit room left p ([c] ++ t) ends :=
  .piece (.brace hg hc hpass) (Piece.noHead_opener (by rcases hc with rfl | rfl <;> decide)) h

theorem opens (hp : p.Allows '[') (h : Script R limit room left (p.behind '[' (p.depth + 1)) t ends) :
    Script R limit room left p (['['] ++ t) ends :=
  .piece (.opens hp) (Piece.noHead_opener (by decide)) h

theorem closes (depth : ℕ∞) (hd : p.depth = depth + 1) (hp : p.Allows ']')
    (h : Script R limit room left (p.behind ']' depth) t ends) :
    Script R limit room left p ([']'] ++ t) ends :=
  .piece (.closes depth hd hp) (Piece.noHead_opener (by decide)) h

end Script

end Hyperfiction

import Hyperfiction.Proofs.Script.Lines
import Hyperfiction.Proofs.Script.Settled

/-!
# Scripts written in two runs

What follows links in a passage leads from texts on a path to texts on a path: groups are set
(`Script.collapseGroups_related`), and assignments that are left over are taken out
(`Script.stripSets_related`). So the same macros print in both runs (`Script.written_related`).
-/

namespace Hyperfiction

open Invocation Act

namespace Script

variable {R : Rules} {I : Run → Run → Prop} {w : Setting} {p q : Spot} {s t x y : Text}

/-! ### Assignments that are left over -/

/-- A piece is an assignment that is left over, or begins none. -/
theorem Piece.noSet_or_kept (h : Piece R false p x y q) : NoHead setNames x ∨
    ∃ m, R.IsKept m ∧ R.Crosses p q ∧ x = m.source ∧ y = m.source := by
  cases h with
  | text hx _ _ => exact .inl (hx.noHead.mono (by decide))
  | brace _ hc _ => exact .inl (noHead_opener (by rcases hc with rfl | rfl <;> decide))
  | opens | closes => exact .inl (noHead_opener (by decide))
  | print hm _ _ => exact .inl ((hm.whole.mono (by decide)).noHead_source (by decide))
  | kept hm _ hc _ => exact .inr ⟨_, hm, hc, rfl, rfl⟩
  | own hown _ _ => cases hown

/-- Assignments that are left over are taken out of a piece and of what follows it. -/
theorem Piece.stripSets_append (h : Piece R false p x y q) (t : Text) :
    stripSets (x ++ t) = stripSets x ++ stripSets t := by
  rcases h.noSet_or_kept with hx | ⟨m, hm, -, rfl, -⟩
  · rw [Hyperfiction.stripSets_append h.sealed_left hx, stripSets_of_noHead hx]
  · rw [stripSets_source_append hm.whole.readable hm.whole.named,
      stripSets_source hm.whole.readable hm.whole.named, List.nil_append]

/-- What is left of a piece is the piece, or nothing. -/
theorem Piece.stripSets_eq (h : Piece R false p x y q) :
    (NoHead setNames x ∧ stripSets x = x ∧ stripSets y = y) ∨
      (R.Crosses p q ∧ x.NoSquare ∧ stripSets x = [] ∧ stripSets y = []) := by
  rcases h.noSet_or_kept with hx | ⟨m, hm, hc, rfl, rfl⟩
  · have hy : NoHead setNames y := by
      rcases h.symm.noSet_or_kept with hy | ⟨m, -, -, rfl, rfl⟩
      · exact hy
      · exact hx
    exact .inl ⟨hx, stripSets_of_noHead hx, stripSets_of_noHead hy⟩
  · have hnil := stripSets_source hm.whole.readable hm.whole.named
    exact .inr ⟨hc, hm.whole.noSquare_source, hnil, hnil⟩

/-- **Texts on a path are on a path without the assignments that are left over**, and have none then. -/
theorem stripSets_related (hwhole : R.whole → ∀ b, R.solid b []) (h : Path (Piece R false) p s t q) :
    Path (fun p x y q => Piece R false p x y q ∧ NoHead setNames x) p (stripSets s) (stripSets t) q := by
  refine h.image stripSets_nil stripSets_nil fun p x y q hpiece => ?_
  refine ⟨?_, hpiece.stripSets_append, hpiece.symm.stripSets_append⟩
  rcases hpiece.stripSets_eq with ⟨hnone, hx, hy⟩ | ⟨hc, -, hx, hy⟩
  · rw [hx, hy]
    exact ⟨hpiece, hnone⟩
  · rw [hx, hy]
    refine ⟨.text (quiet_nil _) (quiet_nil _) ?_, noHead_nil _⟩
    exact hc.imp_right fun ⟨hw, hq⟩ => ⟨hwhole hw _, hwhole hw _, hq⟩

/-! ### What is written -/

/-- The prints of two texts on a path have like effects, if each of them has. -/
theorem resolvePrints_related (hshows : ∀ m, R.IsPrint m →
      Related I (fun _ _ => True) (printMacro w m) (printMacro w m))
    (h : Path (fun p x y q => Piece R false p x y q ∧ NoHead setNames x) p s t q) :
    Related I (fun _ _ => True) (resolvePrints w s) (resolvePrints w t) := by
  rw [resolvePrints_eq_pass, resolvePrints_eq_pass]
  refine pass_prints_related (S := fun _ _ _ _ => True) (fun _ _ _ _ h => ⟨h.1, .inr h.2⟩) trivial
    (fun _ _ _ _ _ _ _ _ _ => trivial) (fun _ _ m _ hm _ _ => ?_) h _
  exact (hshows m hm).mono fun _ _ _ _ _ _ _ => trivial

/-- The rules for what follows the links: nothing is asked any more of prints in hooks, which are written by
then, and other texts may stay. -/
def Rules.behindLinks (R : Rules) (solid : Bool → Text → Prop) (hmono : ∀ x, solid true x → solid false x) :
    Rules :=
  { R with solid := solid, solid_mono := hmono, prints := fun _ => True }

/-- Behind the links the rules may ask less of what stays. -/
theorem Piece.behindLinks {solid : Bool → Text → Prop} {hmono : ∀ x, solid true x → solid false x}
    (hsolid : ∀ b x, R.solid b x → solid b x) (h : Piece R false p x y q) :
    Piece (R.behindLinks solid hmono) false p x y q := by
  have hpass {x y : Text} {q : Spot} (h : Passes R.solid p x y q) : Passes solid p x y q :=
    h.imp_right fun ⟨hx, hy, hq⟩ => ⟨hsolid _ _ hx, hsolid _ _ hy, hq⟩
  cases h with
  | text hx hy h => exact .text hx hy (hpass h)
  | brace hg hc h => exact .brace hg hc (hpass h)
  | opens hp => exact .opens hp
  | closes depth hd hp => exact .closes depth hd hp
  | print hm hc hp =>
    exact .print ⟨hm.whole, hm.noBrace, hm.shows⟩ hc (hp.imp_right fun ⟨_, hq⟩ => ⟨trivial, hq⟩)
  | kept hm hd hc hp => exact .kept ⟨hm.whole, hm.noBrace⟩ hd hc hp
  | own hown _ _ => cases hown

/-- **Two texts on a path are written with like effects.** -/
theorem written_related (hsolid : ∀ b t, R.solid b t → t ≠ [])
    (hlined : R.groups → ∀ m, R.shows m → R.shows m.lined)
    (hshows : ∀ m, R.shows m → Related I (fun _ _ => True) (printMacro w m) (printMacro w m))
    (h : Path (Piece R false) Spot.start s t q) :
    Related I (fun _ _ => True) (written w s) (written w t) := by
  obtain ⟨q', -, hlinks⟩ := h.strip (strips_piece hsolid) rfl nofun (Spot.Eases.refl _) rfl
  -- What stays between brackets does not matter any more.
  let R' : Rules := R.behindLinks (fun _ _ => True) fun _ => id
  have hrules : R'.Lined := ⟨fun _ _ _ _ _ => id, fun _ _ _ _ => id, hlined, fun _ _ => id⟩
  have hsets := stripSets_related (fun _ _ => trivial)
    (collapseGroups_related hrules (hlinks.mono fun _ _ _ _ => Piece.behindLinks fun _ _ _ => trivial))
  rw [written, written]
  refine Related.bind (resolvePrints_related (R := R') (fun m hm => hshows m hm.shows) hsets)
    fun _ _ _ => ?_
  exact Related.get_bind fun _ _ _ => .pure trivial

end Script

end Hyperfiction

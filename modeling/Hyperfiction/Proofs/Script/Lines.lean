import Hyperfiction.Proofs.Markup.Groups
import Hyperfiction.Proofs.Markup.Lined
import Hyperfiction.Proofs.Script.Basic

/-!
# Groups in texts on a path

Where braces set groups they are pieces of their own, so two texts on a path have their groups at corresponding
spots (`Script.findGroup?_related`). What stands in a group is set as one line in both, where a space may be
written in the one text that is not in the other, and braces leave nothing: the texts are on a path again when
their groups are set (`Script.collapseGroups_related`).
-/

namespace Hyperfiction

open Invocation
open Text (LineEnd lineFrom endFrom)

/-- Nothing in a text without an opening brace begins a group. -/
theorem findGroup?_append {x : Text} (hx : '{' ∉ x) (t : Text) :
    findGroup? (x ++ t) = (findGroup? t).map fun p => (x ++ p.1, p.2) := by
  induction x with
  | nil => simp
  | cons c x ih =>
    have hc : c ≠ '{' := fun heq => hx (heq ▸ List.mem_cons_self)
    rw [List.cons_append, findGroup?, if_neg hc, ih fun hmem => hx (List.mem_cons_of_mem c hmem),
      Option.map_map]
    rfl

namespace Script

variable {R : Rules} {p q : Spot} {s t x y : Text}

/-! ### Braces -/

/-- Where braces set groups, a piece is a brace or has none. -/
private theorem Piece.noBrace_or_brace (hg : R.groups) (h : Piece R false p x y q) :
    (('{' ∉ x ∧ '}' ∉ x) ∧ '{' ∉ y ∧ '}' ∉ y) ∨
      ∃ c, (c = '{' ∨ c = '}') ∧ x = [c] ∧ y = [c] ∧ Passes R.solid p [c] [c] q := by
  have hsource {names apart : List Text} {m : Invocation} (hm : Whole names apart m)
      (hb : NoBrace R.groups m) :
      ('{' ∉ m.source ∧ '}' ∉ m.source) ∧ '{' ∉ m.source ∧ '}' ∉ m.source :=
    have hnone : '{' ∉ m.source ∧ '}' ∉ m.source :=
      ⟨not_mem_source hm.readable.isName (by decide) hb.1,
        not_mem_source hm.readable.isName (by decide) (hb.2 hg)⟩
    ⟨hnone, hnone⟩
  cases h with
  | text hx hy _ => exact .inl ⟨⟨hx.noOpener, (hx.tight hg).1⟩, hy.noOpener, (hy.tight hg).1⟩
  | brace _ hc hpass => exact .inr ⟨_, hc, rfl, rfl, hpass⟩
  | opens | closes => exact .inl (by decide)
  | print hm _ _ => exact .inl (hsource hm.whole hm.noBrace)
  | kept hm _ _ _ => exact .inl (hsource hm.whole hm.noBrace)
  | own hown _ _ => cases hown

/-- **A brace is closed** at corresponding spots of two texts on a path, or in neither. -/
theorem closing?_related (hg : R.groups) (h : Path (Piece R false) p s t q) (n : ℕ) :
    (Bracket.curly.closing? n s = none ∧ Bracket.curly.closing? n t = none) ∨
      ∃ i u i' u' p₁ p₂, Bracket.curly.closing? n s = some (i, u) ∧
        Bracket.curly.closing? n t = some (i', u') ∧ Path (Piece R false) p i i' p₁ ∧
        Passes R.solid p₁ ['}'] ['}'] p₂ ∧ Path (Piece R false) p₂ u u' q := by
  induction h generalizing n with
  | nil => exact .inl ⟨rfl, rfl⟩
  | @cons p q r x y s t hpiece hrest ih =>
    -- Unless the brace is closed here, it is closed behind the piece, at the depth that this leads to.
    have hskip (k : ℕ) (hx : Bracket.curly.depth? n x = some k) (hy : Bracket.curly.depth? n y = some k) :
        (Bracket.curly.closing? n (x ++ s) = none ∧ Bracket.curly.closing? n (y ++ t) = none) ∨
          ∃ i u i' u' p₁ p₂, Bracket.curly.closing? n (x ++ s) = some (i, u) ∧
            Bracket.curly.closing? n (y ++ t) = some (i', u') ∧ Path (Piece R false) p i i' p₁ ∧
            Passes R.solid p₁ ['}'] ['}'] p₂ ∧ Path (Piece R false) p₂ u u' r := by
      rw [Bracket.closing?_append hx, Bracket.closing?_append hy]
      rcases ih k with ⟨hs, ht⟩ | ⟨i, u, i', u', p₁, p₂, hs, ht, hi, hpass, hu⟩
      · exact .inl ⟨by rw [hs]; rfl, by rw [ht]; rfl⟩
      · exact .inr ⟨x ++ i, u, y ++ i', u', p₁, p₂, by rw [hs]; rfl, by rw [ht]; rfl, .cons hpiece hi,
          hpass, hu⟩
    rcases hpiece.noBrace_or_brace hg with ⟨hx, hy⟩ | ⟨c, rfl | rfl, rfl, rfl, hpass⟩
    · exact hskip n (Bracket.depth?_of_not_mem (b := .curly) hx.1 hx.2 n)
        (Bracket.depth?_of_not_mem (b := .curly) hy.1 hy.2 n)
    · exact hskip (n + 1) rfl rfl
    · cases n with
      | zero => exact .inr ⟨[], s, [], t, p, q, rfl, rfl, .nil p, hpass, hrest⟩
      | succ n => exact hskip n rfl rfl

/-- **Groups correspond**: each text has a first one where the other has, or both have none. -/
theorem findGroup?_related (hg : R.groups) (h : Path (Piece R false) p s t q) :
    (findGroup? s = none ∧ findGroup? t = none) ∨
      ∃ b i u b' i' u' p₁ p₂ p₃ p₄, findGroup? s = some (b, i, u) ∧ findGroup? t = some (b', i', u') ∧
        Path (Piece R false) p b b' p₁ ∧ Passes R.solid p₁ ['{'] ['{'] p₂ ∧
        Path (Piece R false) p₂ i i' p₃ ∧ Passes R.solid p₃ ['}'] ['}'] p₄ ∧
        Path (Piece R false) p₄ u u' q := by
  induction h with
  | nil => exact .inl ⟨rfl, rfl⟩
  | @cons p q r x y s t hpiece hrest ih =>
    have hskip (hx : findGroup? (x ++ s) = (findGroup? s).map fun p => (x ++ p.1, p.2))
        (hy : findGroup? (y ++ t) = (findGroup? t).map fun p => (y ++ p.1, p.2)) :
        (findGroup? (x ++ s) = none ∧ findGroup? (y ++ t) = none) ∨
          ∃ b i u b' i' u' p₁ p₂ p₃ p₄, findGroup? (x ++ s) = some (b, i, u) ∧
            findGroup? (y ++ t) = some (b', i', u') ∧ Path (Piece R false) p b b' p₁ ∧
            Passes R.solid p₁ ['{'] ['{'] p₂ ∧ Path (Piece R false) p₂ i i' p₃ ∧
            Passes R.solid p₃ ['}'] ['}'] p₄ ∧ Path (Piece R false) p₄ u u' r := by
      rw [hx, hy]
      rcases ih with ⟨hs, ht⟩ | ⟨b, i, u, b', i', u', p₁, p₂, p₃, p₄, hs, ht, hb, hrest⟩
      · exact .inl ⟨by rw [hs]; rfl, by rw [ht]; rfl⟩
      · exact .inr ⟨x ++ b, i, u, y ++ b', i', u', p₁, p₂, p₃, p₄, by rw [hs]; rfl, by rw [ht]; rfl,
          .cons hpiece hb, hrest⟩
    rcases hpiece.noBrace_or_brace hg with ⟨hx, hy⟩ | ⟨c, rfl | rfl, rfl, rfl, hpass⟩
    · exact hskip (findGroup?_append hx.1 s) (findGroup?_append hy.1 t)
    · have hopened {v i u : Text} (h : Bracket.curly.closing? 0 v = some (i, u)) :
          findGroup? (['{'] ++ v) = some ([], i, u) := by
        rw [List.singleton_append, findGroup?, if_pos rfl, h]
      have hopen {v : Text} (h : Bracket.curly.closing? 0 v = none) :
          findGroup? (['{'] ++ v) = (findGroup? v).map fun p => (['{'] ++ p.1, p.2) := by
        rw [List.singleton_append, findGroup?, if_pos rfl, h]
        rfl
      rcases closing?_related hg hrest 0 with ⟨hs, ht⟩ | ⟨i, u, i', u', p₁, p₂, hs, ht, hi, hclose, hu⟩
      · exact hskip (hopen hs) (hopen ht)
      · exact .inr ⟨[], i, u, [], i', u', p, q, p₁, p₂, hopened hs, hopened ht, .nil p, hpass, hi, hclose, hu⟩
    · exact hskip (findGroup?_append (by decide) s) (findGroup?_append (by decide) t)

/-! ### Lines -/

/-- The rules allow on a line what they allow elsewhere, and braces that are taken out. -/
structure Rules.Lined (R : Rules) : Prop where
  solid : R.groups → ∀ b e x, (e = .gap → b = true) → R.solid b x → R.solid b (lineFrom e x)
  brace : R.groups → ∀ b c, c = '{' ∨ c = '}' → R.solid b [c] → R.solid b []
  shows : R.groups → ∀ m, R.shows m → R.shows m.lined
  prints : R.groups → ∀ m, R.prints m → R.prints m.lined

/-- A space is quiet, and so is nothing. -/
private theorem quiet_pending (groups : Prop) (e : LineEnd) : Quiet groups e.pending := by
  cases e with
  | gap =>
    exact ⟨sealed_of_not_mem (by decide), noHead_of_not_mem (by decide), by decide, by decide,
      fun _ => ⟨by decide, sealed_of_not_mem (by decide)⟩⟩
  | start | word => exact quiet_nil groups

/-- **A quiet text is quiet on a line.** -/
theorem Quiet.lineFrom {groups : Prop} (hg : groups) (h : Quiet groups x) (e : LineEnd) :
    Quiet groups (Text.lineFrom e x) := by
  have hmem {c : Char} (hc : c ≠ ' ') (hx : c ∉ x) : c ∉ Text.lineFrom e x := fun hin =>
    (Text.mem_of_mem_lineFrom hin).elim hc hx
  have hsealed : Sealed (Text.lineFrom e x) := (h.tight hg).2.lineFrom e
  refine ⟨hsealed, noHead_lineFrom h.noHead, ⟨hmem (by decide) h.noSquare.1, hmem (by decide) h.noSquare.2⟩,
    hmem (by decide) h.noOpener, fun _ => ⟨hmem (by decide) (h.tight hg).1, ?_⟩⟩
  rwa [(Text.endsPlain_lineFrom e x).trimEnd_eq]

theorem NoBrace.lined {groups : Prop} {m : Invocation} (h : NoBrace groups m) : NoBrace groups m.lined :=
  ⟨fun hmem => (Text.mem_of_mem_squeeze hmem).elim (by decide) h.1,
    fun hg hmem => (Text.mem_of_mem_squeeze hmem).elim (by decide) (h.2 hg)⟩

/-- Where spaces are held back, they are written as a piece that may vanish. -/
private theorem path_pending {e e' : LineEnd} (he : e = .gap → p.loose = true)
    (he' : e' = .gap → p.loose = true) : Path (Piece R false) p e.pending e'.pending p := by
  by_cases hl : p.loose = true
  · have hthin : p.thin = p := by rw [Spot.thin, ← hl]
    have hpiece : Piece R false p e.pending e'.pending p.thin :=
      .text (quiet_pending _ e) (quiet_pending _ e') (.inl rfl)
    rw [hthin] at hpiece
    exact .single hpiece
  · have hnil {e : LineEnd} (he : e = .gap → p.loose = true) : e.pending = [] := by
      cases e with
      | gap => exact absurd (he rfl) hl
      | start | word => rfl
    rw [hnil he, hnil he']
    exact .nil p

/-- A piece of a text is a piece of its line, with the space in front that is held back. -/
private theorem Piece.lineFrom (hg : R.groups) (hR : R.Lined) (h : Piece R false p x y q) (hx : '{' ∉ x)
    (hx' : '}' ∉ x) {e e' : LineEnd} (he : e = .gap → p.loose = true) (he' : e' = .gap → p.loose = true) :
    Path (Piece R false) p (Text.lineFrom e x) (Text.lineFrom e' y) q ∧
      (endFrom e x = .gap → q.loose = true) ∧ (endFrom e' y = .gap → q.loose = true) := by
  have hbracket {c : Char} (hc : Text.isBlank c = false) (e : LineEnd) :
      Text.lineFrom e [c] = e.pending ++ [c] ∧ endFrom e [c] = .word :=
    Text.lineFrom_of_not_blank (List.cons_ne_nil c []) (by simpa using hc)
  have hcross {m : Invocation} (hm : IsName m.name) (hpiece : Piece R false p m.lined.source m.lined.source q) :
      Path (Piece R false) p (Text.lineFrom e m.source) (Text.lineFrom e' m.source) q ∧
        (endFrom e m.source = .gap → q.loose = true) ∧ (endFrom e' m.source = .gap → q.loose = true) := by
    rw [(lineFrom_source hm e).1, (lineFrom_source hm e').1, (lineFrom_source hm e).2,
      (lineFrom_source hm e').2]
    exact ⟨(path_pending he he').append (.single hpiece), nofun, nofun⟩
  cases h with
  | text hqx hqy hpass =>
    refine ⟨.single (.text (hqx.lineFrom hg e) (hqy.lineFrom hg e') ?_), ?_⟩
    · exact hpass.imp_right fun ⟨h₁, h₂, hq⟩ => ⟨hR.solid hg _ _ _ he h₁, hR.solid hg _ _ _ he' h₂, hq⟩
    · rcases hpass with rfl | ⟨-, -, rfl⟩ <;> exact ⟨fun _ => rfl, fun _ => rfl⟩
  | brace _ hc _ => rcases hc with rfl | rfl <;> simp at hx hx'
  | opens hp =>
    rw [(hbracket (by decide) e).1, (hbracket (by decide) e').1, (hbracket (by decide) e).2,
      (hbracket (by decide) e').2]
    exact ⟨(path_pending he he').append (.single (.opens hp)), nofun, nofun⟩
  | closes depth hd hp =>
    rw [(hbracket (by decide) e).1, (hbracket (by decide) e').1, (hbracket (by decide) e).2,
      (hbracket (by decide) e').2]
    exact ⟨(path_pending he he').append (.single (.closes depth hd hp)), nofun, nofun⟩
  | print hm hc hp =>
    have hlined : R.IsPrint _ := ⟨hm.whole.lined, hm.noBrace.lined, hR.shows hg _ hm.shows⟩
    refine hcross hm.whole.readable.isName (.print hlined hc ?_)
    exact hp.imp_right fun ⟨hprints, hq⟩ => ⟨hR.prints hg _ hprints, hq⟩
  | kept hm hd hc hp =>
    exact hcross hm.whole.readable.isName
      (.kept ⟨hm.whole.lined, hm.noBrace.lined⟩ hd hc (hp.imp_right noHead_squeeze))
  | own hown _ _ => cases hown

/-- **Texts on a path are on a path when they are set as a line**, if they have no braces. -/
theorem lineFrom_related (hg : R.groups) (hR : R.Lined) (h : Path (Piece R false) p s t q) (hs : '{' ∉ s)
    (hs' : '}' ∉ s) {e e' : LineEnd} (he : e = .gap → p.loose = true) (he' : e' = .gap → p.loose = true) :
    Path (Piece R false) p (lineFrom e s) (lineFrom e' t) q := by
  induction h generalizing e e' with
  | nil => exact .nil _
  | cons hpiece _ ih =>
    simp only [List.mem_append, not_or] at hs hs'
    obtain ⟨hline, hend, hend'⟩ := hpiece.lineFrom hg hR hs.1 hs'.1 he he'
    rw [Text.lineFrom_append, Text.lineFrom_append]
    exact hline.append (ih hs.2 hs'.2 hend hend')

/-- A brace that is taken out leaves a piece that is empty. -/
private theorem Passes.brace (hg : R.groups) (hR : R.Lined) {c : Char} (hc : c = '{' ∨ c = '}')
    (h : Passes R.solid p [c] [c] q) : Path (Piece R false) p [] [] q :=
  .single (.text (quiet_nil _) (quiet_nil _) (h.imp_right fun ⟨hsolid, _, hq⟩ =>
    ⟨hR.brace hg _ c hc hsolid, hR.brace hg _ c hc hsolid, hq⟩))

/-- Where braces set no groups, there are none. -/
theorem collapseGroups_eq (hg : ¬ R.groups) (h : Path (Piece R false) p s t q) : collapseGroups s = s := by
  refine collapseGroups_of_noGroup (Bracket.atOpeners_of_not_mem ?_)
  refine h.left_induction (C := fun s => '{' ∉ s) (by simp)
    (fun hs ht => by simpa using ⟨hs, ht⟩) fun _ _ _ _ hpiece => ?_
  cases hpiece with
  | text hx _ _ => exact hx.noOpener
  | brace hgroups _ _ => exact absurd hgroups hg
  | opens | closes => decide
  | print hm _ _ => exact not_mem_source hm.whole.readable.isName (by decide) hm.noBrace.1
  | kept hm _ _ _ => exact not_mem_source hm.whole.readable.isName (by decide) hm.noBrace.1
  | own hown _ _ => cases hown

/-- **Texts on a path are on a path when their groups are set.** -/
theorem collapseGroups_related (hR : R.Lined) (h : Path (Piece R false) p s t q) :
    Path (Piece R false) p (collapseGroups s) (collapseGroups t) q := by
  by_cases hg : R.groups
  · induction hn : s.length using Nat.strongRecOn generalizing s t p q with
    | ind n ih =>
      subst hn
      rcases findGroup?_related hg h with ⟨hs, ht⟩ |
        ⟨b, i, u, b', i', u', p₁, p₂, p₃, p₄, hs, ht, hb, hopen, hi, hclose, hu⟩
      · rwa [collapseGroups_of_noGroup (findGroup?_eq_none_iff.mp hs),
          collapseGroups_of_noGroup (findGroup?_eq_none_iff.mp ht)]
      · have hlen := congrArg List.length (eq_append_of_findGroup? hs)
        simp only [List.length_append, List.length_cons] at hlen
        have hinner := ih i.length (by omega) hi rfl
        have hbehind := ih u.length (by omega) hu rfl
        obtain ⟨hno, hno'⟩ := Group.not_mem_collapseGroups (Group.find?_eq_some_iff.mp hs).1.inner
        have hline : Path (Piece R false) p₂ (Group.line i) (Group.line i') p₃ := by
          rw [Group.line, Group.line, Text.intercalate_words, Text.intercalate_words]
          have hstart : LineEnd.start = .gap → p₂.loose = true := by simp
          exact lineFrom_related hg hR hinner hno hno' hstart hstart
        rw [collapseGroups_of_eq_some hs, collapseGroups_of_eq_some ht]
        exact hb.append ((Passes.brace hg hR (.inl rfl) hopen).append
          (hline.append ((Passes.brace hg hR (.inr rfl) hclose).append hbehind)))
  · rwa [collapseGroups_eq hg h, collapseGroups_eq hg (h.symm fun _ _ _ _ => Piece.symm)]

end Script

end Hyperfiction

import Hyperfiction.Proofs.Markup.Walk
import Hyperfiction.Proofs.Script.Path

/-!
# Links on a path

Along a path whose pieces keep links, square brackets that touch in one of the two texts touch in the
other, so a row of them is found at corresponding spots (`Path.breakOn?_square`) and each text has a link
where the other has one (`Path.find?_link`). Without their links the two texts are on a path again
(`Path.strip`), and one of them has no link exactly when the other has none (`Path.noLink_iff`).
-/

namespace Hyperfiction

namespace Text.NoSquare

variable {x s : Text} {c : Char}

theorem not_mem (hx : x.NoSquare) (hc : IsSquare c) : c ∉ x := by
  rcases hc with rfl | rfl
  · exact hx.1
  · exact hx.2

/-- Behind a text without brackets none comes first, if none does where the text is empty. -/
theorem head?_append_ne (hx : x.NoSquare) (hc : IsSquare c) (hs : x = [] → s.head? ≠ some c) :
    (x ++ s).head? ≠ some c := by
  cases x with
  | nil => exact hs rfl
  | cons d x =>
    rintro h
    obtain rfl : d = c := Option.some.inj h
    exact hx.not_mem hc List.mem_cons_self

end Text.NoSquare

/-- A row of characters does not begin in a text without them. -/
private theorem breakOn?_append_of_not_mem {c : Char} {k : ℕ} (hk : 0 < k) {x : Text} (hx : c ∉ x)
    (s : Text) : Text.breakOn? (List.replicate k c) (x ++ s) =
      (Text.breakOn? (List.replicate k c) s).map fun p => (x ++ p.1, p.2) := by
  obtain ⟨k, rfl⟩ := Nat.exists_eq_add_of_lt hk
  refine Text.breakOn?_append fun w hw hne hp => ?_
  obtain ⟨d, w, rfl⟩ := List.exists_cons_of_ne_nil hne
  rw [Nat.zero_add, List.replicate_succ, List.cons_append, List.cons_prefix_cons] at hp
  exact hx (hp.1 ▸ hw.subset List.mem_cons_self)

/-- A row of characters is found at the front of a text that begins with it. -/
private theorem breakOn?_replicate {c : Char} {k : ℕ} (s : Text) :
    Text.breakOn? (List.replicate k c) (List.replicate k c ++ s) = some ([], s) :=
  Text.breakOn?_eq_some_iff.mpr ⟨rfl, fun _ hw hne => absurd (List.suffix_nil.mp hw) hne⟩

/-- A row that is longer than the one at the front of a text is not found there. -/
private theorem not_prefix_replicate {c : Char} {j k : ℕ} (hjk : j < k) {s : Text}
    (hs : s.head? ≠ some c) : ¬ List.replicate k c <+: List.replicate j c ++ s := by
  rintro ⟨v, hv⟩
  obtain ⟨i, rfl⟩ : ∃ i, k = j + (i + 1) := ⟨k - (j + 1), by omega⟩
  rw [List.replicate_add, List.append_assoc, List.append_cancel_left_eq] at hv
  exact hs (by rw [← hv]; rfl)

namespace Path

variable {P : Spot → Text → Text → Spot → Prop} {p q : Spot} {s t : Text} {c : Char}

section Rows

variable (hP : ∀ p x y q, P p x y q → KeepsLinks p x y q) (hc : IsSquare c)

include hP hc in
/-- A bracket is not allowed where one like it stands in front with nothing between that stays. -/
theorem head?_ne_of_loose (h : Path P p s t q) (hb : p.bracket = some c) (hl : p.loose = true)
    (hact : c = '[' ∨ p.linked = true) : s.head? ≠ some c ∧ t.head? ≠ some c := by
  induction h with
  | nil => exact ⟨nofun, nofun⟩
  | cons hpiece _ ih =>
    cases hP _ _ _ _ hpiece with
    | free hx hy hpass =>
      rcases hpass with rfl | ⟨hnx, hny, rfl⟩
      · have := ih hb rfl hact
        exact ⟨hx.head?_append_ne hc fun _ => this.1, hy.head?_append_ne hc fun _ => this.2⟩
      · exact ⟨hx.head?_append_ne hc fun h => absurd h hnx, hy.head?_append_ne hc fun h => absurd h hny⟩
    | @square d _ _ hallow =>
      have hne : d ≠ c := by
        rintro rfl
        exact hallow ⟨hb, hl, hact⟩
      simpa using hne

include hP hc in
/-- Right behind a bracket both texts go on with one like it, or neither does. -/
theorem next_square (h : Path P p s t q) (hb : p.bracket = some c)
    (hact : c = '[' ∨ p.linked = true) :
    (∃ depth s' t', s = c :: s' ∧ t = c :: t' ∧ P p [c] [c] (p.behind c depth) ∧
      Path P (p.behind c depth) s' t' q) ∨ (s.head? ≠ some c ∧ t.head? ≠ some c) := by
  cases h with
  | nil => exact .inr ⟨nofun, nofun⟩
  | cons hpiece hrest =>
    cases hP _ _ _ _ hpiece with
    | free hx hy hpass =>
      right
      rcases hpass with rfl | ⟨hnx, hny, rfl⟩
      · have := hrest.head?_ne_of_loose hP hc hb rfl hact
        exact ⟨hx.head?_append_ne hc fun _ => this.1, hy.head?_append_ne hc fun _ => this.2⟩
      · exact ⟨hx.head?_append_ne hc fun h => absurd h hnx, hy.head?_append_ne hc fun h => absurd h hny⟩
    | @square d depth _ hallow =>
      by_cases hd : d = c
      · subst hd
        exact .inl ⟨depth, _, _, rfl, rfl, hpiece, hrest⟩
      · exact .inr (by simpa using hd)

/-- The spot stands right behind a bracket that keeps like ones apart. -/
structure Tight (c : Char) (p : Spot) : Prop where
  bracket : p.bracket = some c
  loose : p.loose = false
  active : c = '[' ∨ p.linked = true

theorem Tight.behind (hact : c = '[' ∨ p.linked = true) (depth : ℕ∞) : Tight c (p.behind c depth) :=
  ⟨rfl, rfl, hact.imp_right fun h => by simp [Spot.behind, h]⟩

/-- Behind two brackets that touch a link may be open. -/
theorem Tight.linked (h : Tight c p) (depth : ℕ∞) : (p.behind c depth).linked = true := by
  rcases h.active with rfl | hl
  · simp [Spot.behind, h.bracket]
  · simp [Spot.behind, hl]

include hP in
/-- From behind two brackets in a row on, it is known that they were opened. -/
theorem Reaches.linked (h : Reaches P p q) (hp : p.linked = true) : q.linked = true := by
  refine h.spot (C := fun p => p.linked = true) (fun p x y q hpiece hl => ?_) hp
  cases hP _ _ _ _ hpiece with
  | free _ _ hpass => rcases hpass with rfl | ⟨-, -, rfl⟩ <;> exact hl
  | square => simp [Spot.behind, hl]

include hP hc in
/-- **Rows of brackets correspond**: from right behind a bracket on, both texts have as many like it, where
no more than `k` are counted. -/
theorem row_square (h : Path P p s t q) (hp : Tight c p) (k : ℕ) :
    ∃ j ≤ k, ∃ s' t' p', s = List.replicate j c ++ s' ∧ t = List.replicate j c ++ t' ∧
      Reaches P p p' ∧ Path P p' s' t' q ∧ Tight c p' ∧ (0 < j → p'.linked = true) ∧
      (j < k → s'.head? ≠ some c ∧ t'.head? ≠ some c) := by
  induction k generalizing p s t with
  | zero => exact ⟨0, le_rfl, s, t, p, rfl, rfl, .refl p, h, hp, nofun, nofun⟩
  | succ k ih =>
    rcases h.next_square hP hc hp.bracket hp.active with ⟨depth, s, t, rfl, rfl, hpiece, h⟩ | hnot
    · obtain ⟨j, hj, s', t', p', rfl, rfl, hreach, hrest, hp', -, hstop⟩ := ih h (.behind hp.active depth)
      exact ⟨j + 1, by omega, s', t', p', rfl, rfl, hreach.cons hpiece, hrest, hp',
        fun _ => hreach.linked hP (hp.linked depth), fun hlt => hstop (by omega)⟩
    · exact ⟨0, by omega, s, t, p, rfl, rfl, .refl p, h, hp, nofun, fun _ => hnot⟩

/-- Two texts are cut at rows of brackets that correspond: a path leads to the rows, and one goes on from
right behind them. -/
structure CutAt (P : Spot → Text → Text → Spot → Prop) (c : Char) (p q : Spot) (b b' u u' : Text)
    (p₁ p₂ : Spot) : Prop where
  before : Path P p b b' p₁
  behind : Path P p₂ u u' q
  tight : Tight c p₂
  /-- What stands before the rows does not end with a bracket like theirs, unless it is empty. -/
  apart : p₁.bracket = some c → b = [] ∧ p₁ = p
  reaches : Reaches P p p₂

include hP hc in
/-- **The first row of like brackets** is found at corresponding spots of the two texts, or in neither. -/
theorem breakOn?_square {k : ℕ} (hk : 0 < k) (h : Path P p s t q) (hact : c = '[' ∨ p.linked = true) :
    (Text.breakOn? (List.replicate k c) s = none ∧ Text.breakOn? (List.replicate k c) t = none) ∨
      ∃ b u b' u' p₁ p₂, Text.breakOn? (List.replicate k c) s = some (b, u) ∧
        Text.breakOn? (List.replicate k c) t = some (b', u') ∧ CutAt P c p q b b' u u' p₁ p₂ ∧
        (c = '[' → 1 < k → p₂.linked = true) := by
  induction h with
  | nil p =>
    have hnil : Text.breakOn? (List.replicate k c) [] = none := by
      obtain ⟨k, rfl⟩ := Nat.exists_eq_add_of_lt hk
      rw [Nat.zero_add]
      rfl
    exact .inl ⟨hnil, hnil⟩
  | @cons p q r x y s t hpiece hrest ih =>
    -- A piece without the bracket is passed over in both texts.
    have hskip (hx : c ∉ x) (hy : c ∉ y) (hact : c = '[' ∨ q.linked = true)
        (hq : q.bracket = some c → s.head? ≠ some c) :
        (Text.breakOn? (List.replicate k c) (x ++ s) = none ∧
          Text.breakOn? (List.replicate k c) (y ++ t) = none) ∨
        ∃ b u b' u' p₁ p₂, Text.breakOn? (List.replicate k c) (x ++ s) = some (b, u) ∧
          Text.breakOn? (List.replicate k c) (y ++ t) = some (b', u') ∧
          CutAt P c p r b b' u u' p₁ p₂ ∧ (c = '[' → 1 < k → p₂.linked = true) := by
      rw [breakOn?_append_of_not_mem hk hx, breakOn?_append_of_not_mem hk hy]
      rcases ih hact with ⟨hs, ht⟩ | ⟨b, u, b', u', p₁, p₂, hs, ht, hcut, htwo⟩
      · exact .inl ⟨by rw [hs]; rfl, by rw [ht]; rfl⟩
      · refine .inr ⟨x ++ b, u, y ++ b', u', p₁, p₂, by rw [hs]; rfl, by rw [ht]; rfl,
          ⟨.cons hpiece hcut.before, hcut.behind, hcut.tight, fun hb => ?_,
            hcut.reaches.cons hpiece⟩, htwo⟩
        obtain ⟨rfl, rfl⟩ := hcut.apart hb
        obtain ⟨k, rfl⟩ := Nat.exists_eq_add_of_lt hk
        refine absurd ?_ (hq hb)
        rw [Text.eq_append_of_breakOn? hs, Nat.zero_add]
        rfl
    have hact' : c = '[' ∨ q.linked = true :=
      hact.imp_right (Reaches.linked hP ⟨_, _, .single hpiece⟩)
    cases hP _ _ _ _ hpiece with
    | free hx hy hpass =>
      refine hskip (hx.not_mem hc) (hy.not_mem hc) hact' fun hb => ?_
      · rcases hpass with rfl | ⟨-, -, rfl⟩
        · exact (hrest.head?_ne_of_loose hP hc hb rfl hact).1
        · cases hb
    | @square d depth _ _ =>
      by_cases hd : d = c
      · subst hd
        -- The row that begins here is long enough in both texts, or in neither.
        obtain ⟨j, hj, s', t', p', rfl, rfl, hreach, hbehind, hp', hlinked, hstop⟩ :=
          hrest.row_square hP hc (.behind hact depth) (k - 1)
        by_cases hlong : j = k - 1
        · obtain rfl : k = j + 1 := by omega
          refine .inr ⟨[], s', [], t', p, p', breakOn?_replicate s', breakOn?_replicate t',
            ⟨.nil p, hbehind, hp', fun _ => ⟨rfl, rfl⟩, hreach.cons hpiece⟩, fun _ hlt => ?_⟩
          exact hlinked (by omega)
        · obtain ⟨hs, ht⟩ := hstop (by omega)
          have hfront {v : Text} (hv : v.head? ≠ some d) :
              Text.breakOn? (List.replicate k d) ([d] ++ (List.replicate j d ++ v)) =
                (Text.breakOn? (List.replicate k d) (List.replicate j d ++ v)).map
                  fun p => ([d] ++ p.1, p.2) := by
            refine Text.breakOn?_append fun w hw hne => ?_
            obtain rfl : w = [d] := by
              rcases List.suffix_cons_iff.mp hw with rfl | hw
              · rfl
              · exact absurd (List.suffix_nil.mp hw) hne
            exact not_prefix_replicate (j := j + 1) (by omega) hv
          rw [hfront hs, hfront ht]
          rcases ih hact' with ⟨hs', ht'⟩ | ⟨b, u, b', u', p₁, p₂, hs', ht', hcut, htwo⟩
          · exact .inl ⟨by rw [hs']; rfl, by rw [ht']; rfl⟩
          · refine .inr ⟨d :: b, u, d :: b', u', p₁, p₂, by rw [hs']; rfl, by rw [ht']; rfl,
              ⟨.cons hpiece hcut.before, hcut.behind, hcut.tight, fun hb => ?_,
                hcut.reaches.cons hpiece⟩, htwo⟩
            obtain ⟨rfl, rfl⟩ := hcut.apart hb
            exact absurd ⟨u, (Text.eq_append_of_breakOn? hs').symm⟩
              (not_prefix_replicate (j := j) (by omega) hs)
      · refine hskip (by simpa using Ne.symm hd) (by simpa using Ne.symm hd) hact' fun hb => ?_
        exact absurd (Option.some.inj hb) hd

end Rows

/-! ### Links -/

section Links

variable (hP : ∀ p x y q, P p x y q → KeepsLinks p x y q)

include hP in
/-- **Links correspond** along a path: each text has a first one where the other has, with paths through
what stands before and behind them, or both have none. -/
theorem find?_link (h : Path P p s t q) (hp : p.bracket = some '[' → p.loose = true) :
    (Link.find? s = none ∧ Link.find? t = none) ∨
      ∃ b l u b' l' u' p₁ p₂, Link.find? s = some (b, l, u) ∧ Link.find? t = some (b', l', u') ∧
        Path P p b b' p₁ ∧ Path P p₂ u u' q ∧ Reaches P p p₂ ∧ p₁.bracket ≠ some '[' ∧
        p₂.bracket = some ']' := by
  have hopening : Link.opening false = List.replicate 2 '[' := rfl
  have hclosing (triple : Bool) : Link.closing triple = List.replicate (if triple then 3 else 2) ']' := by
    cases triple <;> rfl
  rcases h.breakOn?_square hP (.inl rfl) (k := 2) (by decide) (.inl rfl) with
    ⟨hs, ht⟩ | ⟨b, u, b', u', p₁, p₂, hs, ht, hcut, htwo⟩
  · left
    rw [Link.find?, Link.find?, hopening, hs, ht]
    exact ⟨rfl, rfl⟩
  have hp₁ : p₁.bracket ≠ some '[' := by
    intro hb
    obtain ⟨rfl, rfl⟩ := hcut.apart hb
    refine (h.head?_ne_of_loose hP (.inl rfl) hb (hp hb) (.inl rfl)).1 ?_
    rw [Text.eq_append_of_breakOn? hs]
    rfl
  -- The brackets that close the link are looked for behind those that open it, two or three.
  have hinner (triple : Bool) {v v' : Text} {p₃ : Spot} (hpath : Path P p₃ v v' q)
      (hreach : Reaches P p p₃) (hlinked : p₃.linked = true)
      (hs : Link.find? s = (Text.breakOn? (Link.closing triple) v).map fun p => (b, ⟨triple, p.1⟩, p.2))
      (ht : Link.find? t = (Text.breakOn? (Link.closing triple) v').map fun p => (b', ⟨triple, p.1⟩, p.2)) :
      (Link.find? s = none ∧ Link.find? t = none) ∨
        ∃ b l u b' l' u' p₁ p₂, Link.find? s = some (b, l, u) ∧ Link.find? t = some (b', l', u') ∧
          Path P p b b' p₁ ∧ Path P p₂ u u' q ∧ Reaches P p p₂ ∧ p₁.bracket ≠ some '[' ∧
        p₂.bracket = some ']' := by
    rw [hclosing] at hs ht
    rcases hpath.breakOn?_square hP (.inr rfl) (k := if triple then 3 else 2) (by split <;> decide)
      (.inr hlinked) with ⟨hv, hv'⟩ | ⟨i, w, i', w', p₄, p₅, hv, hv', hcut', -⟩
    · exact .inl ⟨by rw [hs, hv]; rfl, by rw [ht, hv']; rfl⟩
    · exact .inr ⟨b, ⟨triple, i⟩, w, b', ⟨triple, i'⟩, w', p₁, p₅, by rw [hs, hv]; rfl,
        by rw [ht, hv']; rfl, hcut.before, hcut'.behind, hreach.trans hcut'.reaches, hp₁,
        hcut'.tight.bracket⟩
  have hthree {v w u b : Text} (h : Text.breakOn? (List.replicate 2 '[') v = some (b, w))
      (hthird : Text.after? w ['['] = some u) :
      Link.find? v = (Text.breakOn? (Link.closing true) u).map fun p => (b, ⟨true, p.1⟩, p.2) := by
    simp only [Link.find?, hopening, h, hthird]
  have htwice {v w b : Text} (h : Text.breakOn? (List.replicate 2 '[') v = some (b, w))
      (hthird : Text.after? w ['['] = none) :
      Link.find? v = (Text.breakOn? (Link.closing false) w).map fun p => (b, ⟨false, p.1⟩, p.2) := by
    simp only [Link.find?, hopening, h, hthird]
  rcases hcut.behind.next_square hP (.inl rfl) hcut.tight.bracket hcut.tight.active with
    ⟨depth, v, v', rfl, rfl, hpiece, hbehind⟩ | ⟨hu, hu'⟩
  · have hthird (v : Text) : Text.after? ('[' :: v) ['['] = some v := Text.after?_eq_some.mpr rfl
    exact hinner true hbehind (hcut.reaches.trans ⟨_, _, .single hpiece⟩) (hcut.tight.linked depth)
      (hthree hs (hthird v)) (hthree ht (hthird v'))
  · have hthird {v : Text} (hv : v.head? ≠ some '[') : Text.after? v ['['] = none := by
      rw [Text.after?_eq_none_iff]
      rintro ⟨w, rfl⟩
      exact hv rfl
    exact hinner false hcut.behind hcut.reaches (htwo rfl (by decide)) (htwice hs (hthird hu))
      (htwice ht (hthird hu'))

include hP in
/-- **Of two texts on a path one has no link exactly when the other has none.** -/
theorem noLink_iff (h : Path P p s t q) (hp : p.bracket = some '[' → p.loose = true) :
    Link.find? s = none ↔ Link.find? t = none := by
  rcases h.find?_link hP hp with ⟨hs, ht⟩ | ⟨b, l, u, b', l', u', p₁, p₂, hs, ht, -⟩
  · rw [hs, ht]
  · rw [hs, ht]
    exact iff_of_false (Option.some_ne_none _) (Option.some_ne_none _)

include hP in
/-- Without two brackets in a row that open, a path sets out for no link. -/
private theorem linked_eq_false (h : Path P p s t q) (hlinked : p.linked = false)
    (hp : p.bracket = some '[' → p.loose = false → s.head? ≠ some '[')
    (hnone : ¬ Link.opening false <:+: s) : q.linked = false := by
  induction h with
  | nil => exact hlinked
  | @cons p q r x y s t hpiece hrest ih =>
    have hrest' : ¬ Link.opening false <:+: s := fun hin => hnone (hin.trans (List.suffix_append x s).isInfix)
    cases hP _ _ _ _ hpiece with
    | free hx hy hpass =>
      refine ih ?_ ?_ hrest'
      · rcases hpass with rfl | ⟨-, -, rfl⟩ <;> exact hlinked
      · rcases hpass with rfl | ⟨-, -, rfl⟩ <;> exact fun _ => nofun
    | @square c depth hc hallow =>
      refine ih ?_ ?_ hrest'
      · simp only [Spot.behind, hlinked, Bool.false_or, Bool.and_eq_false_imp, beq_iff_eq]
        rintro rfl
        by_contra hb
        have hb : p.bracket = some '[' := by simpa using hb
        cases hl : p.loose with
        | true => exact hallow ⟨hb, hl, .inl rfl⟩
        | false => exact hp hb hl rfl
      · rintro hb - hs
        obtain rfl : c = '[' := Option.some.inj hb
        obtain ⟨s, rfl⟩ : ∃ s', s = '[' :: s' := by
          cases s with
          | nil => cases hs
          | cons d s => exact ⟨s, by rw [Option.some.inj hs]⟩
        exact hnone (List.prefix_append _ s).isInfix

/-- What the pieces of a path are like when links may be taken out: they keep links, and lead on from an
eased spot and outside of hooks. -/
structure Strips (P : Spot → Text → Text → Spot → Prop) : Prop where
  keeps : ∀ p x y q, P p x y q → KeepsLinks p x y q
  eases : ∀ p x y q p', P p x y q → p'.Eases p → ∃ q' : Spot, q'.Eases q ∧ P p' x y q'
  outside : ∀ p x y q, P p x y q → p.depth = ⊤ → q.depth = ⊤

/-- **Texts on a path are on a path without their links**, where a link is no longer begun in front of
them. -/
theorem strip (hP : Strips P) (h : Path P p s t q) (htop : p.depth = ⊤)
    (hp : p.bracket = some '[' → p.loose = true) {p' : Spot} (he : p'.Eases p) (hlinked : p'.linked = false)
    : ∃ q' : Spot, q'.Eases q ∧ Path P p' (Link.strip s) (Link.strip t) q' := by
  induction hn : s.length using Nat.strongRecOn generalizing s t p p' with
  | ind n ih =>
    subst hn
    rcases h.find?_link hP.keeps hp with
      ⟨hs, ht⟩ | ⟨b, l, u, b', l', u', p₁, p₂, hs, ht, hb, hu, hreach, hp₁, hp₂⟩
    · have hs' : Link.strip s = s := Link.finder.without_cuts_of_eq_none hs
      have ht' : Link.strip t = t := Link.finder.without_cuts_of_eq_none ht
      rw [hs', ht']
      exact h.exists_eases hP.eases he
    · have hs' : Link.strip s = b ++ Link.strip u := Link.finder.without_cuts_of_eq_some hs
      have ht' : Link.strip t = b' ++ Link.strip u' := Link.finder.without_cuts_of_eq_some ht
      obtain ⟨p₁', hp₁', hb'⟩ := hb.exists_eases hP.eases he
      have hfirst := (Link.find?_eq_some_iff.mp hs).1
      have hnone : ¬ Link.opening false <:+: b := fun hin =>
        hfirst.before (hin.trans (List.prefix_append b _).isInfix)
      have hl₁ : p₁'.linked = false := by
        refine hb'.linked_eq_false hP.keeps hlinked (fun hopen _ => ?_) hnone
        have hopen' := (he.opener hopen).1
        exact (hb.head?_ne_of_loose hP.keeps (.inl rfl) hopen' (hp hopen') (.inl rfl)).1
      have hopen₁ : p₁'.bracket ≠ some '[' := fun hopen => hp₁ (hp₁'.opener hopen).1
      have htop₂ : p₂.depth = ⊤ := hreach.spot hP.outside htop
      have hdepth : p₁'.depth = p₂.depth := by
        rw [hp₁'.depth, Reaches.spot hP.outside ⟨_, _, hb⟩ htop, htop₂]
      obtain ⟨q', hq', hu'⟩ := ih u.length (Link.finder.length_lt hs) hu htop₂ (by simp [hp₂])
        (Spot.eases_of_linkless hdepth hopen₁ hl₁) hl₁ rfl
      rw [hs', ht']
      exact ⟨q', hq', hb'.append hu'⟩

end Links

end Path

end Hyperfiction

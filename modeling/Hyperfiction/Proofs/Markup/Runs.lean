import Hyperfiction.Proofs.Markup.Links
import Hyperfiction.Proofs.Markup.Pass
import Hyperfiction.Proofs.Text.Blanks

/-!
# Runs of square brackets

A link stands between square brackets of which two or three touch, so only the longest stretches of two
or more like square brackets of a text have a part in whether there is a link in it. These are its
`bracketRuns`. A text has a link exactly when the first run that opens has one behind it that closes and
is long enough (`Link.isSome_find?_iff`), and characters that are no square brackets may come and go as
long as the runs stay apart (`bracketRuns_append_cons`), as blanks do in the layout (`Link.noLink_normalize`).
A text that is stripped of its links has none (`Link.find?_strip`).
-/

namespace Hyperfiction

/-! ### Runs -/

/-- The character opens or closes a link. -/
def IsSquare (c : Char) : Prop := c = '[' ∨ c = ']'

instance (c : Char) : Decidable (IsSquare c) := inferInstanceAs (Decidable (_ ∨ _))

/-- The longest stretches of like square brackets in a text, in order; single brackets are left out. -/
def bracketRuns : Text → List Text
  | [] => []
  | c :: t =>
    let run := c :: t.takeWhile (· == c)
    let later := bracketRuns (t.dropWhile (· == c))
    if IsSquare c ∧ 2 ≤ run.length then run :: later else later
termination_by t => t.length
decreasing_by exact Nat.lt_succ_of_le (List.dropWhile_suffix _).length_le

theorem bracketRuns_nil : bracketRuns [] = [] := by rw [bracketRuns]

private theorem replicate_split {c : Char} (k : Nat) {t : Text} (h : t.head? ≠ some c) :
    (List.replicate k c ++ t).takeWhile (· == c) = List.replicate k c ∧
      (List.replicate k c ++ t).dropWhile (· == c) = t := by
  have hall : ∀ d ∈ List.replicate k c, (d == c) = true := fun d hd => by
    simp [List.eq_of_mem_replicate hd]
  have htake : t.takeWhile (· == c) = [] ∧ t.dropWhile (· == c) = t := by
    cases t with
    | nil => exact ⟨rfl, rfl⟩
    | cons d t =>
      have hd : (d == c) = false := by simpa using h
      exact ⟨List.takeWhile_cons_of_neg (by simp [hd]), List.dropWhile_cons_of_neg (by simp [hd])⟩
  rw [List.takeWhile_append_of_pos hall, List.dropWhile_append_of_pos hall, htake.1, htake.2,
    List.append_nil]
  exact ⟨rfl, rfl⟩

/-- The runs of a text that begins with a stretch of one character. -/
theorem bracketRuns_replicate_append {c : Char} (k : Nat) {t : Text} (h : t.head? ≠ some c) :
    bracketRuns (List.replicate (k + 1) c ++ t) =
      if IsSquare c ∧ 1 ≤ k then List.replicate (k + 1) c :: bracketRuns t else bracketRuns t := by
  obtain ⟨htake, hdrop⟩ := replicate_split k h
  rw [List.replicate_succ, List.cons_append, bracketRuns, htake, hdrop]
  simp

/-- **Induction over stretches**: a text is empty, or begins with one that what follows does not go on. -/
theorem stretchInduction {P : Text → Prop} (nil : P [])
    (stretch : ∀ c k t, t.head? ≠ some c → P t → P (List.replicate (k + 1) c ++ t)) (t : Text) : P t := by
  induction hn : t.length using Nat.strongRecOn generalizing t with
  | ind n ih =>
    subst hn
    cases t with
    | nil => exact nil
    | cons c t =>
      have hsplit := List.takeWhile_append_dropWhile (p := (· == c)) (l := t)
      have hsame : t.takeWhile (· == c) = List.replicate (t.takeWhile (· == c)).length c :=
        List.eq_replicate_iff.mpr ⟨rfl, fun d hd => by simpa using List.mem_takeWhile_imp hd⟩
      have hhead : (t.dropWhile (· == c)).head? ≠ some c := by
        intro h
        have := List.head?_dropWhile_not (· == c) t
        simp [h] at this
      have hlt : (t.dropWhile (· == c)).length < (c :: t).length :=
        Nat.lt_succ_of_le (List.dropWhile_suffix _).length_le
      have h := stretch c (t.takeWhile (· == c)).length _ hhead (ih _ hlt _ rfl)
      rwa [List.replicate_succ, ← hsame, List.cons_append, hsplit] at h

/-! ### Characters between runs -/

/-- Characters that are no brackets are in no run. -/
private theorem bracketRuns_skip {x : Char} (hx : ¬ IsSquare x) (t : Text) :
    bracketRuns (x :: t) = bracketRuns (t.dropWhile (· == x)) := by
  rw [bracketRuns, if_neg fun h => hx h.1]

/-- A character that is no square bracket is in no run. -/
theorem bracketRuns_cons {x : Char} (hx : ¬ IsSquare x) (t : Text) :
    bracketRuns (x :: t) = bracketRuns t := by
  rw [bracketRuns_skip hx]
  cases t with
  | nil => rfl
  | cons c t =>
    by_cases hc : c = x
    · rw [List.dropWhile_cons_of_pos (by simp [hc]), hc, bracketRuns_skip hx]
    · rw [List.dropWhile_cons_of_neg (by simpa using hc)]

/-- **Runs on the two sides of another character** stay apart. -/
theorem bracketRuns_append_cons {x : Char} (hx : ¬ IsSquare x) (s t : Text) :
    bracketRuns (s ++ x :: t) = bracketRuns s ++ bracketRuns t := by
  induction s using stretchInduction with
  | nil => rw [List.nil_append, bracketRuns_cons hx, bracketRuns_nil, List.nil_append]
  | stretch c k s hs ih =>
    by_cases hc : IsSquare c
    · have hhead : (s ++ x :: t).head? ≠ some c := by
        cases s with
        | nil => exact fun h => hx (Option.some.inj h ▸ hc)
        | cons d s => simpa using hs
      rw [List.append_assoc, bracketRuns_replicate_append k hhead, bracketRuns_replicate_append k hs, ih]
      split <;> rfl
    · -- The stretch and what follows it are then alike in both texts.
      have hskip (u : Text) : bracketRuns (List.replicate (k + 1) c ++ u) = bracketRuns u := by
        induction k + 1 with
        | zero => rfl
        | succ k ihk => rw [List.replicate_succ, List.cons_append, bracketRuns_cons hc, ihk]
      rw [List.append_assoc, hskip, hskip, ih]

private theorem not_isSquare_of_isBlank {c : Char} (h : Text.isBlank c) : ¬ IsSquare c := by
  rintro (rfl | rfl) <;> exact absurd h (by decide)

/-- The runs of brackets do not depend on the blanks between other characters. -/
theorem ignoresBlanks_bracketRuns : Text.IgnoresBlanks bracketRuns where
  nil := bracketRuns_nil
  append_cons := fun hc => bracketRuns_append_cons (not_isSquare_of_isBlank hc)

/-- **Layout leaves the runs of square brackets as they are.** -/
theorem bracketRuns_normalize (t : Text) : bracketRuns (normalize t) = bracketRuns t :=
  ignoresBlanks_bracketRuns.normalize t

/-! ### Brackets in a text -/

/-- Like characters in a row stand in a stretch of them, or behind it. -/
private theorem replicate_infix_iff {c d : Char} {m : Nat} (hm : 0 < m) (k : Nat) {t : Text}
    (h : t.head? ≠ some c) :
    List.replicate m d <:+: List.replicate k c ++ t ↔
      (d = c ∧ m ≤ k) ∨ List.replicate m d <:+: t := by
  induction k with
  | zero =>
    rw [List.replicate_zero, List.nil_append]
    exact ⟨.inr, fun h => h.resolve_left fun h => absurd h.2 (Nat.not_le_of_lt hm)⟩
  | succ k ih =>
    have hprefix : List.replicate m d <+: List.replicate (k + 1) c ++ t ↔ d = c ∧ m ≤ k + 1 := by
      constructor
      · intro hp
        have hd : d = c := by
          obtain ⟨j, rfl⟩ : ∃ j, m = j + 1 := ⟨m - 1, by omega⟩
          exact (List.cons_prefix_cons.mp hp).1
        refine ⟨hd, Nat.le_of_not_lt fun hlt => h ?_⟩
        -- A longer row would go on in what follows the stretch.
        obtain ⟨j, rfl⟩ : ∃ j, m = (k + 1) + (j + 1) := ⟨m - (k + 2), by omega⟩
        rw [hd, List.replicate_add, List.prefix_append_right_inj] at hp
        obtain ⟨v, rfl⟩ := hp
        rfl
      · rintro ⟨rfl, hle⟩
        obtain ⟨j, hj⟩ := Nat.exists_eq_add_of_le hle
        rw [hj, List.replicate_add, List.append_assoc]
        exact List.prefix_append _ _
    rw [List.replicate_succ, List.cons_append, List.infix_cons_iff, ← List.cons_append,
      ← List.replicate_succ, hprefix, ih]
    grind

/-- **Closing brackets in a row** stand in a run that is long enough. -/
theorem closing_infix_iff {m : Nat} (hm : 2 ≤ m) (t : Text) :
    List.replicate m ']' <:+: t ↔ ∃ r ∈ bracketRuns t, r.head? = some ']' ∧ m ≤ r.length := by
  induction t using stretchInduction with
  | nil =>
    rw [bracketRuns_nil, List.infix_nil, List.replicate_eq_nil_iff]
    simp
    omega
  | stretch c k t ht ih =>
    rw [replicate_infix_iff (by omega) (k + 1) ht, bracketRuns_replicate_append k ht, ih]
    split
    · simp
      grind
    · rename_i hrun
      have hnot : ¬ (']' = c ∧ m ≤ k + 1) := fun h => hrun ⟨.inr h.1.symm, by omega⟩
      rw [or_iff_right hnot]

/-! ### Links and runs -/

namespace Link

/-- Runs of brackets make a link when a run behind the first one that opens closes it. -/
def madeBy : List Text → Bool
  | [] => false
  | r :: rs =>
    if r.head? = some '[' then rs.any fun s => s.head? = some ']' && min r.length 3 ≤ s.length
    else madeBy rs

/-- Two brackets at the front stand in the first text, or one in each. -/
private theorem opening_prefix_cases {w s : Text} (hne : w ≠ []) (h : opening false <+: w ++ s) :
    (w = ['['] ∧ s.head? = some '[') ∨ opening false <+: w := by
  obtain ⟨v, hv⟩ := h
  match w, hne with
  | [c], _ =>
    obtain ⟨rfl, hs⟩ := List.cons.inj hv
    exact .inl ⟨rfl, by rw [show s = '[' :: v from hs.symm]; rfl⟩
  | c :: d :: w, _ =>
    obtain ⟨rfl, hrest⟩ := List.cons.inj hv
    obtain ⟨rfl, -⟩ := List.cons.inj hrest
    exact .inr (List.prefix_append _ w)

/-- What stands before the brackets that open the first link can be taken off. -/
theorem find?_append {b s : Text} (h : ∀ w, w <:+ b → w ≠ [] → ¬ opening false <+: w ++ s) :
    find? (b ++ s) = (find? s).map fun p => (b ++ p.1, p.2) := by
  rw [find?, find?, Text.breakOn?_append h]
  cases Text.breakOn? (opening false) s with
  | none => rfl
  | some p =>
    obtain ⟨before, u⟩ := p
    simp only [Option.map_some]
    cases Text.after? u ['['] <;> simp [Function.comp_def]

/-- The first link opens with as many brackets as stand there, three at most. -/
theorem isSome_find?_opening (k : Nat) {t : Text} (h : t.head? ≠ some '[') :
    (find? (List.replicate (k + 2) '[' ++ t)).isSome ↔ List.replicate (min (k + 2) 3) ']' <:+: t := by
  have hbreak (u : Text) : Text.breakOn? (opening false) ('[' :: '[' :: u) = some ([], u) :=
    Text.breakOn?_eq_some_iff.mpr ⟨rfl, fun w hw hne => absurd (List.suffix_nil.mp hw) hne⟩
  rw [find?, List.replicate_succ, List.replicate_succ, List.cons_append, List.cons_append, hbreak]
  cases k with
  | zero =>
    have hafter : Text.after? t ['['] = none := by
      refine Text.after?_eq_none_iff.mpr fun hp => h ?_
      obtain ⟨v, rfl⟩ := hp
      rfl
    simp only [List.replicate_zero, List.nil_append, hafter, Option.isSome_map]
    exact Text.isSome_breakOn?_iff
  | succ k =>
    have hafter : Text.after? (List.replicate (k + 1) '[' ++ t) ['['] =
        some (List.replicate k '[' ++ t) := Text.after?_eq_some.mpr rfl
    have hthree : min (k + 1 + 2) 3 = 3 := Nat.min_eq_right (by omega)
    simp only [hafter, Option.isSome_map, Text.isSome_breakOn?_iff, hthree]
    have hskip := replicate_infix_iff (d := ']') (show 0 < 3 by decide) k h
    exact hskip.trans (or_iff_right fun hc => absurd hc.1 (by decide))

/-- **Whether there is a link in a text** depends on its runs of square brackets alone. -/
theorem isSome_find?_iff (t : Text) : (find? t).isSome ↔ madeBy (bracketRuns t) := by
  induction t using stretchInduction with
  | nil =>
    rw [bracketRuns_nil]
    exact ⟨fun h => absurd h (by decide), fun h => absurd h (by decide)⟩
  | stretch c k t ht ih =>
    rw [bracketRuns_replicate_append k ht]
    by_cases hopen : c = '[' ∧ 1 ≤ k
    · obtain ⟨rfl, hk⟩ := hopen
      obtain ⟨k, rfl⟩ := Nat.exists_eq_add_of_le' hk
      rw [if_pos ⟨.inl rfl, hk⟩, isSome_find?_opening k ht, closing_infix_iff (by omega), madeBy,
        if_pos (by rw [List.replicate_succ, List.head?_cons])]
      simp only [List.any_eq_true, Bool.and_eq_true, decide_eq_true_eq, List.length_replicate]
    · have hbefore : ∀ w, w <:+ List.replicate (k + 1) c → w ≠ [] → ¬ opening false <+: w ++ t := by
        intro w hw hne hp
        have hmem : ∀ d ∈ w, d = c := fun d hd => List.eq_of_mem_replicate (hw.subset hd)
        rcases opening_prefix_cases hne hp with ⟨rfl, hs⟩ | hp
        · exact ht (by rw [hs, hmem '[' List.mem_cons_self])
        · have hlen := hp.length_le.trans hw.length_le
          rw [List.length_replicate] at hlen
          exact hopen ⟨(hmem '[' (hp.subset List.mem_cons_self)).symm, Nat.le_of_succ_le_succ hlen⟩
      have hmade : madeBy (if IsSquare c ∧ 1 ≤ k then List.replicate (k + 1) c :: bracketRuns t
          else bracketRuns t) = madeBy (bracketRuns t) := by
        split
        · rename_i hrun
          have hne : c ≠ '[' := fun hc => hopen ⟨hc, hrun.2⟩
          rw [madeBy, if_neg (by rw [List.replicate_succ, List.head?_cons]; simpa using hne)]
        · rfl
      rw [find?_append hbefore, Option.isSome_map, ih, hmade]

/-- Two brackets open the first link, and none stand before them. -/
private theorem exists_breakOn?_of_find? {t b u : Text} {l : Link} (h : find? t = some (b, l, u)) :
    ∃ v, Text.breakOn? (opening false) t = some (b, v) := by
  rw [find?] at h
  split at h
  · cases h
  · rename_i before v hv
    split at h <;>
    · obtain ⟨p, -, hp⟩ := Option.map_eq_some_iff.mp h
      obtain ⟨rfl, -⟩ := Prod.mk.inj hp
      exact ⟨v, hv⟩

/-- **A text that is stripped of its links** has no link. -/
theorem find?_strip (t : Text) : find? (strip t) = none := by
  induction hn : t.length using Nat.strongRecOn generalizing t with
  | ind n ih =>
    subst hn
    cases h : find? t with
    | none =>
      have hstrip : strip t = t := finder.without_cuts_of_eq_none h
      rw [hstrip, h]
    | some p =>
      obtain ⟨b, l, u⟩ := p
      have hstrip : strip t = b ++ strip u := finder.without_cuts_of_eq_some h
      obtain ⟨v, hv⟩ := exists_breakOn?_of_find? h
      have hbefore : ∀ w, w <:+ b → w ≠ [] → ¬ opening false <+: w ++ strip u := by
        intro w hw hne hp
        refine (Text.breakOn?_eq_some_iff.mp hv).2 w hw hne ?_
        rcases opening_prefix_cases hne hp with ⟨rfl, -⟩ | hp
        · exact ⟨'[' :: v, rfl⟩
        · exact hp.trans (List.prefix_append _ _)
      rw [hstrip, find?_append hbefore, ih u.length (finder.length_lt h) u rfl]
      rfl

/-- Layout neither makes a link nor breaks one. -/
theorem noLink_normalize (t : Text) : find? (normalize t) = none ↔ find? t = none := by
  rw [← Option.not_isSome_iff_eq_none, ← Option.not_isSome_iff_eq_none, isSome_find?_iff, isSome_find?_iff,
    bracketRuns_normalize]

end Link

end Hyperfiction

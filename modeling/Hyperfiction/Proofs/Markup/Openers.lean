import Hyperfiction.Proofs.Markup.Found

/-!
# Openers and what stands behind them

Whether an opener is closed is decided by what stands behind it, and of that only by the depths that it
leads to (`Bracket.closing?_append_eq_none_congr`). Items of a text that are replaced by texts which lead to
the same depths leave it so (`Cuts.depth?_render`): no opener outside of them is closed, or ceases to be.
-/

namespace Hyperfiction

namespace Bracket

/-- Does `P` hold of what stands behind each opener of a text? -/
def AtOpeners (b : Bracket) (P : Text → Prop) (t : Text) : Prop := ∀ x y, t = x ++ b.opener :: y → P y

variable {b : Bracket} {P Q : Text → Prop} {s t u : Text}

/-- A property of what follows each opener, read off the first character. -/
theorem atOpeners_cons_iff {c : Char} : b.AtOpeners P (c :: t) ↔ (c = b.opener → P t) ∧ b.AtOpeners P t := by
  refine ⟨fun h => ⟨fun hc => h [] t (by rw [hc, List.nil_append]), fun x y ht => ?_⟩, ?_⟩
  · exact h (c :: x) y (by rw [ht, List.cons_append])
  · rintro ⟨hfront, hbehind⟩ x y ht
    cases x with
    | nil =>
      obtain ⟨hc, rfl⟩ := List.cons.inj ht
      exact hfront hc
    | cons d x => exact hbehind x y (List.cons.inj ht).2

theorem atOpeners_nil : b.AtOpeners P [] := fun x y h => absurd h.symm (by simp)

/-- The openers of two texts are those of the one, with the other behind it, and those of the other. -/
theorem atOpeners_append_iff :
    b.AtOpeners P (s ++ t) ↔ b.AtOpeners (fun y => P (y ++ t)) s ∧ b.AtOpeners P t := by
  induction s with
  | nil => exact ⟨fun h => ⟨atOpeners_nil, h⟩, And.right⟩
  | cons c s ih => rw [List.cons_append, atOpeners_cons_iff, ih, atOpeners_cons_iff, and_assoc]

theorem AtOpeners.imp (h : b.AtOpeners P t) (himp : ∀ y, P y → Q y) : b.AtOpeners Q t :=
  fun x y ht => himp y (h x y ht)

theorem atOpeners_of_not_mem (h : b.opener ∉ t) : b.AtOpeners P t := by
  rintro x y rfl
  exact absurd (List.mem_append_right x List.mem_cons_self) h

/-- Where two things hold at each opener that cannot hold together, there is none. -/
theorem opener_not_mem (hp : b.AtOpeners P t) (hq : b.AtOpeners Q t) (hnot : ∀ y, P y → ¬ Q y) :
    b.opener ∉ t := by
  intro hmem
  obtain ⟨x, y, ht⟩ := List.append_of_mem hmem
  exact hnot y (hp x y ht) (hq x y ht)

/-! ### Openers that are closed -/

/-- Behind a text, others are alike for an opener of it where they lead to the same depths. -/
theorem closing?_append_eq_none_congr (h : ∀ n, b.depth? n t = b.depth? n u) (n : Nat) (s : Text) :
    b.closing? n (s ++ t) = none ↔ b.closing? n (s ++ u) = none := by
  rw [closing?_eq_none_iff, closing?_eq_none_iff, depth?_append, depth?_append, funext h]

/-- **In a balanced text** each opener is closed. -/
theorem Balanced.atOpeners (h : b.Balanced t) : b.AtOpeners (fun y => (b.closing? 0 y).isSome) t := by
  rintro x y rfl
  by_contra hopen
  rw [Option.not_isSome_iff_eq_none, closing?_eq_none_iff] at hopen
  obtain ⟨k, hk⟩ := Option.isSome_iff_exists.mp hopen
  have hstep (n : Nat) : b.step? n b.opener = some (n + 1) := if_pos rfl
  unfold Balanced at h
  rw [depth?_append] at h
  cases hx : b.depth? 0 x with
  | none => simp [hx] at h
  | some n =>
    -- The opener leads one deeper, and what stands behind it leads back to no less.
    have hdeep := depth?_add hk (n + 1)
    rw [Nat.zero_add] at hdeep
    rw [hx, Option.bind_some, depth?_cons, hstep, Option.bind_some, hdeep] at h
    exact absurd (Option.some.inj h) (by omega)

/-- Where there is nothing to close, nothing closes. -/
theorem closer_not_mem (h : (b.depth? 0 t).isSome) (ho : b.opener ∉ t) : b.closer ∉ t := by
  induction t with
  | nil => exact List.not_mem_nil
  | cons c t ih =>
    rw [List.mem_cons, not_or] at ho
    rw [depth?_cons, step?, if_neg (Ne.symm ho.1)] at h
    by_cases hc : c = b.closer
    · rw [if_pos hc, if_pos rfl] at h
      cases h
    · rw [if_neg hc] at h
      rw [List.mem_cons, not_or]
      exact ⟨Ne.symm hc, ih h ho.2⟩

end Bracket

/-! ### Items replaced -/

namespace Cuts

variable {α : Type} {b : Bracket} {f g : α → Text} {cs : List (Cut α)} {tail : Text}

/-- **Items replaced** by texts that lead to the same depths: so does the whole text. -/
theorem depth?_render (h : ∀ c ∈ cs, ∀ n, b.depth? n (f c.item) = b.depth? n (g c.item)) (n : Nat) :
    b.depth? n (render f cs tail) = b.depth? n (render g cs tail) := by
  induction cs generalizing n with
  | nil => rfl
  | cons c cs ih =>
    have hrest := ih fun d hd => h d (List.mem_cons_of_mem c hd)
    simp only [render, List.append_assoc, Bracket.depth?_append, h c List.mem_cons_self, hrest]

/-- Openers outside of items stay closed when the items are replaced by texts without any. -/
theorem atOpeners_render (h : ∀ c ∈ cs, ∀ n, b.depth? n (f c.item) = b.depth? n (g c.item))
    (hopen : ∀ c ∈ cs, b.opener ∉ g c.item)
    (hclosed : b.AtOpeners (fun y => (b.closing? 0 y).isSome) (render f cs tail)) :
    b.AtOpeners (fun y => (b.closing? 0 y).isSome) (render g cs tail) := by
  induction cs with
  | nil => exact hclosed
  | cons c cs ih =>
    rw [render, List.append_assoc] at hclosed ⊢
    obtain ⟨hbefore, hrest⟩ := Bracket.atOpeners_append_iff.mp hclosed
    have hdepth (n : Nat) : b.depth? n (f c.item ++ render f cs tail) =
        b.depth? n (g c.item ++ render g cs tail) := by
      have hbehind (k : Nat) : b.depth? k (render f cs tail) = b.depth? k (render g cs tail) :=
        depth?_render (fun d hd => h d (List.mem_cons_of_mem c hd)) k
      simp only [Bracket.depth?_append, h c List.mem_cons_self, hbehind]
    refine Bracket.atOpeners_append_iff.mpr ⟨hbefore.imp fun y => ?_, Bracket.atOpeners_append_iff.mpr
      ⟨Bracket.atOpeners_of_not_mem (hopen c List.mem_cons_self), ?_⟩⟩
    · rw [Option.isSome_iff_ne_none, Option.isSome_iff_ne_none]
      exact mt (Bracket.closing?_append_eq_none_congr hdepth 0 y).mpr
    · exact ih (fun d hd => h d (List.mem_cons_of_mem c hd))
        (fun d hd => hopen d (List.mem_cons_of_mem c hd)) (Bracket.atOpeners_append_iff.mp hrest).2

end Cuts

/-! ### Parentheses -/

/-- Is each parenthesis that the text opens closed in it? -/
def Closes (a : Text) : Prop := ∀ u v, a = u ++ '(' :: v → (Bracket.round.closing? 0 v).isSome

namespace Closes

theorem iff_atOpeners {a : Text} :
    Closes a ↔ Bracket.round.AtOpeners (fun y => (Bracket.round.closing? 0 y).isSome) a := Iff.rfl

/-- A text closes what it opens if its first character does and the rest does. -/
theorem cons_iff {c : Char} {t : Text} :
    Closes (c :: t) ↔ (c = '(' → (Bracket.round.closing? 0 t).isSome) ∧ Closes t := by
  rw [iff_atOpeners, Bracket.atOpeners_cons_iff]
  exact Iff.rfl

instance decidable : DecidablePred Closes
  | [] => isTrue fun u v h => by cases u <;> cases h
  | _ :: t =>
    have := Closes.decidable t
    decidable_of_iff _ Closes.cons_iff.symm

theorem of_append {s t : Text} (h : Closes (s ++ t)) : Closes t :=
  (Bracket.atOpeners_append_iff.mp (iff_atOpeners.mp h)).2

/-- A closing parenthesis is in no name, so a text that closes its parentheses is sealed. -/
theorem isSealed {a : Text} (h : Closes a) : Invocation.Sealed a := by
  intro u v ha
  obtain ⟨⟨inside, rest⟩, hclose⟩ := Option.isSome_iff_exists.mp (h u v ha)
  refine ⟨')', ?_, by decide⟩
  rw [Bracket.eq_append_of_closing? hclose]
  exact List.mem_append_right _ List.mem_cons_self

/-- In a text that closes its parentheses every head is completed. -/
theorem exists_read? {t name v : Text} (h : Closes t) (hhead : Invocation.head? t = some (name, v)) :
    ∃ args u, Invocation.read? t = some (⟨name, args⟩, u) := by
  have ht := Invocation.eq_append_of_head? hhead
  -- The name has no parentheses, so the one in front of it closes where the argument ends.
  have hclose := h [] (name ++ [':'] ++ v) (by rw [ht]; simp)
  rw [Bracket.closing?_append (Invocation.depth?_name (Invocation.isName_of_head? hhead)),
    Option.isSome_map] at hclose
  obtain ⟨⟨args, u⟩, hclose⟩ := Option.isSome_iff_exists.mp hclose
  exact ⟨args, u, by simp only [Invocation.read?, hhead, hclose, Option.map_some]⟩

/-- So a search for macros ends where there is no head of them. -/
theorem noHead {a : Text} (h : Closes a) {names : List Text} (hfind : Invocation.find? names a = none) :
    Invocation.NoHead names a := by
  cases hhead : Invocation.findHead? names a with
  | none => exact hhead
  | some p =>
    obtain ⟨before, u⟩ := p
    obtain ⟨-, hany, rfl⟩ := Invocation.findHead?_eq_some_iff.mp hhead
    obtain ⟨⟨name, v⟩, hname, -⟩ := (Option.any_eq_true _ _).mp hany
    obtain ⟨args, rest, hread⟩ := h.of_append.exists_read? hname
    simp [Invocation.find?, hhead, hread] at hfind

end Closes

end Hyperfiction

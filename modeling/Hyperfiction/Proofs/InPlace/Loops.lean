import Hyperfiction.Markup.Cut
import Hyperfiction.Markup.Position
import Hyperfiction.Proofs.InPlace.Basic

/-!
# Passes over a buffer

A pass over a buffer is one of two loops. The first replaces what it finds in the buffer and searches on
behind what it has written (`InPlace.rewrite`); the second leaves the buffer as it is and copies what
stands between its finds into a new one (`InPlace.copying`). Both take a search and a step, and both do
what the passes over the cuts of a text do, as soon as search and step do so wherever the text falls in two
(`InPlace.Rewrites`, `InPlace.Copies`). With that the finds need no bound of their own: a loop that stood
still, or a find that lay out of order, would be a fault.
-/

namespace Hyperfiction

/-- A pass over cuts that writes something for an item, or leaves it as it is. What is written may depend
on the text before the item. -/
def Cuts.copy {α : Type} (source : α → Text) (write : Text → α → Act (Option Text)) :
    Text → List (Cut α) → Text → Act Text
  | _, [], tail => pure tail
  | done, c :: cs, tail => do
    let here := done ++ c.before
    let written ← write here c.item
    let rest ← Cuts.copy source write (here ++ source c.item) cs tail
    pure (c.before ++ written.getD (source c.item) ++ rest)

/-- Where what is written for an item asks for nothing, neither does going over the cuts. -/
theorem Cuts.copy_pure {α : Type} (source f : α → Text) (done : Text) (cs : List (Cut α))
    (tail : Text) :
    Cuts.copy source (fun _ a => pure (some (f a))) done cs tail = pure (Cuts.render f cs tail) := by
  induction cs generalizing done with
  | nil => rfl
  | cons c cs ih =>
    rw [Cuts.copy, pure_bind, ih, pure_bind]
    rfl

theorem Act.sure_pure_bind {α β γ : Type} (x : Act α) (g : α → β) (f : β → GuardedAct γ) :
    Act.sure (x >>= fun a => pure (g a)) >>= f = Act.sure x >>= fun a => f (g a) := rfl

namespace InPlace

variable {α β : Type}

/-! ### Replacing -/

/-- Replaces what is found, at most `limit` times: `handle` gives the text with one find replaced, and the
position to go on from. -/
def rewrite (find : Text → Nat → Guarded (Option β)) (handle : Text → β → GuardedAct (Text × Nat)) :
    Nat → Text → Nat → GuardedAct Text
  | 0, t, start => do
    let _ ← find t start
    return t
  | limit + 1, t, start => do
    match ← find t start with
    | none => return t
    | some found =>
      let (t, next) ← handle t found
      rewrite find handle limit t next

/-- Search and step of a loop do in a text behind any other one what the pass over its cuts does. -/
structure Rewrites (F : Finder α) (f : α → Act Text) (find : Text → Nat → Guarded (Option β))
    (handle : Text → β → GuardedAct (Text × Nat)) : Prop where
  none : ∀ (done : Text) {u : Text}, F.find? u = none → find (done ++ u) (Text.width done) = .ok none
  some : ∀ (done : Text) {u before behind : Text} {a : α}, F.find? u = some (before, a, behind) →
    ∃ found, find (done ++ u) (Text.width done) = .ok (some found) ∧
      handle (done ++ u) found = Act.sure (do
        let written ← f a
        pure (done ++ before ++ written ++ behind, Text.width (done ++ before ++ written)))

/-- **Replacing in the buffer** is replacing item by item. -/
theorem rewrite_eq {F : Finder α} {f : α → Act Text} {find : Text → Nat → Guarded (Option β)}
    {handle : Text → β → GuardedAct (Text × Nat)} (h : Rewrites F f find handle) (limit : Nat)
    (done u : Text) :
    rewrite find handle limit (done ++ u) (Text.width done) = Act.sure (do
      let rest ← Cuts.rewrite F.source f limit (F.cuts u).items (F.cuts u).tail
      pure (done ++ rest)) := by
  induction limit generalizing done u with
  | zero =>
    rw [rewrite, Cuts.rewrite, F.render_cuts]
    cases hfind : F.find? u with
    | none =>
      rw [h.none done hfind]
      rfl
    | some p =>
      obtain ⟨found, hfound, -⟩ := h.some done hfind
      rw [hfound]
      rfl
  | succ limit ih =>
    rw [rewrite]
    cases hfind : F.find? u with
    | none =>
      rw [h.none done hfind, F.cuts_of_find?_eq_none hfind]
      rfl
    | some p =>
      obtain ⟨before, a, behind⟩ := p
      obtain ⟨found, hfound, hhandle⟩ := h.some done hfind
      rw [hfound, F.cuts_of_find?_eq_some hfind, Act.lift_ok_bind]
      simp only [hhandle, Act.sure_pure_bind, ih]
      simp only [Act.sure_bind, Cuts.rewrite, bind_assoc, pure_bind, List.append_assoc]

/-- **The loop from the front** writes what the pass does. -/
theorem rewrite_zero_eq {F : Finder α} {f : α → Act Text} {find : Text → Nat → Guarded (Option β)}
    {handle : Text → β → GuardedAct (Text × Nat)} (h : Rewrites F f find handle) (limit : Nat)
    (t : Text) :
    rewrite find handle limit t 0 =
      Act.sure (Cuts.rewrite F.source f limit (F.cuts t).items (F.cuts t).tail) :=
  rewrite_eq h limit [] t

/-- **Only what is left of the text is searched**: another search does as well that finds the same in every
suffix of it, whatever was written before the suffix. -/
theorem rewrite_congr {F : Finder α} {f : α → Act Text} {find find' : Text → Nat → Guarded (Option β)}
    {handle : Text → β → GuardedAct (Text × Nat)} (h : Rewrites F f find handle) {t : Text}
    (hfind : ∀ done u : Text, u <:+ t →
      find' (done ++ u) (Text.width done) = find (done ++ u) (Text.width done))
    (limit : Nat) (done : Text) {u : Text} (hu : u <:+ t) :
    rewrite find' handle limit (done ++ u) (Text.width done) =
      rewrite find handle limit (done ++ u) (Text.width done) := by
  induction limit generalizing done u with
  | zero => rw [rewrite, rewrite, hfind done u hu]
  | succ limit ih =>
    rw [rewrite, rewrite, hfind done u hu]
    cases hfound : F.find? u with
    | none => simp only [h.none done hfound, Act.lift_ok_bind]
    | some p =>
      obtain ⟨before, a, behind⟩ := p
      obtain ⟨found, hfound', hhandle⟩ := h.some done hfound
      have hbehind : behind <:+ t := by
        refine List.IsSuffix.trans ?_ hu
        rw [F.eq_append hfound, ← List.append_assoc]
        exact List.suffix_append _ _
      rw [hfound', Act.lift_ok_bind, Act.lift_ok_bind]
      simp only [hhandle, Act.sure_pure_bind, ih _ hbehind]

/-! ### Copying -/

/-- Copies the text from `copied` on, with what `write` gives for the finds that it gives something for.
-/
def copying (t : Text) (find : Nat → Guarded (Option (Located β)))
    (write : Located β → GuardedAct (Option Text)) (copied start : Nat) : GuardedAct Text := do
  match ← find start with
  | none => t.suffixFrom copied
  | some found =>
    if _h : start < found.span.stop ∧ found.span.stop ≤ Text.width t then do
      match ← write found with
      | some written =>
        let before ← t.slice copied found.span.start
        let rest ← copying t find write found.span.stop found.span.stop
        return before ++ written ++ rest
      | none => copying t find write copied found.span.stop
    else throw Fault.stuck
termination_by Text.width t - start

/-- Search and step of a loop find in a text, from wherever it falls in two, what the pass over the cuts
finds there. -/
structure Copies (F : Finder α) (g : Text → α → Act (Option Text)) (t : Text)
    (find : Nat → Guarded (Option (Located β))) (write : Located β → GuardedAct (Option Text)) :
    Prop where
  none : ∀ {s u : Text}, t = s ++ u → F.find? u = none → find (Text.width s) = .ok none
  some : ∀ {s u before behind : Text} {a : α}, t = s ++ u → F.find? u = some (before, a, behind) →
    ∃ b, find (Text.width s) = .ok (some ⟨b, ⟨Text.width (s ++ before),
        Text.width (s ++ before ++ F.source a)⟩⟩) ∧
      write ⟨b, ⟨Text.width (s ++ before), Text.width (s ++ before ++ F.source a)⟩⟩ =
        Act.sure (g (s ++ before) a)

/-- **Copying out of the buffer** is going over the cuts. `p` is what is found and left as it is since the
last copy. -/
theorem copying_eq {F : Finder α} {g : Text → α → Act (Option Text)} {t : Text}
    {find : Nat → Guarded (Option (Located β))} {write : Located β → GuardedAct (Option Text)}
    (h : Copies F g t find write) {s p u : Text} (ht : t = s ++ (p ++ u)) :
    copying t find write (Text.width s) (Text.width (s ++ p)) = Act.sure (do
      let rest ← Cuts.copy F.source g (s ++ p) (F.cuts u).items (F.cuts u).tail
      pure (p ++ rest)) := by
  induction hn : u.length using Nat.strongRecOn generalizing s p u with
  | ind n ih =>
    subst hn
    have hsplit : t = s ++ p ++ u := ht.trans (List.append_assoc _ _ _).symm
    rw [copying]
    cases hfind : F.find? u with
    | none =>
      rw [h.none hsplit hfind, F.cuts_of_find?_eq_none hfind, Act.lift_ok_bind]
      simp only [ht, Text.suffixFrom_append]
      rfl
    | some q =>
      obtain ⟨before, a, behind⟩ := q
      obtain ⟨b, hfound, hwrite⟩ := h.some hsplit hfind
      have hu := F.eq_append hfind
      have hlt := F.length_lt hfind
      have hne : 0 < Text.width (F.source a) := by
        rw [Nat.pos_iff_ne_zero]
        exact fun h => F.source_ne_nil hfind (Text.width_eq_zero_iff.mp h)
      have hcheck : Text.width (s ++ p) < Text.width (s ++ p ++ before ++ F.source a) ∧
          Text.width (s ++ p ++ before ++ F.source a) ≤ Text.width t := by
        rw [hsplit, hu]
        simp only [Text.width_append]
        omega
      have hslice : t.slice (Text.width s) (Text.width (s ++ p ++ before)) = .ok (p ++ before) := by
        have htext : s ++ (p ++ before ++ (F.source a ++ behind)) = t := by
          rw [ht, hu]
          simp only [List.append_assoc]
        have hgranted := Text.slice_append s (p ++ before) (F.source a ++ behind)
        rwa [htext, ← Text.width_append, ← List.append_assoc] at hgranted
      have hcopied : t = s ++ p ++ before ++ F.source a ++ ([] ++ behind) := by
        rw [hsplit, hu]
        simp only [List.append_assoc, List.nil_append]
      have hkept : t = s ++ ((p ++ before ++ F.source a) ++ behind) := by
        rw [ht, hu]
        simp only [List.append_assoc]
      rw [hfound, F.cuts_of_find?_eq_some hfind, Act.lift_ok_bind]
      simp only [dif_pos hcheck, hwrite]
      rw [Cuts.copy]
      simp only [bind_assoc, pure_bind, ← Act.sure_bind]
      congr 1
      funext written
      cases written with
      | some written =>
        have hmore := ih behind.length hlt hcopied rfl
        simp only [List.append_nil, List.nil_append] at hmore
        simp only [hslice, Act.lift_ok_bind, hmore]
        simp only [Act.sure_bind, Option.getD_some, List.append_assoc]
        rfl
      | none =>
        have hmore := ih behind.length hlt hkept rfl
        simp only [List.append_assoc] at hmore
        simp only [Act.sure_bind, Option.getD_none, List.append_assoc, hmore]

/-- The loop that copies from the front does so, too. -/
theorem copying_zero_eq {F : Finder α} {g : Text → α → Act (Option Text)} {t : Text}
    {find : Nat → Guarded (Option (Located β))} {write : Located β → GuardedAct (Option Text)}
    (h : Copies F g t find write) :
    copying t find write 0 0 =
      Act.sure (Cuts.copy F.source g [] (F.cuts t).items (F.cuts t).tail) :=
  copying_eq h (show t = [] ++ ([] ++ t) from rfl)

/-- A copy that asks for nothing replaces what is found. -/
theorem copying_pure_eq {F : Finder α} {f : α → Text} {t : Text}
    {find : Nat → Guarded (Option (Located β))} {write : Located β → GuardedAct (Option Text)}
    (h : Copies F (fun _ a => pure (some (f a))) t find write) :
    copying t find write 0 0 = pure (Cuts.render f (F.cuts t).items (F.cuts t).tail) := by
  rw [copying_zero_eq h, Cuts.copy_pure]
  rfl

end InPlace

end Hyperfiction

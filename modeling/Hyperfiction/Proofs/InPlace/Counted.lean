import Hyperfiction.Proofs.InPlace.Sweeps

/-!
# Bodies counted as they are entered

What resolves a body counts how deep it is: one is added when the body is entered, and taken away when it is
left; the text of a body at the limit is not entered. The count is a state that goes through the whole pass,
and in the pass a cap on the heads is counted down. Here both are kept: `CountedAct` is a computation with
the count, and `Counted.reduceChains` the pass over a buffer with it, where `capped` says what is done where
a head is found at the cap. The pass itself leaves the text there, which is `pure`.

The count comes back to what it was (`CountedAct.StaysAt`), so at any depth the pass writes what there is
room for (`reduceAt`); and where the text has no more brackets than the cap has heads, this is so whatever
is done at the cap (`Counted.reduceChains_staysAt`).
-/

namespace Hyperfiction

/-- A guarded computation that counts the bodies it is in. -/
abbrev CountedAct := StateT Nat GuardedAct

/-! ### Computations that come back to their depth -/

namespace CountedAct

variable {α β : Type} {depth : Nat}

/-- A computation one level deeper. -/
def deeper (x : CountedAct α) : CountedAct α := do
  set ((← get) + 1)
  let a ← x
  set (← Guarded.minus (← get) 1)
  return a

/-- At a depth, the counted computation does what the guarded one does, and comes back to that depth. -/
def StaysAt (depth : Nat) (x : CountedAct α) (y : GuardedAct α) : Prop :=
  x.run depth = (fun a => (a, depth)) <$> y

theorem StaysAt.pure (a : α) : StaysAt depth (Pure.pure a) (Pure.pure a) := rfl

theorem StaysAt.lift (y : GuardedAct α) : StaysAt depth (liftM y) y := by
  rw [StaysAt, ← bind_pure_comp]
  rfl

/-- What comes second goes on with what the first computation gives, of which the form may be known. -/
theorem StaysAt.bind {γ : Type} {x : CountedAct γ} {y : GuardedAct α} {g : α → γ}
    {f : γ → CountedAct β} {z : α → GuardedAct β} (h : StaysAt depth x (g <$> y))
    (hf : ∀ a, StaysAt depth (f (g a)) (z a)) : StaysAt depth (x >>= f) (y >>= z) := by
  unfold StaysAt at *
  rw [StateT.run_bind, h, map_bind, bind_map_left, bind_map_left]
  exact bind_congr hf

theorem StaysAt.map {x : CountedAct α} {y : GuardedAct α} (h : StaysAt depth x y) (g : α → β) :
    StaysAt depth (x >>= fun a => Pure.pure (g a)) (g <$> y) := by
  rw [← bind_pure_comp]
  exact StaysAt.bind (g := id) (by rwa [id_map]) fun a => .pure (g a)

/-- The rule for what does not count, and what follows it. -/
theorem StaysAt.lift_bind {y : GuardedAct α} {f : α → CountedAct β} {z : α → GuardedAct β}
    (hf : ∀ a, StaysAt depth (f a) (z a)) : StaysAt depth (liftM y >>= f) (y >>= z) :=
  StaysAt.bind (g := id) (by rw [id_map]; exact .lift y) hf

/-- The depth that is read is the one at which it stays. -/
theorem StaysAt.get {f : Nat → CountedAct α} {y : GuardedAct α} (h : StaysAt depth (f depth) y) :
    StaysAt depth (MonadState.get >>= f) y := h

/-- What is entered is left again. -/
theorem StaysAt.deeper {x : CountedAct α} {y : GuardedAct α} (h : StaysAt (depth + 1) x y) :
    StaysAt depth (deeper x) y := by
  have hleft : ∀ a, ((fun left => (a, left)) <$> monadLift (Guarded.minus (depth + 1) 1) :
      GuardedAct (α × Nat)) = Pure.pure (a, depth) := by
    intro a
    rw [Guarded.minus_eq_ok (by omega)]
    rfl
  unfold StaysAt at *
  simp [CountedAct.deeper, h, hleft]

/-- Two counted computations that do the same at all depths are the same. -/
theorem eq_of_staysAt {x x' : CountedAct α} {y : Nat → GuardedAct α}
    (h : ∀ depth, StaysAt depth x (y depth)) (h' : ∀ depth, StaysAt depth x' (y depth)) : x = x' :=
  StateT.ext fun depth => (h depth).trans (h' depth).symm

@[simp] theorem lift_ok_bind (a : α) (f : α → CountedAct β) :
    ((liftM (Except.ok a : Guarded α) : CountedAct α) >>= f) = f a := rfl

end CountedAct

open CountedAct

/-! ### The pass -/

namespace Counted

/-- What the head at a position becomes, with the span to write it over. -/
def resolve? (w : Setting) (body : Text → CountedAct Text) (t : Text) (start : Nat) :
    CountedAct (Option (Span × Text)) := do
  match ← InPlace.taken? w t start with
  | none => return none
  | some (span, none) => return some (span, [])
  | some (span, some b) => return some (span, ← body b)

/-- Writes what the head at a position becomes. -/
def replaceConditional (w : Setting) (body : Text → CountedAct Text) (t : Text) (start : Nat) :
    CountedAct (Text × Nat) := do
  match ← resolve? w body t start with
  | some (span, written) => do
    let t ← t.replace span.start span.stop written
    return (t, span.start + Text.width written)
  | none => return (t, start + 1)

/-- Replaces heads from a position on, at most `limit` of them. -/
def rewrite (w : Setting) (capped body : Text → CountedAct Text) : Nat → Text → Nat → CountedAct Text
  | 0, t, start => do
    match ← InPlace.findHead? t start Conditional.names with
    | none => return t
    | some _ => capped t
  | limit + 1, t, start => do
    match ← InPlace.findHead? t start Conditional.names with
    | none => return t
    | some found =>
      let (t, next) ← replaceConditional w body t found
      rewrite w capped body limit t next

/-- What a body becomes that is taken at the depth `above`, where the bodies around it are counted. A count
that has come below that since would be a fault; that it has not is what bounds the recursion. -/
def reduceBody (w : Setting) (capped : Text → CountedAct Text) (above : Nat) (t : Text) :
    CountedAct Text := do
  let depth ← get
  if _hroom : depth < w.limits.maxDepth then
    if _hdeeper : above ≤ depth then
      deeper do
        let reduced ← rewrite w capped (fun b => reduceBody w capped (depth + 1) b)
          w.limits.maxReductions t 0
        let run ← InPlace.runSets w.words reduced
        InPlace.resolvePrints w run
    else throw .stuck
  else return t
termination_by w.limits.maxDepth - above

/-- The text with its chains and guards resolved. -/
def reduceChains (w : Setting) (capped : Text → CountedAct Text) (t : Text) : CountedAct Text := do
  let depth ← get
  rewrite w capped (reduceBody w capped depth) w.limits.maxReductions t 0

/-! ### What the pass writes -/

/-- The text with its chains and guards resolved at a depth: there is room for the levels that the limit
leaves. -/
def reduceAt (w : Setting) (depth : Nat) (t : Text) : Act Text :=
  reduceWith w (Hyperfiction.reduceBody w (w.limits.maxDepth - depth)) t

/-- Outside all bodies it is the pass of a passage. -/
theorem reduceAt_zero (w : Setting) : reduceAt w 0 = Hyperfiction.reduceChains w := rfl

/-- What is done at the cap does not matter: it is to leave the text, or there are no more brackets that
could begin a head than the cap has heads. -/
def Uncapped (capped : Text → CountedAct Text) (limit : Nat) (t : Text) : Prop :=
  capped = pure ∨ t.count '(' ≤ limit

variable {w : Setting} {capped bodyAt : Text → CountedAct Text} {body : Text → Act Text}
  {depth limit : Nat} {u before behind : Text} {k : Conditional}

/-- What is not capped in a text is not capped in a part of it. -/
theorem Uncapped.of_infix {s t : Text} (h : Uncapped capped limit t) (hs : s <:+: t) :
    Uncapped capped limit s :=
  h.imp_right (hs.sublist.count_le '(').trans

theorem infix_of_mem_bodies {b : Text} (h : b ∈ k.bodies) : b <:+: k.source := by
  have hhook : ∀ hook : Hook, hook.body <:+: hook.source := fun hook =>
    ⟨hook.gap ++ ['['], [']'], by simp [Hook.source]⟩
  cases k with
  | chain c =>
    obtain ⟨branch, hbranch, rfl⟩ := List.mem_map.mp h
    have hsource : branch.source <:+: c.source := by
      rw [Chain.source, List.flatMap_def]
      exact List.infix_of_mem_flatten (List.mem_map_of_mem hbranch)
    exact ((hhook branch.hook).trans (List.suffix_append _ _).isInfix).trans hsource
  | guard g =>
    obtain rfl := List.mem_singleton.mp h
    exact (hhook g.hook).trans (List.suffix_append _ _).isInfix
  | stray => cases h

/-- A head that is found has a bracket, and what follows it one less. -/
theorem count_lt_of_find? (h : Conditional.find? u = some (before, k, behind)) :
    behind.count '(' < u.count '(' := by
  obtain ⟨-, v, rfl, hv, hofHead⟩ := InPlace.findHead?_of_find?_eq_some h []
  have hsource : k.source ++ behind = v := by simpa only [hofHead] using Conditional.ofHead_append hv
  obtain ⟨c, rest, hk⟩ := List.exists_cons_of_ne_nil k.source_ne_nil
  rw [← hsource, hk] at hv
  obtain rfl : c = '(' := Option.some.inj hv
  rw [← hsource, hk, List.cons_append, List.count_append, List.count_cons_self, List.count_append]
  omega

theorem resolve?_of_stray (h : Conditional.find? u = some (before, .stray, behind)) (done : Text) :
    resolve? w bodyAt (done ++ u) (Text.width (done ++ before)) = pure none := by
  obtain ⟨-, v, rfl, -, hk⟩ := InPlace.findHead?_of_find?_eq_some h done
  have htaken := InPlace.taken?_append (w := w) (done ++ before) v
  rw [hk, List.append_assoc] at htaken
  rw [resolve?, htaken]
  rfl

/-- **A chain or guard is resolved at a depth** as its body is. -/
theorem resolve?_staysAt (hk : k ≠ .stray) (h : Conditional.find? u = some (before, k, behind))
    (hbody : ∀ b ∈ k.bodies, StaysAt depth (bodyAt b) (Act.sure (body b))) (done : Text) :
    StaysAt depth (resolve? w bodyAt (done ++ u) (Text.width (done ++ before)))
      ((fun written => some (⟨Text.width (done ++ before),
        Text.width (done ++ before) + Text.width k.source⟩, written)) <$>
          Act.sure (k.resolve w body)) := by
  obtain ⟨-, v, rfl, -, hofHead⟩ := InPlace.findHead?_of_find?_eq_some h done
  have htaken := InPlace.taken?_append (w := w) (done ++ before) v
  rw [hofHead, List.append_assoc] at htaken
  have hchosen : InPlace.taken? w (done ++ (before ++ v)) (Text.width (done ++ before)) =
      Act.sure (k.chosen w) >>= fun i => pure (some (⟨Text.width (done ++ before),
        Text.width (done ++ before) + Text.width k.source⟩, i.bind fun i => k.bodies[i]?)) := by
    rw [htaken]
    cases k with
    | chain c => rfl
    | guard g => rfl
    | stray => exact absurd rfl hk
  rw [resolve?, hchosen, liftM_bind, bind_assoc, Conditional.resolve_eq_of_chosen w body hk,
    ← Act.sure_bind, map_bind]
  refine StaysAt.lift_bind fun i => ?_
  cases hi : i.bind fun i => k.bodies[i]? with
  | none => exact .pure _
  | some b =>
    obtain ⟨j, -, hj⟩ := Option.bind_eq_some_iff.mp hi
    simp only [liftM_pure, pure_bind]
    exact (hbody b (List.mem_of_getElem? hj)).map _

/-- What a head becomes is written over it. -/
theorem replaceConditional_staysAt (h : Conditional.find? u = some (before, k, behind))
    (hbody : ∀ b ∈ k.bodies, StaysAt depth (bodyAt b) (Act.sure (body b))) (done : Text) :
    StaysAt depth (replaceConditional w bodyAt (done ++ u) (Text.width (done ++ before)))
      ((fun written => (done ++ before ++ written ++ behind, Text.width (done ++ before ++ written))) <$>
        Act.sure (k.resolve w body)) := by
  have hu : done ++ before ++ (k.source ++ behind) = done ++ u := by
    rw [List.append_assoc, ← Conditional.eq_append_of_find? h]
  by_cases hk : k = .stray
  · subst hk
    rw [replaceConditional, resolve?_of_stray h, ← hu]
    simp only [pure_bind, Conditional.resolve, Conditional.source, Text.width_append, List.append_assoc]
    exact .pure _
  · have hreplace := Text.replace_append (done ++ before) k.source behind
    rw [hu, ← Text.width_append] at hreplace
    rw [replaceConditional, ← bind_pure_comp]
    refine (resolve?_staysAt hk h hbody done).bind fun written => ?_
    simp only [hreplace, CountedAct.lift_ok_bind, ← Text.width_append]
    exact .pure _

/-- **The pass over a buffer stays at its depth**, and writes what the pass over the text does: of the buffer,
`done` is written and `u` still to be read. -/
theorem rewrite_staysAt (hcap : Uncapped capped limit u)
    (hbody : ∀ b, b <:+: u → StaysAt depth (bodyAt b) (Act.sure (body b))) (done : Text) :
    StaysAt depth (rewrite w capped bodyAt limit (done ++ u) (Text.width done)) (Act.sure do
      let rest ← Conditional.finder.pass (Conditional.resolve w body) limit u
      pure (done ++ rest)) := by
  induction limit generalizing u done with
  | zero =>
    rw [rewrite, Finder.pass_zero, pure_bind]
    cases hfind : Conditional.find? u with
    | none =>
      rw [InPlace.findHead?_of_find?_eq_none hfind]
      exact .pure _
    | some p =>
      obtain ⟨before, k, behind⟩ := p
      -- A head is left, so the cap is the one that leaves the text.
      have hlt := count_lt_of_find? hfind
      obtain rfl | hle := hcap
      · rw [(InPlace.findHead?_of_find?_eq_some hfind done).1]
        exact .pure _
      · omega
  | succ limit ih =>
    rw [rewrite]
    cases hfind : Conditional.find? u with
    | none =>
      rw [InPlace.findHead?_of_find?_eq_none hfind, Finder.pass_of_eq_none _ _ hfind]
      exact .pure _
    | some p =>
      obtain ⟨before, k, behind⟩ := p
      have hu := Conditional.eq_append_of_find? hfind
      have hsource : k.source <:+: u := ⟨before, behind, by rw [hu, List.append_assoc]⟩
      have hbehind : behind <:+: u := ⟨before ++ k.source, [], by rw [hu]; simp⟩
      have hrest : Uncapped capped limit behind := by
        refine hcap.imp_right fun hle => ?_
        have := count_lt_of_find? hfind
        omega
      have hpass : (Act.sure do
          let rest ← Conditional.finder.pass (Conditional.resolve w body) (limit + 1) u
          pure (done ++ rest)) = Act.sure (k.resolve w body) >>= fun written => Act.sure (do
            let rest ← Conditional.finder.pass (Conditional.resolve w body) limit behind
            pure (done ++ before ++ written ++ rest)) := by
        rw [Finder.pass_of_eq_some _ _ hfind]
        simp only [bind_assoc, pure_bind, Act.sure_bind, List.append_assoc]
      rw [(InPlace.findHead?_of_find?_eq_some hfind done).1, CountedAct.lift_ok_bind, hpass]
      refine (replaceConditional_staysAt hfind (fun b hb => hbody b ?_) done).bind fun written => ?_
      · exact (infix_of_mem_bodies hb).trans hsource
      · exact ih hrest (fun b hb => hbody b (hb.trans hbehind)) (done ++ before ++ written)

/-- A body comes back to the depth at which it is taken. -/
theorem reduceBody_staysAt {t : Text} (hcap : Uncapped capped w.limits.maxReductions t) {above : Nat}
    (habove : above ≤ depth) :
    StaysAt depth (reduceBody w capped above t)
      (Act.sure (Hyperfiction.reduceBody w (w.limits.maxDepth - depth) t)) := by
  -- One level deeper there is room for one level less, so the induction is on the room.
  generalize hroom : w.limits.maxDepth - depth = room
  induction room generalizing depth above t with
  | zero =>
    rw [reduceBody]
    refine StaysAt.get ?_
    rw [dif_neg (by omega)]
    exact .pure t
  | succ room ih =>
    rw [reduceBody]
    refine StaysAt.get ?_
    rw [dif_pos (by omega), dif_pos habove, Hyperfiction.reduceBody]
    refine StaysAt.deeper ?_
    have hpass := rewrite_staysAt (w := w) hcap (fun b hb =>
      ih (hcap.of_infix hb) (le_refl (depth + 1)) (by omega)) []
    simp only [List.nil_append, bind_pure] at hpass
    -- Chains and guards first, then assignments, then prints: only the first enter bodies.
    rw [← Act.sure_bind]
    refine StaysAt.bind (g := id) ?_ fun reduced => ?_
    · rw [id_map]
      exact hpass
    rw [InPlace.runSets_eq, ← Act.sure_bind]
    refine StaysAt.lift_bind fun run => ?_
    rw [InPlace.resolvePrints_eq]
    exact .lift _

/-- **The pass comes back to its depth**, at which no range is refused, and writes what there is room for
there; what is done at the cap does not matter where there are enough heads to it. -/
theorem reduceChains_staysAt (w : Setting) {t : Text} (hcap : Uncapped capped w.limits.maxReductions t)
    (depth : Nat) :
    StaysAt depth (reduceChains w capped t) (Act.sure (reduceAt w depth t)) := by
  have hpass := rewrite_staysAt (w := w) hcap
    (fun b hb => reduceBody_staysAt (hcap.of_infix hb) (le_refl depth)) []
  simp only [List.nil_append, bind_pure] at hpass
  rw [reduceChains]
  exact StaysAt.get hpass

/-- The pass that leaves the text at the cap writes what there is room for, whatever the cap is. -/
theorem reduceChains_pure_staysAt (w : Setting) (t : Text) (depth : Nat) :
    StaysAt depth (reduceChains w pure t) (Act.sure (reduceAt w depth t)) :=
  reduceChains_staysAt w (.inl rfl) depth

/-- Where no body has been entered, the pass is the one of a passage. -/
theorem reduceChains_zero_staysAt (w : Setting) (t : Text) :
    StaysAt 0 (reduceChains w pure t) (Act.sure (Hyperfiction.reduceChains w t)) := by
  rw [← reduceAt_zero]
  exact reduceChains_pure_staysAt w t 0

end Counted

end Hyperfiction

import Hyperfiction.Proofs.Markup.Search
import Hyperfiction.Render.Passage

/-!
# Passes over a text, step by step

A pass cuts a text at the items of a finder and writes something for each, up to a limit. `Finder.pass`
says so for any finder, and its equations follow the text instead of the list of its cuts: nothing
happens without an item (`pass_of_eq_none`), the first item is handled and the pass goes on behind it
(`pass_of_eq_some`), and a text in which no item is found is passed over (`pass_append`). A limit that is
large enough for a text may be any larger one (`pass_succ`). All passes of a passage are instances, but for
the one that runs assignments, which keeps count of square brackets and so has equations of its own
(`runSetsAt_append`, `runSetsAt_set`).
-/

namespace Hyperfiction

namespace Finder

variable {α : Type} (F : Finder α) {m : Type → Type} [Monad m] (f : α → m Text)

/-- The text with its first `limit` items replaced by what `f` writes for them. -/
def pass (limit : Nat) (t : Text) : m Text :=
  Cuts.rewrite F.source f limit (F.cuts t).items (F.cuts t).tail

/-- A pass without passes left changes nothing. -/
theorem pass_zero (t : Text) : F.pass f 0 t = pure t := by
  rw [pass, Cuts.rewrite, F.render_cuts]

/-- A pass that finds nothing changes nothing. -/
theorem pass_of_eq_none {t : Text} (h : F.find? t = none) (limit : Nat) :
    F.pass f limit t = pure t := by
  cases limit with
  | zero => exact F.pass_zero f t
  | succ limit =>
    rw [pass, F.cuts_of_find?_eq_none h]
    rfl

/-- **A step of a pass**: what is found is replaced, and the pass goes on behind it. -/
theorem pass_of_eq_some {t b u : Text} {a : α} (h : F.find? t = some (b, a, u)) (limit : Nat) :
    F.pass f (limit + 1) t = (do
      let x ← f a
      let rest ← F.pass f limit u
      pure (b ++ x ++ rest)) := by
  rw [pass, F.cuts_of_find?_eq_some h]
  rfl

/-- A limit that a text is not larger than is as good as a greater one, where behind an item the text is
smaller. -/
theorem pass_succ {size : Text → Nat}
    (hsize : ∀ {t b u : Text} {a : α}, F.find? t = some (b, a, u) → size u < size t) {limit : Nat}
    {t : Text} (h : size t ≤ limit) : F.pass f (limit + 1) t = F.pass f limit t := by
  induction limit generalizing t with
  | zero =>
    have hnone : F.find? t = none := by
      by_contra hfind
      obtain ⟨⟨b, a, u⟩, hp⟩ := Option.ne_none_iff_exists'.mp hfind
      have := hsize hp
      omega
    rw [F.pass_of_eq_none f hnone, F.pass_of_eq_none f hnone]
  | succ limit ih =>
    cases hfind : F.find? t with
    | none => rw [F.pass_of_eq_none f hfind, F.pass_of_eq_none f hfind]
    | some p =>
      obtain ⟨b, a, u⟩ := p
      have hlt := hsize hfind
      rw [F.pass_of_eq_some f hfind, F.pass_of_eq_some f hfind, ih (by omega)]

/-- **A text in which no item is found is passed over.** -/
theorem pass_append [LawfulMonad m] {a t : Text}
    (h : F.find? (a ++ t) = (F.find? t).map fun p => (a ++ p.1, p.2)) (limit : Nat) :
    F.pass f limit (a ++ t) = (do
      let rest ← F.pass f limit t
      pure (a ++ rest)) := by
  cases limit with
  | zero => simp [pass_zero]
  | succ limit =>
    cases ht : F.find? t with
    | none =>
      rw [ht] at h
      simp [F.pass_of_eq_none f h, F.pass_of_eq_none f ht]
    | some p =>
      obtain ⟨b, x, u⟩ := p
      rw [ht] at h
      simp [F.pass_of_eq_some f h, F.pass_of_eq_some f ht]

/-- The text without its items is the text itself when there are none. -/
theorem without_cuts_of_eq_none {t : Text} (h : F.find? t = none) : (F.cuts t).without = t := by
  rw [F.cuts_of_find?_eq_none h]
  rfl

/-- What is left without the cuts, from the first of them on. -/
theorem without_cuts_of_eq_some {t b u : Text} {a : α} (h : F.find? t = some (b, a, u)) :
    (F.cuts t).without = b ++ (F.cuts u).without := by
  rw [F.cuts_of_find?_eq_some h, Cuts.without, Cuts.render, List.append_nil]
  rfl

/-- A text in which no item is found stays as it is in front of others. -/
theorem without_cuts_append {a t : Text}
    (h : F.find? (a ++ t) = (F.find? t).map fun p => (a ++ p.1, p.2)) :
    (F.cuts (a ++ t)).without = a ++ (F.cuts t).without := by
  cases ht : F.find? t with
  | none =>
    rw [ht] at h
    rw [F.without_cuts_of_eq_none h, F.without_cuts_of_eq_none ht]
  | some p =>
    obtain ⟨b, x, u⟩ := p
    rw [ht] at h
    rw [F.without_cuts_of_eq_some h, F.without_cuts_of_eq_some ht, List.append_assoc]

theorem found_cuts_of_eq_none {t : Text} (h : F.find? t = none) : (F.cuts t).found = [] := by
  rw [F.cuts_of_find?_eq_none h]
  rfl

/-- What is left without items is the text with stretches taken out. -/
theorem without_cuts_sublist (t : Text) : (F.cuts t).without.Sublist t := by
  conv => arg 2; rw [← F.render_cuts t]
  rw [Cuts.without]
  induction (F.cuts t).items with
  | nil => exact List.Sublist.refl _
  | cons c cs ih => exact ((List.Sublist.refl c.before).append (List.nil_sublist _)).append ih

/-- **Only without items** does a text stay as it is without its items. -/
theorem without_cuts_eq_self_iff {t : Text} : (F.cuts t).without = t ↔ F.find? t = none := by
  refine ⟨fun h => ?_, F.without_cuts_of_eq_none⟩
  cases hfind : F.find? t with
  | none => rfl
  | some p =>
    obtain ⟨b, a, u⟩ := p
    have ht := F.eq_append hfind
    rw [← h, F.without_cuts_of_eq_some hfind, List.append_cancel_left_eq] at ht
    have hle := (F.without_cuts_sublist u).length_le
    have hpos := List.length_pos_iff.mpr (F.source_ne_nil hfind)
    rw [ht, List.length_append] at hle
    omega

/-- What holds of every first item holds of all. -/
theorem forall_mem_cuts {P : Cut α → Prop} (h : ∀ {t b a u}, F.find? t = some (b, a, u) → P ⟨b, a⟩)
    (t : Text) : ∀ c ∈ (F.cuts t).items, P c := by
  induction hn : t.length using Nat.strongRecOn generalizing t with
  | ind n ih =>
    subst hn
    cases hfind : F.find? t with
    | none =>
      rw [F.cuts_of_find?_eq_none hfind]
      exact nofun
    | some p =>
      rw [F.cuts_of_find?_eq_some hfind]
      exact List.forall_mem_cons.mpr ⟨h hfind, ih _ (F.length_lt hfind) _ rfl⟩

end Finder

/-! ### The passes of a passage -/

theorem reduceWith_eq_pass (w : Setting) (body : Text → Act Text) (t : Text) :
    reduceWith w body t =
      Conditional.finder.pass (Conditional.resolve w body) w.limits.maxReductions t :=
  rfl

theorem resolvePrints_eq_pass (w : Setting) (t : Text) :
    resolvePrints w t =
      (Invocation.finder printNames).pass (printMacro w) w.limits.maxReductions t :=
  rfl

theorem removeOrphans_eq_pass (limit : Nat) (t : Text) :
    removeOrphans limit t = Id.run (Orphan.finder.pass (fun _ => pure []) limit t) :=
  rfl

theorem Orphan.find?_eq_none_iff {t : Text} :
    Orphan.finder.find? t = none ↔ Invocation.find? Orphan.names t = none := Option.map_eq_none_iff

theorem Orphan.find?_eq_none {t : Text} (h : Invocation.NoHead Orphan.names t) :
    Orphan.find? t = none :=
  Orphan.find?_eq_none_iff.mpr (Invocation.find?_eq_none h)

/-- An orphan is found where its macro is. -/
theorem Orphan.exists_find? {t b u : Text} {o : Orphan} (h : Orphan.finder.find? t = some (b, o, u)) :
    ∃ v, Invocation.find? Orphan.names t = some (b, o.call, v) := by
  obtain ⟨⟨before, m, v⟩, hfind, hp⟩ := Option.map_eq_some_iff.mp h
  refine ⟨v, ?_⟩
  simp only at hp
  split at hp <;>
  · obtain ⟨rfl, rfl, -⟩ := hp
    exact hfind

/-- A text in which no assignment begins has none to take out. -/
theorem stripSets_of_noHead {t : Text} (h : Invocation.NoHead setNames t) : stripSets t = t :=
  Finder.without_cuts_of_eq_none (Invocation.finder setNames) (Invocation.find?_eq_none h)

/-- Nothing is taken out in front of the first assignment. -/
theorem stripSets_append {s : Text} (hs : Invocation.Sealed s) (h : Invocation.NoHead setNames s) (t : Text) :
    stripSets (s ++ t) = s ++ stripSets t :=
  Finder.without_cuts_append (Invocation.finder setNames) (Invocation.find?_append (.inl hs) h)

/-- An assignment that is left over leaves nothing. -/
theorem stripSets_source_append {m : Invocation} (hm : m.Readable) (hn : Invocation.isNamed setNames m.name)
    (t : Text) : stripSets (m.source ++ t) = stripSets t :=
  Finder.without_cuts_of_eq_some (Invocation.finder setNames) (Invocation.find?_source_append hm hn t)

theorem stripSets_nil : stripSets [] = [] := stripSets_of_noHead (Invocation.noHead_nil setNames)

theorem stripSets_source {m : Invocation} (hm : m.Readable) (hn : Invocation.isNamed setNames m.name) :
    stripSets m.source = [] := by
  have hfront := stripSets_source_append hm hn []
  rwa [List.append_nil, stripSets_nil] at hfront

theorem resolvePrints_of_noHead {t : Text} (h : Invocation.NoHead printNames t) (w : Setting) :
    resolvePrints w t = pure t :=
  Finder.pass_of_eq_none (Invocation.finder printNames) (printMacro w)
    (Invocation.find?_eq_none h) _

/-! ### Assignments outside square brackets -/

namespace Bracket

variable {b : Bracket}

theorem depthAfter_append (n : Nat) (s t : Text) :
    b.depthAfter n (s ++ t) = b.depthAfter (b.depthAfter n s) t := by
  simp [depthAfter]

/-- Where no closer stands at depth 0 the two ways to count agree. -/
theorem depthAfter_of_depth? {n k : Nat} {t : Text} (h : b.depth? n t = some k) :
    b.depthAfter n t = k := by
  induction t generalizing n with
  | nil => simpa [depth?, depthAfter] using h
  | cons c t ih =>
    rw [depth?_cons] at h
    cases hs : b.step? n c with
    | none => simp [hs] at h
    | some j =>
      rw [hs] at h
      have hstep : b.depthAfter n (c :: t) = b.depthAfter j t := by simp [depthAfter, hs]
      rw [hstep]
      exact ih h

theorem depthAfter_of_not_mem {t : Text} (ho : b.opener ∉ t) (hc : b.closer ∉ t) (n : Nat) :
    b.depthAfter n t = n :=
  depthAfter_of_depth? (depth?_of_not_mem ho hc n)

end Bracket

/-- Runs the assignments of a text that stand outside square brackets, at a depth of brackets in front
of it, and writes the text without them. -/
def runSetsAt (words : Words) (depth : Nat) (t : Text) : Act Text :=
  let cs := (Invocation.finder setNames).cuts t
  runSetsFrom words depth cs.items cs.tail

theorem runSets_eq_runSetsAt (words : Words) (t : Text) : runSets words t = runSetsAt words 0 t := rfl

theorem runSetsAt_of_eq_none {t : Text} (h : Invocation.find? setNames t = none) (words : Words)
    (depth : Nat) : runSetsAt words depth t = pure t := by
  rw [runSetsAt, (Invocation.finder setNames).cuts_of_find?_eq_none h]
  rfl

theorem runSets_of_noHead {t : Text} (h : Invocation.NoHead setNames t) (words : Words) :
    runSets words t = pure t :=
  runSetsAt_of_eq_none (Invocation.find?_eq_none h) words 0

/-- **A step of running assignments**: the first runs if it stands outside of all brackets. -/
theorem runSetsAt_of_eq_some {t b u : Text} {m : Invocation}
    (h : Invocation.find? setNames t = some (b, m, u)) (words : Words) (depth : Nat) :
    runSetsAt words depth t =
      let here := Bracket.square.depthAfter depth b
      let behind := Bracket.square.depthAfter here m.source
      if here = 0 then (do
        Assignment.runText words m.args
        let rest ← runSetsAt words behind u
        pure (b ++ rest))
      else (do
        let rest ← runSetsAt words behind u
        pure (b ++ m.source ++ rest)) := by
  rw [runSetsAt, (Invocation.finder setNames).cuts_of_find?_eq_some h]
  rfl

/-- **A text without assignments is passed over**, and its brackets are counted. -/
theorem runSetsAt_append {a t : Text} (ha : Invocation.Apart a t)
    (h : Invocation.NoHead setNames a) (words : Words) (depth : Nat) :
    runSetsAt words depth (a ++ t) = (do
      let rest ← runSetsAt words (Bracket.square.depthAfter depth a) t
      pure (a ++ rest)) := by
  have hfind := Invocation.find?_append ha h
  cases ht : Invocation.find? setNames t with
  | none =>
    rw [ht] at hfind
    simp [runSetsAt_of_eq_none hfind, runSetsAt_of_eq_none ht]
  | some p =>
    obtain ⟨b, m, u⟩ := p
    rw [ht] at hfind
    rw [runSetsAt_of_eq_some hfind, runSetsAt_of_eq_some ht]
    simp only [Bracket.depthAfter_append]
    split <;> simp

/-- An assignment outside all brackets runs and is not written. -/
theorem runSetsAt_set {m : Invocation} (hm : m.Readable) (hn : Invocation.isNamed setNames m.name)
    (words : Words) (t : Text) :
    runSetsAt words 0 (m.source ++ t) = (do
      Assignment.runText words m.args
      runSetsAt words (Bracket.square.depthAfter 0 m.source) t) := by
  rw [runSetsAt_of_eq_some (Invocation.find?_source_append hm hn t)]
  simp [Bracket.depthAfter]

/-- An assignment in brackets is text. -/
theorem runSetsAt_set_inside {m : Invocation} (hm : m.Readable)
    (hn : Invocation.isNamed setNames m.name) (words : Words) (depth : Nat) (t : Text) :
    runSetsAt words (depth + 1) (m.source ++ t) = (do
      let rest ← runSetsAt words (Bracket.square.depthAfter (depth + 1) m.source) t
      pure (m.source ++ rest)) := by
  rw [runSetsAt_of_eq_some (Invocation.find?_source_append hm hn t)]
  simp [Bracket.depthAfter]

/-- The assignments of a text are not run at a depth of brackets, and what follows it is at the same
depth. -/
def SkipsSets (words : Words) (depth : Nat) (a : Text) : Prop :=
  ∀ t, runSetsAt words depth (a ++ t) = (do
    let rest ← runSetsAt words depth t
    pure (a ++ rest))

theorem SkipsSets.nil (words : Words) (depth : Nat) : SkipsSets words depth [] := by
  intro t
  simp

/-- Texts that are passed over one by one are so together. -/
theorem SkipsSets.append {words : Words} {depth : Nat} {a b : Text} (ha : SkipsSets words depth a)
    (hb : SkipsSets words depth b) : SkipsSets words depth (a ++ b) := by
  intro t
  rw [List.append_assoc, ha (b ++ t), hb t]
  simp

/-- A text in which no assignment begins is passed over. -/
theorem skipsSets_of_noHead {a : Text} (hs : Invocation.Sealed a)
    (hn : Invocation.NoHead setNames a) (ho : '[' ∉ a) (hc : ']' ∉ a) (words : Words)
    (depth : Nat) : SkipsSets words depth a := by
  intro t
  have hdepth : Bracket.square.depthAfter depth a = depth :=
    Bracket.depthAfter_of_not_mem ho hc depth
  rw [runSetsAt_append (.inl hs) hn, hdepth]

theorem skipsSets_set {m : Invocation} (hm : m.Readable)
    (hn : Invocation.isNamed setNames m.name) (ho : '[' ∉ m.source) (hc : ']' ∉ m.source)
    (words : Words) (depth : Nat) : SkipsSets words (depth + 1) m.source := by
  intro t
  have hdepth : Bracket.square.depthAfter (depth + 1) m.source = depth + 1 :=
    Bracket.depthAfter_of_not_mem ho hc (depth + 1)
  rw [runSetsAt_set_inside hm hn, hdepth]

/-- What is skipped outside all brackets is written before the rest. -/
theorem SkipsSets.runSets_append {words : Words} {a : Text} (h : SkipsSets words 0 a) (t : Text) :
    runSets words (a ++ t) = (do
      let rest ← runSets words t
      pure (a ++ rest)) :=
  h t

/-- **A hook is skipped** when its body is, one level deeper. -/
theorem SkipsSets.hook {words : Words} {depth : Nat} {body : Text}
    (h : SkipsSets words (depth + 1) body) :
    SkipsSets words depth (⟨[], body⟩ : Hook).source := by
  intro t
  have hopener : Bracket.square.depthAfter depth ['['] = depth + 1 := by
    simp [Bracket.depthAfter, Bracket.step?, Bracket.opener]
  have hcloser : Bracket.square.depthAfter (depth + 1) [']'] = depth := by
    simp [Bracket.depthAfter, Bracket.step?, Bracket.opener, Bracket.closer]
  have hsource : (⟨[], body⟩ : Hook).source ++ t = ['['] ++ (body ++ ([']'] ++ t)) := by
    simp [Hook.source]
  have happ {c : Char} (hc : c ≠ '(') : Invocation.Sealed [c] ∧ Invocation.NoHead setNames [c] :=
    ⟨Invocation.sealed_of_not_mem (by simpa using hc.symm),
      Invocation.noHead_of_not_mem (by simpa using hc.symm)⟩
  -- The brackets of the hook are texts of their own: each begins no macro and moves the depth by one.
  obtain ⟨hs₁, hn₁⟩ := happ (show '[' ≠ '(' by decide)
  obtain ⟨hs₂, hn₂⟩ := happ (show ']' ≠ '(' by decide)
  rw [hsource, runSetsAt_append (.inl hs₁) hn₁, hopener, h, runSetsAt_append (.inl hs₂) hn₂,
    hcloser]
  simp [Hook.source]

/-! ### The branch that is taken -/

/-- Does the branch hold? One without condition does. -/
def Branch.holds (w : Setting) (b : Branch) : Act Bool :=
  match b.condition? with
  | some t => Condition.textHolds w t
  | none => pure true

/-- What the branches of a chain become, where `body` resolves the body that is taken. -/
def Chain.take (w : Setting) (body : Text → Act Text) : List Branch → Act Text
  | [] => pure []
  | b :: bs => do
    let holds ← b.holds w
    if holds then body b.hook.body else take w body bs

theorem Chain.select_cons (w : Setting) (b : Branch) (bs : List Branch) :
    Chain.select w (b :: bs) = (do
      let holds ← b.holds w
      if holds then pure (some 0)
      else
        let i ← Chain.select w bs
        pure (i.map (· + 1))) := by
  rw [Chain.select, Branch.holds]
  cases b.condition? <;> rfl

private theorem Chain.select_bind (w : Setting) (body : Text → Act Text) (bs : List Branch) :
    (do
      let i ← Chain.select w bs
      match i.bind fun i => bs[i]? with
      | some b => body b.hook.body
      | none => pure []) = Chain.take w body bs := by
  induction bs with
  | nil => rfl
  | cons b bs ih =>
    rw [Chain.take, Chain.select_cons, bind_assoc]
    congr 1
    funext holds
    cases holds with
    | true => simp
    | false =>
      rw [if_neg (by decide), if_neg (by decide), ← ih, bind_assoc]
      congr 1
      funext i
      cases i <;> simp

/-- A chain becomes the body of its first branch that holds. -/
theorem Conditional.resolve_chain (w : Setting) (body : Text → Act Text) (c : Chain) :
    resolve w body (chain c) = Chain.take w body c.branches :=
  Chain.select_bind w body c.branches

end Hyperfiction

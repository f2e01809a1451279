import Hyperfiction.Proofs.InPlace.Written

/-!
# Collected chains are well formed

A chain is collected from any text and any position, and the text may be malformed in any way. What a step
of the collecting takes is always the same: what leads to a hook, and the hook (`InPlace.Collected`). The
steps join, so the hooks lie in the span of the chain, in order, the last one ends it, and nothing stands
between them but gaps and macros of the chain that are complete (`InPlace.chain?_wellFormed`). No hook
begins where a link does, so links behind a chain are not swallowed.
-/

namespace Hyperfiction

namespace InPlace

open Invocation Chain

/-! ### What is collected -/

/-- What stands in front of the hook of a branch with this condition, from where the branch before it ends:
the macro of the branch with gaps around it, or a gap alone in front of a bare hook. The first branch begins
with its macro. -/
inductive Lead : (first : Bool) → (condition : Option Text) → Text → Prop where
  | opens {m : Invocation} {gap : Text} :
      m.Readable → isNamed ifNames m.name → (∀ c ∈ gap, Text.isGap c) →
        Lead true (some m.args) (m.source ++ gap)
  | goesOn {before behind : Text} {m : Invocation} :
      (∀ c ∈ before, Text.isGap c) → m.Readable → isNamed elseIfNames m.name →
        (∀ c ∈ behind, Text.isGap c) → Lead false (some m.args) (before ++ (m.source ++ behind))
  | closes {before behind : Text} {m : Invocation} :
      (∀ c ∈ before, Text.isGap c) → m.Readable → isNamed elseNames m.name →
        (∀ c ∈ behind, Text.isGap c) → Lead false none (before ++ (m.source ++ behind))
  | bare {gap : Text} : (∀ c ∈ gap, Text.isGap c) → Lead false none gap

/-- The span goes from a square bracket, which opens no link, to the one that matches it. -/
structure IsHookAt (t : Text) (hook : Span) : Prop where
  brackets : ∃ body, t.slice hook.start hook.stop = .ok ('[' :: body ++ [']']) ∧
    Bracket.square.Balanced body
  noLink : ∀ rest, t.suffixFrom hook.start = .ok rest → Hook.opensLink rest = false

/-- The branches are collected from the one position up to the other: each hook stands behind its lead,
where the hook before it ends, and one without condition is the last. -/
inductive Collected (t : Text) : (first : Bool) → Nat → List BranchAt → Nat → Prop where
  | nil (n : Nat) : Collected t false n [] n
  | cons {first : Bool} {n stop : Nat} {lead : Text} {b : BranchAt} {bs : List BranchAt} :
      t.slice n b.hook.start = .ok lead → Lead first b.condition lead → IsHookAt t b.hook →
        (b.condition = none → bs = []) → Collected t false b.hook.stop bs stop →
          Collected t first n (b :: bs) stop

/-! ### What follows from it -/

theorem IsHookAt.lt {t : Text} {hook : Span} (h : IsHookAt t hook) : hook.start < hook.stop := by
  obtain ⟨body, hslice, -⟩ := h.brackets
  obtain ⟨s, u, -, hstart, hstop⟩ := Text.slice_eq_ok_iff.mp hslice
  have hpos := Char.utf8Size_pos '['
  rw [List.cons_append, Text.width_cons] at hstop
  omega

namespace Collected

variable {t : Text} {first : Bool} {n stop : Nat} {bs : List BranchAt}

/-- The hooks lie between the two positions. -/
theorem inside (h : Collected t first n bs stop) :
    n ≤ stop ∧ ∀ b ∈ bs, n ≤ b.hook.start ∧ b.hook.stop ≤ stop := by
  induction h with
  | nil n => exact ⟨Nat.le_refl n, nofun⟩
  | @cons first n stop lead b bs hlead _ hhook _ _ ih =>
    obtain ⟨s, u, -, hn, hstart⟩ := Text.slice_eq_ok_iff.mp hlead
    have hlt := hhook.lt
    obtain ⟨hle, hin⟩ := ih
    refine ⟨by omega, List.forall_mem_cons.mpr ⟨⟨by omega, hle⟩, fun c hc => ?_⟩⟩
    obtain ⟨hstart, hstop⟩ := hin c hc
    exact ⟨by omega, hstop⟩

/-- **Hooks stand one behind the other.** -/
theorem pairwise (h : Collected t first n bs stop) :
    bs.Pairwise fun b later => b.hook.stop ≤ later.hook.start := by
  induction h with
  | nil n => exact .nil
  | cons _ _ _ _ hrest ih => exact .cons (fun later hlater => (hrest.inside.2 later hlater).1) ih

theorem isHookAt (h : Collected t first n bs stop) : ∀ b ∈ bs, IsHookAt t b.hook := by
  induction h with
  | nil n => exact nofun
  | cons _ _ hhook _ _ ih => exact List.forall_mem_cons.mpr ⟨hhook, ih⟩

/-- The last hook ends the collecting. -/
theorem stop_of_getLast? (h : Collected t first n bs stop) : ∀ b ∈ bs.getLast?, b.hook.stop = stop := by
  induction h with
  | nil n => exact nofun
  | @cons first n stop lead b bs _ _ _ _ hrest ih =>
    cases hrest with
    | nil n =>
      intro c hc
      obtain rfl : b = c := Option.some.inj hc
      rfl
    | cons _ _ _ _ _ =>
      rw [List.getLast?_cons_cons]
      exact ih

/-- Only the last branch may be without condition. -/
theorem isSome_of_mem_dropLast (h : Collected t first n bs stop) :
    ∀ b ∈ bs.dropLast, b.condition.isSome := by
  induction h with
  | nil n => exact nofun
  | @cons first n stop lead b bs _ _ _ hlast _ ih =>
    cases bs with
    | nil => exact nofun
    | cons c cs =>
      rw [List.dropLast_cons_cons]
      refine List.forall_mem_cons.mpr ⟨?_, ih⟩
      rw [Option.isSome_iff_ne_none]
      exact fun hnone => absurd (hlast hnone) (List.cons_ne_nil c cs)

/-- There is a first branch, and it has a condition. -/
theorem exists_first (h : Collected t true n bs stop) :
    ∃ b later, bs = b :: later ∧ b.condition.isSome := by
  cases h with
  | @cons _ _ _ lead b later _ hlead _ _ _ =>
    refine ⟨b, later, rfl, ?_⟩
    generalize b.condition = condition at hlead
    cases hlead with
    | opens => rfl

end Collected

/-! ### Chains are collected so -/

/-- Square brackets that a hook may be in stand in a text as a hook, whatever is around them. -/
theorem isHookAt_append {k : Hook} (hk : k.Attachable) (s u : Text) :
    IsHookAt (s ++ ('[' :: k.body ++ [']'] ++ u))
      ⟨Text.width s, Text.width (s ++ ('[' :: k.body ++ [']']))⟩ where
  brackets := by
    refine ⟨k.body, ?_, hk.balanced⟩
    rw [Text.width_append]
    exact Text.slice_append s _ u
  noLink rest hrest := by
    rw [Text.suffixFrom_append] at hrest
    obtain rfl := Except.ok.inj hrest
    have hlink := (Hook.opensLink_append hk.balanced u).trans hk.noLink
    simpa using hlink

/-- One branch more in front of those that are collected. -/
theorem Collected.branch {s r : Text} {first : Bool} {b : Branch} {bs : List Branch}
    (hk : b.hook.Attachable) (hlead : Lead first (Part.ofBranch b).condition (Part.ofBranch b).lead)
    (hlast : (Part.ofBranch b).condition = none → bs = [])
    (hrest : Collected (s ++ b.source ++ (bs.flatMap Branch.source ++ r)) false (Text.width (s ++ b.source))
      (BranchAt.list (Text.width (s ++ b.source)) bs)
      (Text.width (s ++ b.source) + Text.width (bs.flatMap Branch.source))) :
    Collected (s ++ ((b :: bs).flatMap Branch.source ++ r)) first (Text.width s)
      (BranchAt.list (Text.width s) (b :: bs)) (Text.width s + Text.width ((b :: bs).flatMap Branch.source)) := by
  obtain ⟨u, hu⟩ : ∃ u, u = bs.flatMap Branch.source ++ r := ⟨_, rfl⟩
  have htext : s ++ ((b :: bs).flatMap Branch.source ++ r) = s ++ b.source ++ u := by
    rw [hu, List.flatMap_cons]
    simp only [List.append_assoc]
  have hstop : Text.width s + Text.width ((b :: bs).flatMap Branch.source) =
      Text.width (s ++ b.source) + Text.width (bs.flatMap Branch.source) := by
    rw [List.flatMap_cons, Text.width_append, Text.width_append, Nat.add_assoc]
  have hbranches : BranchAt.list (Text.width s) (b :: bs) =
      ⟨(Part.ofBranch b).condition,
          ⟨Text.width (s ++ (Part.ofBranch b).lead), Text.width (s ++ b.source)⟩⟩ ::
        BranchAt.list (Text.width (s ++ b.source)) bs := by
    rw [← Part.placed_ofBranch, List.map_cons, Part.placed_cons, Part.placed_ofBranch,
      Part.source_ofBranch, Text.width_append, Text.width_append]
  rw [← hu] at hrest
  rw [htext, hstop, hbranches]
  have hsource : b.source = (Part.ofBranch b).lead ++ ('[' :: b.hook.body ++ [']']) :=
    (Part.source_ofBranch b).symm
  rw [hsource] at hrest ⊢
  refine .cons ?_ hlead ?_ ?_ hrest
  · have hslice := Text.slice_append s (Part.ofBranch b).lead ('[' :: b.hook.body ++ [']'] ++ u)
    rw [← Text.width_append] at hslice
    simpa only [List.append_assoc] using hslice
  · have hhook := isHookAt_append hk (s ++ (Part.ofBranch b).lead) u
    simpa only [List.append_assoc] using hhook
  · intro hnone
    rw [hlast hnone]
    rfl

/-- The branches behind the first one are collected, each from where the one before it ends. -/
theorem collected_of_continued {bs : List Branch} {u : Text} (h : Chain.Continued bs u) (s : Text) :
    Collected (s ++ (bs.flatMap Branch.source ++ u)) false (Text.width s)
      (BranchAt.list (Text.width s) bs) (Text.width s + Text.width (bs.flatMap Branch.source)) := by
  induction h generalizing s with
  | stops _ => exact .nil _
  | @elseIf gap m k bs u hgap hm hn hk _ ih =>
    have hpart := Part.ofBranch_of_call (b := ⟨gap, some m, k⟩) rfl (else_of_elseIf hn)
    refine Collected.branch hk ?_ ?_ (ih _)
    · rw [hpart]
      exact .goesOn hgap hm hn hk.gap
    · rw [hpart]
      exact fun hnone => absurd hnone (Option.some_ne_none _)
  | @closed gap m k u hgap hm hn hk =>
    have hcondition : Branch.condition? ⟨gap, some m, k⟩ = none := by
      rw [Branch.condition?, Option.bind_some, if_pos hn]
    refine Collected.branch hk ?_ (fun _ => rfl) (.nil _)
    rw [Part.ofBranch, hcondition]
    exact .closes hgap hm hn hk.gap
  | bare _ hk => exact Collected.branch hk.attachable (.bare hk.gap) (fun _ => rfl) (.nil _)

/-- A chain that is found at a position is collected from there. -/
theorem collected_of_chain? {t : Text} {start : Nat} {c : ChainAt} (h : chain? t start = .ok (some c)) :
    c.span.start = start ∧ Collected t true start c.branches c.span.stop := by
  rcases boundary_cases t start with hnone | ⟨s, u, rfl, rfl⟩
  · rw [chain?_eq, Position.chain?, hnone] at h
    cases h
  · rw [chain?_append] at h
    obtain ⟨⟨c, r⟩, hread, rfl⟩ := Option.map_eq_some_iff.mp (Except.ok.inj h)
    obtain ⟨⟨m, hfirst⟩, hlater, rfl⟩ := Chain.read?_eq_some_iff.mp hread
    have hpart := Part.ofBranch_of_call hfirst.call (else_of_if hfirst.named)
    refine ⟨rfl, Collected.branch hfirst.hook ?_ ?_ (collected_of_continued hlater _)⟩
    · rw [hpart, hfirst.gap]
      exact .opens hfirst.readable hfirst.named hfirst.hook.gap
    · rw [hpart]
      exact fun hnone => absurd hnone (Option.some_ne_none _)

/-! ### Well-formed chains -/

/-- A chain is **well formed** at a position of a text. -/
structure ChainAt.WellFormed (t : Text) (start : Nat) (c : ChainAt) : Prop where
  /-- Its span starts there, -/
  start : c.span.start = start
  /-- and ends with the last hook. -/
  stop : ∃ b ∈ c.branches.getLast?, b.hook.stop = c.span.stop
  /-- Each hook has a bracket that opens no link, and ends with the one that matches it. -/
  hooks : ∀ b ∈ c.branches, IsHookAt t b.hook
  /-- The hooks are in the span, -/
  inside : ∀ b ∈ c.branches, c.span.start ≤ b.hook.start ∧ b.hook.stop ≤ c.span.stop
  /-- one behind the other. -/
  ordered : c.branches.Pairwise fun b later => b.hook.stop ≤ later.hook.start
  /-- The first branch has a condition, -/
  first : ∃ b later, c.branches = b :: later ∧ b.condition.isSome
  /-- and so has every other one but the last. -/
  conditions : ∀ b ∈ c.branches.dropLast, b.condition.isSome
  /-- Nothing else is in the span but what leads to a hook, from where the hook before it ends. -/
  leads : Collected t true c.span.start c.branches c.span.stop

/-- **Every chain that is collected is well formed**, at every position of every text. -/
theorem chain?_wellFormed (t : Text) (start : Nat) :
    ∃ found, chain? t start = .ok found ∧ ∀ c ∈ found, c.WellFormed t start := by
  refine ⟨_, chain?_eq t start, fun c hc => ?_⟩
  have hchain : chain? t start = .ok (some c) := by rw [chain?_eq, ← Option.mem_def.mp hc]
  obtain ⟨rfl, hcollected⟩ := collected_of_chain? hchain
  obtain ⟨b, later, hbranches, hcondition⟩ := hcollected.exists_first
  refine ⟨rfl, ?_, hcollected.isHookAt, hcollected.inside.2, hcollected.pairwise,
    ⟨b, later, hbranches, hcondition⟩, hcollected.isSome_of_mem_dropLast, hcollected⟩
  obtain ⟨last, hlast⟩ : ∃ last, c.branches.getLast? = some last := by
    rw [hbranches]
    exact ⟨_, List.getLast?_cons⟩
  exact ⟨last, hlast, hcollected.stop_of_getLast? last hlast⟩

/-- A hook may hold a link; a link behind an `(else:)` is none, and the chain ends in front of that. -/
theorem chain?_wellFormed_link :
    let t : Text := "é(if: a)[x] (else-if: b)[[[y]]](else:)[[Go]]".toList
    ∃ c, chain? t 2 = .ok (some c) ∧ c.WellFormed t 2 ∧ c.span = ⟨2, 32⟩ := by
  intro t
  have hspan : (Position.chain? t 2).map (fun found => ChainAt.span (.of found.span.start found.item)) =
      some ⟨2, 32⟩ := by decide +kernel
  obtain ⟨found, hfound, hwritten⟩ := Option.map_eq_some_iff.mp hspan
  obtain ⟨chains, hchain, hwell⟩ := chain?_wellFormed t 2
  have hsome : chains = some (ChainAt.of found.span.start found.item) := by
    rw [chain?_eq, hfound] at hchain
    exact (Except.ok.inj hchain).symm
  exact ⟨_, hsome ▸ hchain, hwell _ hsome, hwritten⟩

end InPlace

end Hyperfiction

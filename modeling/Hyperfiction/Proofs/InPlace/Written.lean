import Mathlib.Data.List.Forall2
import Hyperfiction.Proofs.Document.Basic
import Hyperfiction.Proofs.InPlace.Chains

/-!
# Chains that are written and collected

What collects a chain looks for brackets of two classes in turn: round ones around conditions, square ones
around bodies, and either may hold the other one unmatched. A `Chain.Plan` says what an author writes: an
`(if:)`, some `(else-if:)` and perhaps a last branch, each with its hook, and gaps wherever they may stand.
If the conditions close their round brackets and the bodies their square ones, the chain that is collected
from the written text has just these branches (`Chain.Plan.chain?_written`): every hook lies where its
bracket and body were written, and the chain ends with the last of them, in front of any text that does not
go on with a bracket.
-/

namespace Hyperfiction

open Invocation

namespace Chain

/-- A branch under a condition as it is written, behind a gap. -/
structure Clause where
  gap : Text
  condition : Text
  hook : Hook

/-- A last branch without condition as it is written. -/
inductive Otherwise where
  /-- An `(else:)` behind a gap, with its hook. -/
  | closed (gap : Text) (hook : Hook)
  | bare (hook : Hook)

/-- A chain as it is written. -/
structure Plan where
  /-- The condition of the `(if:)`. -/
  condition : Text
  hook : Hook
  clauses : List Clause := []
  otherwise : Option Otherwise := none

/-! ### What is written -/

/-- A piece of a written chain: what stands before the bracket of a hook, the condition that it is under,
and its body. -/
structure Part where
  lead : Text
  condition : Option Text
  body : Text

/-- The part as written. -/
def Part.source (p : Part) : Text := p.lead ++ ('[' :: p.body ++ [']'])

/-- The part of a branch under a condition. -/
def Clause.part (k : Clause) : Part :=
  ⟨k.gap ++ ("(else-if:".toList ++ k.condition ++ [')'] ++ k.hook.gap), some k.condition, k.hook.body⟩

/-- The part of a last branch. -/
def Otherwise.part : Otherwise → Part
  | closed gap k => ⟨gap ++ ("(else:)".toList ++ k.gap), none, k.body⟩
  | bare k => ⟨k.gap, none, k.body⟩

namespace Plan

/-- The parts of a chain in order. -/
def parts (c : Plan) : List Part :=
  ⟨"(if:".toList ++ c.condition ++ [')'] ++ c.hook.gap, some c.condition, c.hook.body⟩ ::
    (c.clauses.map Clause.part ++ (c.otherwise.map Otherwise.part).toList)

/-- The chain as text. -/
def written (c : Plan) : Text := c.parts.flatMap Part.source

end Plan

/-- Where the branches of parts are that are written from a position on: each hook begins behind what leads
to it, and the next part behind the hook. -/
def Part.placed (start : Nat) : List Part → List InPlace.BranchAt
  | [] => []
  | p :: ps =>
    let hook : Span := ⟨start + Text.width p.lead, start + Text.width p.source⟩
    ⟨p.condition, hook⟩ :: placed hook.stop ps

/-! ### What may be written -/

/-- The branch stands behind a gap, closes the brackets of its condition and of its body, and has a hook
that begins with no link. -/
structure Clause.Sound (k : Clause) : Prop where
  gap : ∀ ch ∈ k.gap, Text.isGap ch
  condition : Bracket.round.Balanced k.condition
  hook : k.hook.Readable

/-- The last branch stands behind a gap, closes the brackets of its body, and has a hook that begins with no
link. -/
def Otherwise.Sound : Otherwise → Prop
  | closed gap k => (∀ ch ∈ gap, Text.isGap ch) ∧ k.Readable
  | bare k => k.Readable

/-- All branches of the chain may be written. -/
structure Plan.Sound (c : Plan) : Prop where
  condition : Bracket.round.Balanced c.condition
  hook : c.hook.Readable
  clauses : ∀ k ∈ c.clauses, k.Sound
  otherwise : ∀ last, c.otherwise = some last → last.Sound

/-- The first character that is in no gap opens neither a macro nor a hook. -/
def LeavesOff (t : Text) : Prop :=
  ∀ ch, (t.dropWhile Text.isGap).head? = some ch → ch ≠ '(' ∧ ch ≠ '['

/-! ### The chain that is read -/

/-- The branch of a chain that is written so. -/
def Clause.branch (k : Clause) : Branch := ⟨k.gap, some (Doc.elseIfCall k.condition), k.hook⟩

/-- The last branch of a chain that is written so. -/
def Otherwise.branch : Otherwise → Branch
  | closed gap k => ⟨gap, some Doc.elseCall, k⟩
  | bare k => ⟨[], none, k⟩

/-- The chain that is written. -/
def Plan.chain (c : Plan) : Chain :=
  ⟨⟨[], some (Doc.ifCall c.condition), c.hook⟩,
    c.clauses.map Clause.branch ++ (c.otherwise.map Otherwise.branch).toList⟩

/-- The part that a branch is written as. -/
def Part.ofBranch (b : Branch) : Part :=
  ⟨b.gap ++ ((b.call.map Invocation.source).getD [] ++ b.hook.gap), b.condition?, b.hook.body⟩

theorem Part.placed_cons (start : Nat) (p : Part) (ps : List Part) :
    placed start (p :: ps) =
      ⟨p.condition, ⟨start + Text.width p.lead, start + Text.width p.source⟩⟩ ::
        placed (start + Text.width p.source) ps := rfl

theorem Part.source_ofBranch (b : Branch) : (Part.ofBranch b).source = b.source := by
  simp [Part.source, Part.ofBranch, Branch.source, Hook.source]

theorem Part.placed_ofBranch (start : Nat) (bs : List Branch) :
    Part.placed start (bs.map Part.ofBranch) = InPlace.BranchAt.list start bs := by
  induction bs generalizing start with
  | nil => rfl
  | cons b bs ih =>
    rw [List.map_cons, Part.placed_cons, InPlace.BranchAt.list_cons, Part.source_ofBranch, ih]
    simp only [Part.ofBranch, Text.width_append, Nat.add_assoc]

/-- A branch with a macro that closes no chain is written with the arguments of that macro as its condition. -/
theorem Part.ofBranch_of_call {b : Branch} {m : Invocation} (hcall : b.call = some m)
    (hname : isNamed elseNames m.name = false) :
    Part.ofBranch b = ⟨b.gap ++ (m.source ++ b.hook.gap), some m.args, b.hook.body⟩ := by
  simp [Part.ofBranch, Branch.condition?, hcall, hname]

theorem Clause.part_eq (k : Clause) : k.part = Part.ofBranch k.branch := by
  have hname : isNamed elseNames (Doc.elseIfCall k.condition).name = false :=
    show isNamed elseNames "else-if".toList = false by decide
  rw [Part.ofBranch_of_call rfl hname]
  rfl

theorem Otherwise.part_eq (last : Otherwise) : last.part = Part.ofBranch last.branch := by
  cases last with
  | closed gap k =>
    have hname : isNamed elseNames Doc.elseCall.name := show isNamed elseNames "else".toList by decide
    have hcondition : Branch.condition? ⟨gap, some Doc.elseCall, k⟩ = none := by
      rw [Branch.condition?, Option.bind_some, if_pos hname]
    rw [Otherwise.branch, Part.ofBranch, hcondition]
    rfl
  | bare k => rfl

namespace Plan

/-- The parts of a plan are the branches of its chain. -/
theorem parts_eq (c : Plan) : c.parts = c.chain.branches.map Part.ofBranch := by
  have hname : isNamed elseNames (Doc.ifCall c.condition).name = false :=
    show isNamed elseNames "if".toList = false by decide
  have hfirst : Part.ofBranch c.chain.first =
      ⟨"(if:".toList ++ c.condition ++ [')'] ++ c.hook.gap, some c.condition, c.hook.body⟩ :=
    Part.ofBranch_of_call rfl hname
  have hclause : Clause.part = fun k => Part.ofBranch k.branch := funext Clause.part_eq
  have hlast : Otherwise.part = fun k => Part.ofBranch k.branch := funext Otherwise.part_eq
  rw [branches, List.map_cons, hfirst, parts, hclause, hlast]
  simp only [chain, List.map_append, List.map_map, Function.comp_def, Option.toList_map]

theorem written_eq (c : Plan) : c.written = c.chain.source := by
  simp only [written, parts_eq, List.flatMap_map, Part.source_ofBranch, Chain.source]

end Plan

theorem LeavesOff.endsAt {t : Text} (h : LeavesOff t) : EndsAt t := by
  rw [← List.takeWhile_append_dropWhile (p := Text.isGap) (l := t)]
  refine EndsAt.gap_append (fun ch hch => List.mem_takeWhile_imp hch) ?_
  cases hdrop : t.dropWhile Text.isGap with
  | nil => exact endsAt_nil
  | cons ch u =>
    obtain ⟨hround, hsquare⟩ := h ch (by rw [hdrop]; rfl)
    have hgap : Text.isGap ch = false := by
      have := List.head?_dropWhile_not Text.isGap t
      simpa [hdrop] using this
    refine endsAt_cons hgap hsquare fun m v hread => ?_
    rw [read?_cons_of_ne hround] at hread
    cases hread

theorem Clause.Sound.continues {k : Clause} (h : k.Sound) :
    k.branch.Continues (Doc.elseIfCall k.condition) where
  call := rfl
  gap := h.gap
  named := show isNamed elseIfNames "else-if".toList by decide
  readable := ⟨show IsName "else-if".toList by decide, h.condition⟩
  hook := h.hook

theorem Otherwise.Sound.tail {last : Otherwise} (h : last.Sound) (t : Text) :
    Tail [last.branch] t := by
  cases last with
  | closed gap k =>
    exact .closes t ⟨rfl, h.1, by decide, ⟨by decide, Bracket.balanced_nil _⟩, h.2⟩
  | bare k => exact .bare t ⟨rfl, rfl, h⟩

/-- The branches behind the first stand in front of what leaves off. -/
theorem Plan.Sound.tail {c : Plan} (h : c.Sound) {t : Text} (ht : LeavesOff t) :
    Tail c.chain.later t := by
  obtain ⟨condition, hook, clauses, otherwise⟩ := c
  obtain ⟨-, -, hclauses, hotherwise⟩ := h
  simp only [Plan.chain] at hclauses hotherwise ⊢
  induction clauses with
  | nil =>
    cases otherwise with
    | none => exact .none ht.endsAt
    | some last => exact (hotherwise last rfl).tail t
  | cons k clauses ih =>
    obtain ⟨hk, hmore⟩ := List.forall_mem_cons.mp hclauses
    exact .continues hk.continues (ih hmore)

/-! ### What is collected -/

namespace Part

/-- The hook of each part is where it is placed, with its body and the brackets around it. -/
theorem forall₂_placed (before : Text) (ps : List Part) (behind : Text) :
    List.Forall₂
      (fun p b => (before ++ (ps.flatMap source ++ behind)).slice b.hook.start b.hook.stop =
        .ok ('[' :: p.body ++ [']']))
      ps (placed (Text.width before) ps) := by
  induction ps generalizing before with
  | nil => exact .nil
  | cons p ps ih =>
    have hsplit : before ++ ((p :: ps).flatMap source ++ behind) =
        (before ++ p.lead) ++ (('[' :: p.body ++ [']']) ++ (ps.flatMap source ++ behind)) := by
      simp [source]
    have hnext : before ++ ((p :: ps).flatMap source ++ behind) =
        (before ++ p.source) ++ (ps.flatMap source ++ behind) := by simp
    rw [placed_cons]
    refine .cons ?_ ?_
    · have hbody := Text.slice_append (before ++ p.lead) ('[' :: p.body ++ [']'])
        (ps.flatMap source ++ behind)
      have hwidth : Text.width p.source = Text.width p.lead + Text.width ('[' :: p.body ++ [']']) :=
        Text.width_append p.lead _
      rw [← hsplit, Text.width_append before, Nat.add_assoc, ← hwidth] at hbody
      exact hbody
    · rw [hnext, ← Text.width_append]
      exact ih (before ++ p.source)

/-- The parts end where the last hook does. -/
theorem getLast?_placed (start : Nat) {ps : List Part} (h : ps ≠ []) :
    ((placed start ps).getLast?).map (·.hook.stop) = some (start + Text.width (ps.flatMap source)) := by
  induction ps generalizing start with
  | nil => exact absurd rfl h
  | cons p ps ih =>
    cases ps with
    | nil => simp [placed]
    | cons q ps =>
      have hq := ih (start + Text.width p.source) (List.cons_ne_nil q ps)
      rw [List.flatMap_cons, Text.width_append, ← Nat.add_assoc, ← hq]
      simp [placed]

end Part

/-- **A written plan is read as its chain**, up to where it leaves off. -/
theorem Plan.read?_written {c : Plan} (hc : c.Sound) {behind : Text} (hbehind : LeavesOff behind) :
    read? (c.written ++ behind) = some (c.chain, behind) := by
  rw [c.written_eq]
  exact read?_source_append ⟨show IsName "if".toList by decide, hc.condition⟩
    (show isNamed ifNames "if".toList by decide) hc.hook (hc.tail hbehind)

/-- **A chain that is written is collected as it was written**: from any position of a text, and in front of
whatever leaves off there, come its branches in order, each with its condition and the span of its hook,
which holds just the body in its brackets, and the span of the chain ends with the last of them. The
collecting from the buffer finds the same. -/
theorem Plan.chain?_written {c : Plan} (hc : c.Sound) (before : Text) {behind : Text}
    (hbehind : LeavesOff behind) :
    let t := before ++ (c.written ++ behind)
    let span : Span := ⟨Text.width before, Text.width before + Text.width c.written⟩
    let branches := Part.placed span.start c.parts
    Position.chain? t span.start = some ⟨c.chain, span⟩ ∧
      InPlace.ChainAt.of span.start c.chain = ⟨span, branches⟩ ∧
      InPlace.chain? t span.start = .ok (some ⟨span, branches⟩) ∧
      List.Forall₂
        (fun p b => t.slice b.hook.start b.hook.stop = .ok ('[' :: p.body ++ [']'])) c.parts branches ∧
      branches.getLast?.map (·.hook.stop) = some span.stop := by
  intro t span branches
  have hread := Plan.read?_written hc hbehind
  have hof : InPlace.ChainAt.of span.start c.chain = ⟨span, branches⟩ := by
    simp only [InPlace.ChainAt.of, ← Part.placed_ofBranch, ← c.parts_eq, ← c.written_eq, span, branches]
  refine ⟨?_, hof, ?_, Part.forall₂_placed before c.parts behind, ?_⟩
  · rw [Position.chain?_append, hread, Option.map_some, ← c.written_eq]
  · rw [InPlace.chain?_append, hread, Option.map_some, hof]
  · exact Part.getLast?_placed _ (List.cons_ne_nil _ _)

/-- The condition and the body each hold a bracket of the other class that nothing closes, and the last
branch is bare. -/
theorem Plan.chain?_written_bare :
    let c : Plan := ⟨" a[".toList, ⟨[], "x (".toList⟩,
      [⟨" \n".toList, " (y)".toList, ⟨[], []⟩⟩], some (.bare ⟨" ".toList, "z".toList⟩)⟩
    c.Sound ∧ LeavesOff "end".toList ∧
      InPlace.chain? "é(if: a[)[x (] \n(else-if: (y))[] [z]end".toList 2 =
        .ok (some ⟨⟨2, 37⟩,
          [⟨some " a[".toList, ⟨10, 15⟩⟩, ⟨some " (y)".toList, ⟨31, 33⟩⟩, ⟨none, ⟨34, 37⟩⟩]⟩) := by
  intro c
  have hgap : ∀ {gap : Text}, gap.all Text.isGap = true → ∀ ch ∈ gap, Text.isGap ch :=
    fun h => List.all_eq_true.mp h
  have hclause : ∀ k ∈ c.clauses, k.Sound := by
    intro k hk
    obtain rfl := List.mem_singleton.mp hk
    exact ⟨hgap rfl, by decide, ⟨hgap rfl, by decide, by decide⟩⟩
  have hlast : ∀ last, c.otherwise = some last → last.Sound := by
    rintro _ ⟨⟩
    exact ⟨hgap rfl, by decide, by decide⟩
  have hc : c.Sound := ⟨by decide, ⟨hgap rfl, by decide, by decide⟩, hclause, hlast⟩
  have hbehind : LeavesOff "end".toList := by
    intro ch hch
    obtain rfl : 'e' = ch := Option.some.inj hch
    decide
  have htext : "é".toList ++ (c.written ++ "end".toList) =
      "é(if: a[)[x (] \n(else-if: (y))[] [z]end".toList := by decide
  have hspan : (⟨Text.width "é".toList, Text.width "é".toList + Text.width c.written⟩ : Span) =
      ⟨2, 37⟩ := by decide
  have hplaced : Part.placed 2 c.parts =
      [⟨some " a[".toList, ⟨10, 15⟩⟩, ⟨some " (y)".toList, ⟨31, 33⟩⟩, ⟨none, ⟨34, 37⟩⟩] := by rfl
  have hfound := (Plan.chain?_written hc "é".toList hbehind).2.2.1
  rw [htext, hspan, hplaced] at hfound
  exact ⟨hc, hbehind, hfound⟩

end Chain

end Hyperfiction

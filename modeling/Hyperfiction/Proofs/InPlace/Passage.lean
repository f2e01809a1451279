import Hyperfiction.Proofs.InPlace.Layout
import Hyperfiction.Proofs.InPlace.Spans
import Hyperfiction.Proofs.InPlace.Sweeps

/-!
# Passages compiled in a buffer

The passes of a passage, each on the buffer that the one before it left. Every range that one of them cuts
out or writes over is checked, and still the whole gives what compiling the text gives
(`InPlace.compile_eq`): no range is refused, whatever the body, the variables, the visits, the filters and
the limits are. `Compiler.ranges_granted` says this together with what it rests on, that every span which is
read in a text fits it.
-/

namespace Hyperfiction

namespace InPlace

/-! ### The passes of a passage -/

/-- The text of a body with its assignments run, its chains and guards resolved and what they leave over
removed. -/
def settled (w : Setting) (body : Text) : GuardedAct Text := do
  let run ← runSets w.words body
  let reduced ← reduceChains w run
  removeOrphans w.limits.maxReductions reduced

/-- The text of a settled body without links, with groups and prints written. -/
def written (w : Setting) (t : Text) : GuardedAct Text := do
  let stripped ← strip t
  let collapsed ← collapseGroups stripped
  let swept ← stripSets collapsed
  let printed ← resolvePrints w swept
  substitute (← get).store printed

/-- The text of a body before filters and layout, and its choices. -/
def draft (w : Setting) (body : Text) : GuardedAct (Text × List Choice) := do
  let t ← settled w body
  let offered ← choices t
  let content ← written w t
  return (content, offered)

/-- The passage that a record becomes, and the number of random words used then. -/
def compile (c : Compiler) (w : Setting) (p : PassageRecord) (snapshot : Snapshot) (used : Nat) :
    Guarded (Passage × Nat) := do
  let ((content, offered), run) ← (draft w p.body).run ⟨snapshot, used⟩
  let filtered ← applyFilters c.filters content
  let laid ← normalize filtered
  return (⟨p.name, laid, offered, p.tags, run.store.changesSince snapshot⟩, run.used)

/-! ### The same passage -/

variable {w : Setting}

theorem settled_eq (body : Text) : settled w body = Act.sure (Hyperfiction.settled w body) := by
  rw [settled, Hyperfiction.settled]
  simp only [runSets_eq, reduceChains_eq, removeOrphans_eq]
  rfl

theorem written_eq (t : Text) : written w t = Act.sure (Hyperfiction.written w t) := by
  rw [written, Hyperfiction.written]
  simp only [strip_eq, collapseGroups_eq, stripSets_eq, resolvePrints_eq, substitute_eq, pure_bind]
  rfl

/-- **A draft is made in place.** -/
theorem draft_eq (body : Text) : draft w body = Act.sure (Hyperfiction.draft w body) := by
  rw [draft, Hyperfiction.draft]
  simp only [settled_eq, written_eq, choices_eq, Act.lift_ok_bind]
  rfl

/-- **Compiling in the buffer** raises no fault and gives the passage. -/
theorem compile_eq (c : Compiler) (p : PassageRecord) (snapshot : Snapshot) (used : Nat) :
    compile c w p snapshot used = .ok (c.compile w p snapshot used) := by
  rw [compile, draft_eq]
  simp only [applyFilters_eq, normalize_eq]
  rfl

/-- The scanner reads at a position of a buffer what is read there in the text. -/
structure ReadsAlike (t : Text) (start : Nat) : Prop where
  hook : hook? t start = (Position.hook? t start).map Located.span
  call : macro? t start = .ok (Position.macro? t start)
  found : ∀ names, findMacro? t start (names.map fun n => n.map Char.toLower) =
    .ok (Position.findMacro? t start names)
  chain : chain? t start =
    .ok ((Position.chain? t start).map fun found => ChainAt.of found.span.start found.item)
  guard : guard? t start =
    .ok ((Position.guard? t start).map fun found => GuardAt.of found.span.start found.item)

/-- Everything that is read at a position is read in place. -/
theorem readsAlike (t : Text) (start : Nat) : ReadsAlike t start where
  hook := hook?_eq t start
  call := macro?_eq t start
  found := findMacro?_eq t start
  chain := chain?_eq t start
  guard := guard?_eq t start

end InPlace

/-- **No range is refused.** The spans that are read at any position of any text fit it, with the ranges
that are taken from inside of them in order and inside; the spans of tokens fit their text; the scanner and
the lexer find them in the buffer without a fault; and compiling in the buffer, where every range that is
cut out or written over is checked, gives the passage. -/
theorem Compiler.ranges_granted :
    (∀ t start, Position.SpansFit t start ∧ InPlace.ReadsAlike t start) ∧
      (∀ t, (∀ span ∈ Token.spans 0 (Token.read t), span.Fits t) ∧
        InPlace.tokens t = .ok (InPlace.TokenAt.list 0 (Token.read t))) ∧
      ∀ (c : Compiler) (w : Setting) (p : PassageRecord) (snapshot : Snapshot) (used : Nat),
        InPlace.compile c w p snapshot used = .ok (c.compile w p snapshot used) := by
  refine ⟨?_, ?_, ?_⟩
  · intro t start
    exact ⟨Position.spansFit t start, InPlace.readsAlike t start⟩
  · intro t
    exact ⟨fun span => Token.fits_of_mem_spans, InPlace.tokens_eq t⟩
  · intro c w p snapshot used
    exact InPlace.compile_eq c p snapshot used

/-- Positions count bytes, and not characters. -/
theorem Compiler.ranges_granted_accented :
    Position.macro? "é(set: $ü to 1)".toList 2 =
        some ⟨⟨"set".toList, " $ü to 1".toList⟩, ⟨2, 17⟩⟩ ∧
      Span.IsMacro "é(set: $ü to 1)".toList ⟨2, 17⟩ ⟨"set".toList, " $ü to 1".toList⟩ := by
  have hread : Position.macro? "é(set: $ü to 1)".toList 2 =
      some ⟨⟨"set".toList, " $ü to 1".toList⟩, ⟨2, 17⟩⟩ := rfl
  exact ⟨hread, (Compiler.ranges_granted.1 _ 2).1.call _ hread⟩

end Hyperfiction

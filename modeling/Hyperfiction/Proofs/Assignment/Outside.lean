import Hyperfiction.Proofs.InPlace.Spans
import Hyperfiction.Proofs.Markup.Openers
import Hyperfiction.Proofs.Markup.Pass
import Hyperfiction.Proofs.Text.Outside

/-!
# Assignments outside square brackets

What running the assignments of a text does can be said by positions alone. A scan finds its assignments
one behind the other (`Position.macros`); those at whose start no square bracket is open, counted from the
start of the text, run in order, and the text is left without their spans (`runSets_eq_outside`).

The first part of a text may be run by itself if each of its parentheses is closed in it and no square
bracket is open behind it: then no assignment reaches from the one part into the other, and the brackets of
the second part are counted from 0 again (`runSetsAt_append_of_closes`).
-/

namespace Hyperfiction

namespace Text

/-- A position that a suffix is cut off at is not behind the suffix, if anything is left. -/
theorem le_width_takePast (t : Text) (n : Nat) : n ≤ width (takePast t n) ∨ dropPast t n = [] := by
  induction t generalizing n with
  | nil => cases n <;> simp [dropPast]
  | cons c t ih =>
    cases n with
    | zero => exact .inl (Nat.zero_le _)
    | succ n =>
      rw [takePast, dropPast, width_cons]
      exact (ih (n + 1 - c.utf8Size)).imp_left fun h => by omega

end Text

/-! ### The macros of a text -/

namespace Position

variable {t : Text} {start : Nat} {names : List Text} {m : Located Invocation}

theorem le_start_of_findMacro? (h : findMacro? t start names = some m) : start ≤ m.span.start := by
  obtain ⟨i, hi, hm⟩ := Option.bind_eq_some_iff.mp h
  obtain ⟨⟨before, u⟩, hhead, hi⟩ := Option.bind_eq_some_iff.mp hi
  obtain ⟨rest, -, hm⟩ := Option.bind_eq_some_iff.mp hm
  obtain ⟨⟨m', v⟩, -, hm⟩ := Option.bind_eq_some_iff.mp hm
  obtain rfl := Option.some.inj hm
  obtain rfl := Option.some.inj hi
  have hsplit := congrArg Text.width (Text.takePast_append_dropPast t start)
  rw [Text.width_append] at hsplit
  rcases Text.le_width_takePast t start with hle | hnil
  · simp only
    omega
  · rw [hnil] at hhead
    cases hhead

/-- The span of a macro is not empty, and lies in the text. -/
theorem lt_stop_of_findMacro? (h : findMacro? t start names = some m) :
    start < m.span.stop ∧ m.span.stop ≤ Text.width t := by
  have hle := le_start_of_findMacro? h
  obtain ⟨hlt, hstop, -⟩ := (isMacro_of_findMacro? h).1
  exact ⟨by omega, hstop⟩

/-- The macros of some names from a position on. The search for each begins where the one before it ends,
and a head that is not completed ends it. -/
def macros (t : Text) (names : List Text) (start : Nat) : List (Located Invocation) :=
  match h : findMacro? t start names with
  | none => []
  | some m =>
    have := lt_stop_of_findMacro? h
    m :: macros t names m.span.stop
termination_by Text.width t - start

theorem macros_of_eq_none (h : findMacro? t start names = none) : macros t names start = [] := by
  rw [macros]; split
  · rfl
  · simp_all

theorem macros_of_eq_some (h : findMacro? t start names = some m) :
    macros t names start = m :: macros t names m.span.stop := by
  rw [macros]; split
  · simp_all
  · rename_i h'
    obtain rfl := Option.some.inj (h.symm.trans h')
    rfl

theorem le_start_of_mem_macros (hm : m ∈ macros t names start) : start ≤ m.span.start := by
  induction hn : Text.width t - start using Nat.strongRecOn generalizing start with
  | ind n ih =>
    subst hn
    cases hfind : findMacro? t start names with
    | none =>
      rw [macros_of_eq_none hfind] at hm
      cases hm
    | some first =>
      have hle := le_start_of_findMacro? hfind
      have hlt := lt_stop_of_findMacro? hfind
      rw [macros_of_eq_some hfind] at hm
      rcases List.mem_cons.mp hm with rfl | hm
      · exact hle
      · exact Nat.le_of_lt (Nat.lt_of_lt_of_le hlt.1 (ih _ (by omega) hm rfl))

/-- From a position on, macros are searched in what follows it. -/
theorem findMacro?_append (names : List Text) (s u : Text) :
    findMacro? (s ++ u) (Text.width s) names =
      (Invocation.find? (names.map fun n => n.map Char.toLower) u).map fun p =>
        ⟨p.2.1, ⟨Text.width (s ++ p.1), Text.width (s ++ p.1 ++ p.2.1.source)⟩⟩ := by
  have h := InPlace.findMacro?_append (names.map fun n => n.map Char.toLower) s u
  rw [InPlace.findMacro?_eq] at h
  simpa only [Text.width_append] using Except.ok.inj h

end Position

/-! ### The assignments that run -/

/-- The assignments of a text, from a position on, at whose start no square bracket is open. -/
def outerSets (t : Text) (start : Nat) : List (Located Invocation) :=
  (Position.macros t setNames start).filter fun m => Position.bracketDepth t m.span.start = 0

/-- Runs the assignments of macros in order. -/
def runSetArgs (words : Words) (ms : List (Located Invocation)) : Act Unit :=
  ms.forM fun m => Assignment.runText words m.item.args

theorem runSetArgs_cons (words : Words) (m : Located Invocation) (ms : List (Located Invocation)) :
    runSetArgs words (m :: ms) = (do
      Assignment.runText words m.item.args
      runSetArgs words ms) :=
  rfl

/-- The first assignment behind a position is the one that is found in the text from there on. -/
theorem Position.findMacro?_setNames (s u : Text) :
    findMacro? (s ++ u) (Text.width s) setNames =
      (Invocation.find? setNames u).map fun p =>
        ⟨p.2.1, ⟨Text.width (s ++ p.1), Text.width (s ++ p.1 ++ p.2.1.source)⟩⟩ :=
  Position.findMacro?_append setNames s u

/-- **From wherever a text falls in two**, the assignments of the second part run that stand outside square
brackets, and that part is left without their spans. -/
theorem runSetsAt_eq_outside (words : Words) {t s u : Text} (ht : t = s ++ u) :
    runSetsAt words (Bracket.square.depthAfter 0 s) u = (do
      runSetArgs words (outerSets t (Text.width s))
      pure (Text.outside ((outerSets t (Text.width s)).map Located.span) (Text.width s) u)) := by
  -- The induction is on what is left; the part in front grows, and with it the depth that is counted.
  induction hn : u.length using Nat.strongRecOn generalizing s u with
  | ind n ih =>
    subst hn
    cases hfind : Invocation.find? setNames u with
    | none =>
      have hmacros : Position.macros t setNames (Text.width s) = [] := by
        refine Position.macros_of_eq_none ?_
        rw [ht, Position.findMacro?_setNames, hfind, Option.map_none]
      rw [runSetsAt_of_eq_none hfind, outerSets, hmacros, List.filter_nil, List.map_nil,
        Text.outside_of_before fun _ h => absurd h List.not_mem_nil]
      rfl
    | some p =>
      obtain ⟨before, m, behind⟩ := p
      have hu := Invocation.eq_append_of_find? hfind
      have hlt := (Invocation.finder setNames).length_lt hfind
      have hsplit : t = s ++ before ++ m.source ++ behind := by
        rw [ht, hu]
        simp only [List.append_assoc]
      have hrest := ih behind.length hlt hsplit rfl
      have hmacros : Position.macros t setNames (Text.width s) =
          ⟨m, ⟨Text.width (s ++ before), Text.width (s ++ before ++ m.source)⟩⟩ ::
            Position.macros t setNames (Text.width (s ++ before ++ m.source)) := by
        refine Position.macros_of_eq_some ?_
        rw [ht, Position.findMacro?_setNames, hfind, Option.map_some]
      rw [hu] at hfind
      have hdepth : Position.bracketDepth t (Text.width (s ++ before)) =
          Bracket.square.depthAfter 0 (s ++ before) := by
        rw [Position.bracketDepth, hsplit, List.append_assoc (s ++ before), Text.takePast_append]
      -- The spans of the later assignments begin behind this one, so they leave this part alone.
      have hlater : ∀ x ∈ (outerSets t (Text.width (s ++ before ++ m.source))).map Located.span,
          Text.width (s ++ before ++ m.source) ≤ x.start := by
        intro x hx
        obtain ⟨found, hfound, rfl⟩ := List.mem_map.mp hx
        exact Position.le_start_of_mem_macros (List.mem_filter.mp hfound).1
      rw [hu, runSetsAt_of_eq_some hfind, outerSets, hmacros, List.filter_cons]
      simp only [← Bracket.depthAfter_append, hdepth, decide_eq_true_eq, hrest]
      split
      · rw [List.map_cons, ← outerSets, Text.outside_remove hlater, runSetArgs_cons]
        simp only [bind_assoc, pure_bind]
      · rw [← outerSets, Text.outside_keep hlater]
        simp only [bind_assoc, pure_bind]

/-- **The assignments of a text** that run are those outside square brackets, in order, and the text is left
without their spans. -/
theorem runSets_eq_outside (words : Words) (t : Text) :
    runSets words t = (do
      runSetArgs words (outerSets t 0)
      pure (Text.outside ((outerSets t 0).map Located.span) 0 t)) :=
  runSetsAt_eq_outside words (show t = [] ++ t from rfl)

/-! ### Two parts of a text -/

/-- **A text that closes its parentheses** is run by itself, and what stands behind it goes on at the depth
of brackets that it leaves. -/
theorem runSetsAt_append_of_closes (words : Words) {a : Text} (ha : Closes a) (b : Text) (depth : Nat) :
    runSetsAt words depth (a ++ b) = (do
      let x ← runSetsAt words depth a
      let y ← runSetsAt words (Bracket.square.depthAfter depth a) b
      pure (x ++ y)) := by
  induction hn : a.length using Nat.strongRecOn generalizing a depth with
  | ind n ih =>
    subst hn
    cases hfind : Invocation.find? setNames a with
    | none =>
      -- No head is left open in the first part, so none is completed by the second.
      rw [runSetsAt_append (.inl ha.isSealed) (ha.noHead hfind), runSetsAt_of_eq_none hfind, pure_bind]
    | some p =>
      obtain ⟨before, m, u⟩ := p
      have hlt := (Invocation.finder setNames).length_lt hfind
      have hsplit := Invocation.eq_append_of_find? hfind
      have hu : Closes u := by
        rw [hsplit, ← List.append_assoc] at ha
        exact ha.of_append
      have hdepth : Bracket.square.depthAfter depth a = Bracket.square.depthAfter
          (Bracket.square.depthAfter (Bracket.square.depthAfter depth before) m.source) u := by
        rw [hsplit, Bracket.depthAfter_append, Bracket.depthAfter_append]
      rw [runSetsAt_of_eq_some (Invocation.find?_append_of_some hfind b),
        runSetsAt_of_eq_some hfind, hdepth]
      simp only [ih u.length hlt hu _ rfl]
      split
      · simp only [bind_assoc, pure_bind, List.append_assoc]
      · simp only [bind_assoc, pure_bind, List.append_assoc]

/-- **Assignments run exactly outside square brackets, and in order.** Of the assignments that a scan of a
text finds, those run at whose start no square bracket is open, and the text is left without their spans. A
text that closes its parentheses and leaves no square bracket open runs by itself, and what stands behind it
runs on the variables and words that it leaves. -/
theorem runSets_outside (words : Words) :
    (∀ t, runSets words t = (do
      runSetArgs words (outerSets t 0)
      pure (Text.outside ((outerSets t 0).map Located.span) 0 t))) ∧
    ∀ a b, Closes a → Bracket.square.depthAfter 0 a = 0 →
      runSets words (a ++ b) = (do
        let x ← runSets words a
        let y ← runSets words b
        pure (x ++ y)) := by
  refine ⟨runSets_eq_outside words, fun a b ha hdepth => ?_⟩
  have h := runSetsAt_append_of_closes words ha b 0
  rwa [hdepth] at h

/-- A square bracket that is closed without being open does not count, so this text leaves none open, and
the assignment behind it reads the variable set in front of the hook. -/
theorem runSets_outside_stray_bracket :
    Closes "](set: $x to 1)[(set: $y to 2)]".toList ∧
    Bracket.square.depthAfter 0 "](set: $x to 1)[(set: $y to 2)]".toList = 0 ∧
    runSets (fun _ => 0) ("](set: $x to 1)[(set: $y to 2)]".toList ++ "(set: $z to $x)".toList) = (do
      let x ← runSets (fun _ => 0) "](set: $x to 1)[(set: $y to 2)]".toList
      let y ← runSets (fun _ => 0) "(set: $z to $x)".toList
      pure (x ++ y)) := by
  have hcloses : Closes "](set: $x to 1)[(set: $y to 2)]".toList := by decide
  have hdepth : Bracket.square.depthAfter 0 "](set: $x to 1)[(set: $y to 2)]".toList = 0 := by decide
  exact ⟨hcloses, hdepth, (runSets_outside fun _ => 0).2 _ _ hcloses hdepth⟩

end Hyperfiction

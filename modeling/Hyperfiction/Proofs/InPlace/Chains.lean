import Hyperfiction.Proofs.InPlace.Scanner

/-!
# Chains found in a buffer

A chain is collected branch by branch: behind the hook of one comes the macro of the next, with its own
hook, or a bare hook as the last. In the buffer only the conditions are taken out, and of a branch is kept
where its hook is. The chain found at a position is the one read there, with its hooks where that has them
(`InPlace.chain?_eq`); each step ends behind the one before it, so the collecting comes to an end.
-/

namespace Hyperfiction

namespace Position

/-- A chain is read in place as in the rest of the text. -/
theorem chain?_append (s u : Text) :
    chain? (s ++ u) (Text.width s) =
      (Chain.read? u).map fun p =>
        ⟨p.1, ⟨Text.width s, Text.width s + Text.width p.1.source⟩⟩ := by
  simp only [chain?, Text.dropTo?_append, Option.bind_eq_bind, Option.bind_some]
  cases Chain.read? u <;> rfl

theorem guard?_append (s u : Text) :
    guard? (s ++ u) (Text.width s) =
      (Guard.read? u).map fun p =>
        ⟨p.1, ⟨Text.width s, Text.width s + Text.width p.1.source⟩⟩ := by
  simp only [guard?, Text.dropTo?_append, Option.bind_eq_bind, Option.bind_some]
  cases Guard.read? u <;> rfl

end Position

namespace InPlace

/-- A branch found in a buffer: the text of its condition, and where its hook is. -/
structure BranchAt where
  condition : Option Text
  hook : Span

/-- A chain found in a buffer. -/
structure ChainAt where
  span : Span
  branches : List BranchAt

/-- The branches behind a position at which one ends, and where the last of them ends. -/
def laterBranches (t : Text) (stop : Nat) : Guarded (List BranchAt × Nat) := do
  let next := skipGap t stop
  match ← macro? t next with
  | some found =>
    if Invocation.isNamed elseIfNames found.item.name then
      match ← attached? t found.span.stop with
      | some hook =>
        if _h : stop < hook.stop ∧ hook.stop ≤ Text.width t then do
          let (more, last) ← laterBranches t hook.stop
          return (⟨some found.item.args, hook⟩ :: more, last)
        else .error .stuck
      | none => return ([], stop)
    else if Invocation.isNamed elseNames found.item.name then
      match ← attached? t found.span.stop with
      | some hook => return ([⟨none, hook⟩], hook.stop)
      | none => return ([], stop)
    else return ([], stop)
  | none =>
    let rest ← t.suffixFrom next
    if Text.startsWith rest ['['] && !Text.startsWith rest ['[', '['] then
      match hook? t next with
      | some hook => return ([⟨none, hook⟩], hook.stop)
      | none => return ([], stop)
    else return ([], stop)
termination_by Text.width t - stop

/-- The chain at a position. -/
def chain? (t : Text) (start : Nat) : Guarded (Option ChainAt) := do
  match ← macro? t start with
  | none => return none
  | some found =>
    if Invocation.isNamed ifNames found.item.name then
      match ← attached? t found.span.stop with
      | none => return none
      | some hook =>
        let (more, stop) ← laterBranches t hook.stop
        return some ⟨⟨start, stop⟩, ⟨some found.item.args, hook⟩ :: more⟩
    else return none

/-- Where the branches are that begin at a position. -/
def BranchAt.list (start : Nat) (bs : List Branch) : List BranchAt :=
  List.zipWith (fun b hook => ⟨b.condition?, hook⟩) bs (Chain.hookSpans start bs)

/-- Where a chain is that begins at a position. -/
def ChainAt.of (start : Nat) (c : Chain) : ChainAt :=
  ⟨⟨start, start + Text.width c.source⟩, BranchAt.list start c.branches⟩

@[simp] theorem BranchAt.list_nil (start : Nat) : BranchAt.list start [] = [] := rfl

/-- The branches behind one begin where it ends. -/
theorem BranchAt.list_cons (start : Nat) (b : Branch) (bs : List Branch) :
    BranchAt.list start (b :: bs) =
      ⟨b.condition?, ⟨start + Text.width b.gap + Text.width ((b.call.map Invocation.source).getD []) +
        Text.width b.hook.gap, start + Text.width b.source⟩⟩ ::
          BranchAt.list (start + Text.width b.source) bs := rfl

/-- A macro behind a hook may begin another branch. -/
private theorem laterBranches_of_some {s u gap v : Text} {m : Invocation}
    (h : Chain.nextMacro? u = some (gap, m, v)) :
    laterBranches (s ++ u) (Text.width s) =
      let base := Text.width s + Text.width gap + Text.width m.source
      match Hook.attached? v with
      | some (k, _) =>
        if Invocation.isNamed elseIfNames m.name then do
          let (more, last) ← laterBranches (s ++ u) (base + Text.width k.source)
          return (⟨some m.args, ⟨base + Text.width k.gap, base + Text.width k.source⟩⟩ :: more, last)
        else if Invocation.isNamed elseNames m.name then
          .ok ([⟨none, ⟨base + Text.width k.gap, base + Text.width k.source⟩⟩],
            base + Text.width k.source)
        else .ok ([], Text.width s)
      | none => .ok ([], Text.width s) := by
  have hu := Chain.eq_append_of_nextMacro? h
  simp only [Chain.nextMacro?, Option.map_eq_some_iff, Prod.mk.injEq] at h
  obtain ⟨p, hread, rfl, rfl⟩ := h
  have hmacro := macro?_append (s ++ u.takeWhile Text.isGap) (u.dropWhile Text.isGap)
  have hhook := attached?_append (s ++ (u.takeWhile Text.isGap ++ m.source)) v
  rw [List.append_assoc, List.takeWhile_append_dropWhile, Text.width_append, hread] at hmacro
  rw [List.append_assoc, List.append_assoc, ← hu, Text.width_append, Text.width_append,
    ← Nat.add_assoc] at hhook
  rw [laterBranches, skipGap_append, hmacro, Guarded.ok_bind]
  simp only [Option.map_some, hhook, Guarded.ok_bind]
  cases hk : Hook.attached? v with
  | none =>
    simp only [Option.map_none]
    split
    · rfl
    · split <;> rfl
  | some q =>
    obtain ⟨k, w⟩ := q
    simp only [Option.map_some]
    split
    · have hwidth := congrArg Text.width hu
      have hhookWidth := congrArg Text.width (Hook.eq_append_of_attached? hk)
      have hsource := k.width_source
      rw [Text.width_append, Text.width_append] at hwidth
      rw [Text.width_append] at hhookWidth
      rw [dif_pos ⟨by omega, by rw [Text.width_append]; omega⟩]
    · rfl

private theorem laterBranches_of_none {s u : Text} (h : Chain.nextMacro? u = none) :
    laterBranches (s ++ u) (Text.width s) =
      match Hook.bare? u with
      | some (k, _) =>
        .ok ([⟨none, ⟨Text.width s + Text.width k.gap, Text.width s + Text.width k.source⟩⟩],
          Text.width s + Text.width k.source)
      | none => .ok ([], Text.width s) := by
  rw [Chain.nextMacro?, Option.map_eq_none_iff] at h
  have hmacro := macro?_append (s ++ u.takeWhile Text.isGap) (u.dropWhile Text.isGap)
  have hrest := Text.suffixFrom_append (s ++ u.takeWhile Text.isGap) (u.dropWhile Text.isGap)
  have hhook := hook?_append (s ++ u.takeWhile Text.isGap) (u.dropWhile Text.isGap)
  rw [List.append_assoc, List.takeWhile_append_dropWhile, Text.width_append] at hmacro hrest hhook
  rw [laterBranches, skipGap_append, hmacro, Guarded.ok_bind, h]
  simp only [Option.map_none, hrest, Guarded.ok_bind, hhook, Hook.bare?]
  cases hbody : Hook.body? (u.dropWhile Text.isGap) with
  | none =>
    simp only [Option.map_none, ite_self]
    rfl
  | some p =>
    obtain ⟨body, r⟩ := p
    have hstarts : Text.startsWith (u.dropWhile Text.isGap) ['['] := by
      rw [Hook.eq_append_of_body? hbody]
      exact startsWith_cons '[' _
    cases hlink : Text.startsWith (u.dropWhile Text.isGap) ['[', '['] with
    | true =>
      simp only [hstarts, Bool.not_true, Bool.and_false, Bool.false_eq_true, if_false, if_true]
      rfl
    | false =>
      simp only [hstarts, Bool.not_false, Bool.and_true, Bool.false_eq_true, if_true, if_false,
        Option.map_some, Guarded.pure_eq_ok, Hook.width_source, Nat.add_assoc]

theorem else_of_elseIf {name : Text} (h : Invocation.isNamed elseIfNames name) :
    Invocation.isNamed elseNames name = false := by
  rw [Bool.eq_false_iff]
  intro helse
  rw [Chain.not_elseIf_of_else helse] at h
  cases h

theorem else_of_if {name : Text} (h : Invocation.isNamed ifNames name) :
    Invocation.isNamed elseNames name = false := by
  have hname : name.map Char.toLower = "if".toList := by
    simpa [Invocation.isNamed, ifNames] using h
  rw [Invocation.isNamed, hname]
  decide

theorem condition?_of_named (gap : Text) (k : Hook) {m : Invocation}
    (h : Invocation.isNamed elseNames m.name = false) :
    Branch.condition? ⟨gap, some m, k⟩ = some m.args := by
  rw [Branch.condition?, Option.bind_some, h]
  rfl

/-- Where no branch follows, none is collected. -/
private theorem laterBranches_of_stops {s u : Text} (h : Chain.readLater u = ([], u)) :
    laterBranches (s ++ u) (Text.width s) = .ok ([], Text.width s) := by
  cases hm : Chain.nextMacro? u with
  | none =>
    rw [laterBranches_of_none hm]
    cases hk : Hook.bare? u with
    | none => rfl
    | some p =>
      rw [Chain.readLater_bare hm hk] at h
      cases (Prod.mk.inj h).1
  | some p =>
    obtain ⟨gap, m, v⟩ := p
    rw [laterBranches_of_some hm]
    cases hk : Hook.attached? v with
    | none => rfl
    | some q =>
      have helseIf : Invocation.isNamed elseIfNames m.name = false := by
        rw [Bool.eq_false_iff]
        intro hn
        rw [Chain.readLater_elseIf hm hn hk] at h
        cases (Prod.mk.inj h).1
      have helse : Invocation.isNamed elseNames m.name = false := by
        rw [Bool.eq_false_iff]
        intro hn
        rw [Chain.readLater_else hm hn hk] at h
        cases (Prod.mk.inj h).1
      simp only [helseIf, helse]
      rfl

/-- **Later branches are read in place** as in the rest of the text. -/
theorem laterBranches_append (s u : Text) :
    laterBranches (s ++ u) (Text.width s) =
      .ok (BranchAt.list (Text.width s) (Chain.readLater u).1,
        Text.width s + Text.width ((Chain.readLater u).1.flatMap Branch.source)) := by
  obtain ⟨bs, r, hread⟩ : ∃ bs r, Chain.readLater u = (bs, r) := ⟨_, _, rfl⟩
  obtain ⟨hbs, hu⟩ := Chain.readLater_eq_iff.mp hread
  rw [hread]
  clear hread
  induction hbs generalizing s u with
  | @stops r h =>
    obtain rfl : u = r := hu
    exact laterBranches_of_stops h
  | @elseIf gap m k bs r hgap hm hn hk _ ih =>
    have hsplit : u = gap ++ (m.source ++ (k.source ++ (bs.flatMap Branch.source ++ r))) := by
      rw [hu, List.flatMap_cons]
      simp [Branch.source]
    have hnext := Chain.nextMacro?_append hgap hm (k.source ++ (bs.flatMap Branch.source ++ r))
    rw [← hsplit] at hnext
    have hrest := ih (s ++ (gap ++ (m.source ++ k.source))) _ rfl
    rw [laterBranches_of_some hnext, hk.attached?_source_append]
    have htext : s ++ (gap ++ (m.source ++ k.source)) ++ (bs.flatMap Branch.source ++ r) = s ++ u := by
      rw [hsplit]
      simp only [List.append_assoc]
    rw [htext] at hrest
    simp only [Text.width_append, ← Nat.add_assoc] at hrest
    have hcondition := condition?_of_named gap k (else_of_elseIf hn)
    have hsource : Text.width (Branch.source ⟨gap, some m, k⟩) =
        Text.width gap + Text.width m.source + Text.width k.source := by
      simp only [Branch.source, Option.map_some, Option.getD_some, Text.width_append]
    simp only [hn, if_true, hrest, Guarded.ok_bind, Guarded.pure_eq_ok, BranchAt.list_cons,
      hcondition, hsource, Option.map_some, Option.getD_some, List.flatMap_cons, Text.width_append,
      ← Nat.add_assoc]
  | @closed gap m k r hgap hm hn hk =>
    have hsplit : u = gap ++ (m.source ++ (k.source ++ r)) := by
      rw [hu, List.flatMap_cons]
      simp [Branch.source]
    have hnext := Chain.nextMacro?_append hgap hm (k.source ++ r)
    rw [← hsplit] at hnext
    rw [laterBranches_of_some hnext, hk.attached?_source_append]
    have hcondition : Branch.condition? ⟨gap, some m, k⟩ = none := by
      rw [Branch.condition?, Option.bind_some, hn]
      rfl
    simp only [Chain.not_elseIf_of_else hn, hn, if_true, Bool.false_eq_true, if_false,
      BranchAt.list_cons, BranchAt.list_nil, hcondition, Branch.source, Option.map_some,
      Option.getD_some, List.flatMap_cons, List.flatMap_nil, List.append_nil, Text.width_append,
      ← Nat.add_assoc]
  | @bare k r hk =>
    have hsplit : u = k.source ++ r := by
      rw [hu, List.flatMap_cons]
      simp [Branch.source]
    have hnone : Chain.nextMacro? u = none := by
      rw [hsplit]
      simp [Chain.nextMacro?, Hook.dropWhile_source_append hk.gap, Invocation.read?_cons_of_ne]
    rw [laterBranches_of_none hnone, Hook.bare?_eq_some_iff.mpr ⟨hk, hsplit⟩]
    simp [BranchAt.list_cons, Branch.source, Branch.condition?]

theorem chain?_append (s u : Text) :
    chain? (s ++ u) (Text.width s) =
      .ok ((Chain.read? u).map fun p => ChainAt.of (Text.width s) p.1) := by
  rw [chain?, macro?_append, Guarded.ok_bind, Chain.read?]
  cases hread : Invocation.read? u with
  | none => rfl
  | some p =>
    obtain ⟨m, v⟩ := p
    simp only [Option.map_some]
    split
    · rename_i hn
      have hhook := attached?_append (s ++ m.source) v
      rw [List.append_assoc, ← Invocation.eq_append_of_read? hread, Text.width_append] at hhook
      rw [hhook, Guarded.ok_bind]
      cases hk : Hook.attached? v with
      | none => rfl
      | some q =>
        obtain ⟨k, w⟩ := q
        have hlater := laterBranches_append (s ++ (m.source ++ k.source)) w
        have htext : s ++ (m.source ++ k.source) ++ w = s ++ u := by
          rw [Invocation.eq_append_of_read? hread, Hook.eq_append_of_attached? hk]
          simp only [List.append_assoc]
        rw [htext] at hlater
        simp only [Text.width_append, ← Nat.add_assoc] at hlater
        have hcondition := condition?_of_named [] k (else_of_if hn)
        simp only [Option.map_some, hlater, Guarded.ok_bind, Guarded.pure_eq_ok, ChainAt.of,
          Chain.source, Chain.branches, BranchAt.list_cons, hcondition, Branch.source,
          Option.getD_some, List.flatMap_cons, Text.width_append, Text.width_nil,
          Nat.add_zero, ← Nat.add_assoc]
    · rfl

/-- **The chain at a position** is read with its spans. -/
theorem chain?_eq (t : Text) (start : Nat) :
    chain? t start =
      .ok ((Position.chain? t start).map fun found => ChainAt.of found.span.start found.item) := by
  rcases boundary_cases t start with h | ⟨s, u, rfl, rfl⟩
  · rw [chain?, macro?_eq, Position.macro?, Position.chain?, h]
    rfl
  · rw [chain?_append, Position.chain?_append, Option.map_map]
    rfl

end InPlace

end Hyperfiction

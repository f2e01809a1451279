import Hyperfiction.Expr.Parser
import Hyperfiction.Markup.Cut
import Hyperfiction.Markup.Hook

/-!
# Chains and guards

A chain is an `(if:)` with its hook, any number of `(else-if:)` with theirs, and at most one last
branch without condition, an `(else:)` or a bare hook. A guard is a `(visited:)` with its hook.
`Conditional.finder` finds both in a text; a head of either that begins none is found too, as a stray
bracket, because a pass counts it.
-/

namespace Hyperfiction

/-- The names of the macro that begins a chain. -/
def ifNames : List Text := ["if".toList]

/-- The names of the macro that continues a chain under a condition. -/
def elseIfNames : List Text := ["else-if".toList, "elseif".toList]

/-- The names of the macro that ends a chain. -/
def elseNames : List Text := ["else".toList]

/-- The names of the macro of a guard. -/
def guardNames : List Text := ["visited".toList, "history".toList]

/-- One branch of a chain: the gap before its macro, the macro unless its hook is bare, and its hook. -/
structure Branch where
  gap : Text
  call : Option Invocation
  hook : Hook
deriving DecidableEq

namespace Branch

/-- The branch as written. -/
def source (b : Branch) : Text := b.gap ++ (b.call.map Invocation.source).getD [] ++ b.hook.source

/-- The text of the condition of a branch; an else and a bare hook have none. -/
def condition? (b : Branch) : Option Text :=
  b.call.bind fun m => if Invocation.isNamed elseNames m.name then none else some m.args

end Branch

/-- A chain: its branches in order. -/
structure Chain where
  first : Branch
  later : List Branch
deriving DecidableEq

namespace Chain

/-- All branches of a chain. -/
def branches (c : Chain) : List Branch := c.first :: c.later

/-- The chain as written. -/
def source (c : Chain) : Text := c.branches.flatMap Branch.source

/-- The macro behind a gap: the gap, the macro, and what follows it. -/
def nextMacro? (t : Text) : Option (Text × Invocation × Text) :=
  (Invocation.read? (t.dropWhile Text.isGap)).map fun p => (t.takeWhile Text.isGap, p)

theorem eq_append_of_nextMacro? {t gap u : Text} {m : Invocation}
    (h : nextMacro? t = some (gap, m, u)) : t = gap ++ (m.source ++ u) := by
  simp only [nextMacro?, Option.map_eq_some_iff, Prod.mk.injEq, Prod.exists] at h
  obtain ⟨m', u', hm, rfl, rfl, rfl⟩ := h
  rw [← Invocation.eq_append_of_read? hm, List.takeWhile_append_dropWhile]

private theorem length_lt_of_branch {t gap u v : Text} {m : Invocation} {k : Hook}
    (hm : nextMacro? t = some (gap, m, u)) (hk : Hook.attached? u = some (k, v)) :
    v.length < t.length := by
  have := Hook.length_lt_of_eq_append (Hook.eq_append_of_attached? hk)
  rw [eq_append_of_nextMacro? hm]
  simp only [List.length_append]
  omega

/-- The branches behind the first one, and what follows the last. -/
def readLater (t : Text) : List Branch × Text :=
  match hm : nextMacro? t with
  | some (gap, m, u) =>
    if Invocation.isNamed elseIfNames m.name then
      match hk : Hook.attached? u with
      | some (k, v) =>
        have := length_lt_of_branch hm hk
        let more := readLater v
        (⟨gap, some m, k⟩ :: more.1, more.2)
      | none => ([], t)
    else if Invocation.isNamed elseNames m.name then
      match Hook.attached? u with
      | some (k, v) => ([⟨gap, some m, k⟩], v)
      | none => ([], t)
    else ([], t)
  | none =>
    match Hook.bare? t with
    | some (k, v) => ([⟨[], none, k⟩], v)
    | none => ([], t)
termination_by t.length

theorem readLater_append (t : Text) :
    (readLater t).1.flatMap Branch.source ++ (readLater t).2 = t := by
  rw [readLater]
  split
  · rename_i gap m u hm
    split
    · split
      · rename_i k v hk
        have := length_lt_of_branch hm hk
        simp only [List.flatMap_cons, List.append_assoc, readLater_append v]
        simp [Branch.source, ← Hook.eq_append_of_attached? hk, ← eq_append_of_nextMacro? hm]
      · rfl
    · split
      · split
        · rename_i k v hk
          simp [Branch.source, ← Hook.eq_append_of_attached? hk, ← eq_append_of_nextMacro? hm]
        · rfl
      · rfl
  · split
    · rename_i k v hk
      simp [Branch.source, ← Hook.eq_append_of_bare? hk]
    · rfl
termination_by t.length

/-- The chain at the front of a text, and what follows it. -/
def read? (t : Text) : Option (Chain × Text) :=
  match Invocation.read? t with
  | none => none
  | some (m, u) =>
    if Invocation.isNamed ifNames m.name then
      (Hook.attached? u).map fun (k, v) => (⟨⟨[], some m, k⟩, (readLater v).1⟩, (readLater v).2)
    else none

theorem eq_append_of_read? {t u : Text} {c : Chain} (h : read? t = some (c, u)) :
    t = c.source ++ u := by
  simp only [read?] at h
  split at h
  · simp at h
  · rename_i m v hm
    split at h
    · simp only [Option.map_eq_some_iff, Prod.mk.injEq, Prod.exists] at h
      obtain ⟨k, w, hk, rfl, rfl⟩ := h
      rw [Invocation.eq_append_of_read? hm, Hook.eq_append_of_attached? hk]
      conv => lhs; rw [← readLater_append w]
      simp [source, branches, Branch.source]
    · simp at h

theorem source_ne_nil (c : Chain) : c.source ≠ [] := by
  simp [source, branches, Branch.source, Hook.source]

/-- The spans of the hooks of branches that begin at a position. -/
def hookSpans (start : Nat) : List Branch → List Span
  | [] => []
  | b :: bs =>
    let hook := start + Text.width b.gap + Text.width ((b.call.map Invocation.source).getD [])
      + Text.width b.hook.gap
    let stop := start + Text.width b.source
    ⟨hook, stop⟩ :: hookSpans stop bs

end Chain

/-- A guard: its macro, its hook, and what it asks. -/
structure Guard where
  call : Invocation
  hook : Hook
  query : Query
deriving DecidableEq

namespace Guard

/-- The guard as written. -/
def source (g : Guard) : Text := g.call.source ++ g.hook.source

/-- The guard at the front of a text, and what follows it. Its argument may not be blank. -/
def read? (t : Text) : Option (Guard × Text) :=
  match Invocation.read? t with
  | none => none
  | some (m, u) =>
    if Invocation.isNamed guardNames m.name then
      match Query.ofText? m.args with
      | none => none
      | some q => (Hook.attached? u).map fun (k, v) => (⟨m, k, q⟩, v)
    else none

theorem eq_append_of_read? {t u : Text} {g : Guard} (h : read? t = some (g, u)) :
    t = g.source ++ u := by
  simp only [read?] at h
  split at h
  · simp at h
  · rename_i m v hm
    split at h
    · split at h
      · simp at h
      · simp only [Option.map_eq_some_iff, Prod.mk.injEq, Prod.exists] at h
        obtain ⟨k, w, hk, rfl, rfl⟩ := h
        rw [Invocation.eq_append_of_read? hm, Hook.eq_append_of_attached? hk]
        simp [source]
    · simp at h

theorem source_ne_nil (g : Guard) : g.source ≠ [] := by simp [source, Hook.source]

end Guard

/-- What the head of a chain or a guard begins. -/
inductive Conditional where
  | chain (c : Chain)
  | guard (g : Guard)
  /-- Neither: the bracket of the head is text. -/
  | stray
deriving DecidableEq

namespace Conditional

/-- The text of what a head begins. -/
def source : Conditional → Text
  | chain c => c.source
  | guard g => g.source
  | stray => ['(']

/-- The names of the macros that begin a chain or a guard. -/
def names : List Text := ifNames ++ guardNames

/-- What the head at the front of a text begins, and what follows it. -/
def ofHead (t : Text) : Conditional × Text :=
  let isGuard := (Invocation.head? t).any fun h => Invocation.isNamed guardNames h.1
  if isGuard then
    match Guard.read? t with
    | some (g, u) => (guard g, u)
    | none => (stray, t.drop 1)
  else
    match Chain.read? t with
    | some (c, u) => (chain c, u)
    | none => (stray, t.drop 1)

/-- The first head of a chain or a guard: what stands before it, what it begins, and what follows. -/
def find? (t : Text) : Option (Text × Conditional × Text) :=
  (Invocation.findHead? names t).map fun p => (p.1, ofHead p.2)

theorem source_ne_nil (k : Conditional) : k.source ≠ [] := by
  cases k with
  | chain c => exact c.source_ne_nil
  | guard g => exact g.source_ne_nil
  | stray => simp [source]

theorem ofHead_append {t : Text} (h : t.head? = some '(') :
    (ofHead t).1.source ++ (ofHead t).2 = t := by
  obtain ⟨u, rfl⟩ : ∃ u, t = '(' :: u := by cases t <;> simp_all
  simp only [ofHead]
  split
  · split
    · rename_i h; simp [source, ← Guard.eq_append_of_read? h]
    · rfl
  · split
    · rename_i h; simp [source, ← Chain.eq_append_of_read? h]
    · rfl

theorem eq_append_of_find? {t b u : Text} {k : Conditional} (h : find? t = some (b, k, u)) :
    t = b ++ (k.source ++ u) := by
  simp only [find?, Option.map_eq_some_iff, Prod.mk.injEq, Prod.exists] at h
  obtain ⟨b', v, hv, rfl, hk⟩ := h
  rw [Invocation.eq_append_of_findHead? hv]
  have := ofHead_append (Invocation.head?_of_findHead? hv)
  rw [hk] at this
  rw [this]

/-- Finds chains, guards and stray heads. -/
def finder : Finder Conditional where
  source := source
  find? := find?
  eq_append := eq_append_of_find?
  source_ne_nil := fun _ => source_ne_nil _

end Conditional

end Hyperfiction

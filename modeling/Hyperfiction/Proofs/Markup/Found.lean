import Hyperfiction.Proofs.Markup.Search

/-!
# What is found in a text

The readers of markup split a text, and what they read determines where they find it: each of the
lemmas here says when a reader succeeds by what stands at the front of the text and nothing else.
Invocations (`Invocation.read?_eq_some_iff`) and hooks (`Hook.attached?_eq_some_iff`,
`Hook.bare?_eq_some_iff`) are read wherever their sources stand. The branches of a chain go on as far as
they can, so `Chain.Continued` also says that nothing of the text behind them belongs to the chain
(`Chain.readLater_eq_iff`). With `Conditional.ReadBefore`, chains and guards are found exactly where no
head stands in front of them (`Conditional.find?_eq_some_iff`).
-/

namespace Hyperfiction

/-! ### Invocations -/

namespace Invocation

theorem isName_of_head? {t name u : Text} (h : head? t = some (name, u)) : IsName name := by
  cases t with
  | nil => simp [head?] at h
  | cons c t =>
    simp only [head?] at h
    split at h
    · split at h
      · rename_i hc
        obtain ⟨-, -, hne⟩ := hc
        obtain ⟨rfl, -⟩ := by simpa using h
        exact ⟨hne, fun d hd => List.mem_takeWhile_imp hd⟩
      · simp at h
    · simp at h

/-- **An invocation is read where its source stands**, if it is readable. -/
theorem read?_eq_some_iff {t u : Text} {m : Invocation} :
    read? t = some (m, u) ↔ m.Readable ∧ t = m.source ++ u := by
  constructor
  · intro h
    refine ⟨?_, eq_append_of_read? h⟩
    simp only [read?] at h
    split at h
    · simp at h
    · rename_i name v hv
      simp only [Option.map_eq_some_iff, Prod.mk.injEq, Prod.exists] at h
      obtain ⟨args, rest, hclose, rfl, -⟩ := h
      exact ⟨isName_of_head? hv, (Bracket.closing?_eq_some_iff.mp hclose).2⟩
  · rintro ⟨hm, rfl⟩
    exact read?_source_append hm u

/-- A head is the same head with more text behind it. -/
theorem head?_append_of_some {t name v : Text} (h : head? t = some (name, v)) (u : Text) :
    head? (t ++ u) = some (name, v ++ u) := by
  have ht : t ++ u = '(' :: name ++ ':' :: (v ++ u) := by
    rw [eq_append_of_head? h]
    simp
  rw [ht, head?_of_isName (isName_of_head? h)]

/-- A text has no head if it has none with more text behind it. -/
theorem NoHead.of_append_left {names : List Text} {s t : Text} (h : NoHead names (s ++ t)) :
    NoHead names s := by
  induction s with
  | nil => exact noHead_nil names
  | cons c s ih =>
    rw [List.cons_append] at h
    obtain ⟨hhead, hrest⟩ := noHead_cons_iff.mp h
    refine noHead_cons_iff.mpr ⟨?_, ih hrest⟩
    cases hp : head? (c :: s) with
    | none => rfl
    | some p =>
      rw [← List.cons_append, head?_append_of_some hp] at hhead
      exact hhead

/-- **The first head of the macros** is the one with no head in front of it. -/
theorem findHead?_eq_some_iff {names : List Text} {t b u : Text} :
    findHead? names t = some (b, u) ↔
      NoHead names b ∧ ((head? u).any fun h => isNamed names h.1) ∧ t = b ++ u := by
  constructor
  · intro h
    refine ⟨?_, ?_, eq_append_of_findHead? h⟩
    · induction t generalizing b with
      | nil => simp [findHead?] at h
      | cons c t ih =>
        have ht := eq_append_of_findHead? h
        simp only [findHead?] at h
        split at h
        · obtain ⟨rfl, -⟩ := by simpa using h
          exact noHead_nil names
        · rename_i hnone
          simp only [Option.map_eq_some_iff, Prod.mk.injEq, Prod.exists] at h
          obtain ⟨b', u', hb, rfl, rfl⟩ := h
          refine noHead_cons_iff.mpr ⟨?_, ih hb⟩
          cases hp : head? (c :: b') with
          | none => rfl
          | some p =>
            rw [ht, head?_append_of_some hp] at hnone
            simpa using hnone
    · induction t generalizing b with
      | nil => simp [findHead?] at h
      | cons c t ih =>
        simp only [findHead?] at h
        split at h
        · rename_i hany
          obtain ⟨-, rfl⟩ := by simpa using h
          exact hany
        · simp only [Option.map_eq_some_iff, Prod.mk.injEq, Prod.exists] at h
          obtain ⟨b', u', hb, -, rfl⟩ := h
          exact ih hb
  · rintro ⟨hnone, hany, rfl⟩
    cases u with
    | nil => simp [head?] at hany
    | cons c u =>
      have hc : c = '(' := by
        by_contra hne
        rw [head?_cons_of_ne hne] at hany
        simp at hany
      have hself : findHead? names (c :: u) = some ([], c :: u) := by rw [findHead?, if_pos hany]
      rw [findHead?_append (hc ▸ apart_paren b u) hnone, hself]
      simp

/-- **The first macro** is the one with no head in front of it. -/
theorem find?_eq_some_iff {names : List Text} {t b u : Text} {m : Invocation} :
    find? names t = some (b, m, u) ↔
      NoHead names b ∧ (m.Readable ∧ isNamed names m.name) ∧ t = b ++ (m.source ++ u) := by
  constructor
  · intro h
    have ht := eq_append_of_find? h
    rw [find?] at h
    split at h
    · cases h
    · rename_i before v hhead
      obtain ⟨⟨m', u'⟩, hread, hp⟩ := Option.map_eq_some_iff.mp h
      obtain ⟨rfl, rfl, rfl⟩ : before = b ∧ m' = m ∧ u' = u := by simpa using hp
      obtain ⟨hnone, hbegins, -⟩ := findHead?_eq_some_iff.mp hhead
      obtain ⟨w, hw⟩ := head?_of_read? hread
      rw [hw, Option.any_some] at hbegins
      exact ⟨hnone, ⟨(read?_eq_some_iff.mp hread).1, hbegins⟩, ht⟩
  · rintro ⟨hnone, ⟨hm, hn⟩, rfl⟩
    have hparen : m.source ++ u = '(' :: (m.name ++ ':' :: m.args ++ [')'] ++ u) := by simp [source]
    rw [find?_append (hparen ▸ apart_paren b _) hnone, find?_source_append hm hn, Option.map_some,
      List.append_nil]

/-- What is found in a text is found there with more text behind it. -/
theorem find?_append_of_some {names : List Text} {t b v : Text} {m : Invocation}
    (h : find? names t = some (b, m, v)) (u : Text) : find? names (t ++ u) = some (b, m, v ++ u) := by
  obtain ⟨hnone, hm, rfl⟩ := find?_eq_some_iff.mp h
  exact find?_eq_some_iff.mpr ⟨hnone, hm, by simp only [List.append_assoc]⟩

end Invocation

/-! ### Hooks -/

namespace Hook

/-- A hook that can be attached to a macro: it stands behind a gap, its body closes what it opens, and
its bracket opens no link. -/
structure Attachable (k : Hook) : Prop where
  gap : ∀ c ∈ k.gap, Text.isGap c
  balanced : Bracket.square.Balanced k.body
  noLink : opensLink ('[' :: (k.body ++ [']'])) = false

/-- A hook that is read as it is may be attached. -/
theorem Readable.attachable {k : Hook} (h : k.Readable) : k.Attachable where
  gap := h.gap
  balanced := h.balanced
  noLink := by rw [opensLink, startsWith_two (head?_body_append h.noLink []), Bool.false_and]

/-- Whether a bracket opens a link is seen at what stands up to the closing one. -/
theorem opensLink_append {body : Text} (h : Bracket.square.Balanced body) (u : Text) :
    opensLink ('[' :: (body ++ ']' :: u)) = opensLink ('[' :: (body ++ [']'])) := by
  match body with
  | [] => rfl
  | [c] =>
    have hc : c ≠ '[' := by
      rintro rfl
      exact absurd h (by decide)
    have hhead : ∀ v : Text, (c :: v).head? ≠ some '[' := fun v => by simpa using hc
    simp only [opensLink, List.cons_append, startsWith_two (hhead _), Bool.false_and]
  | c :: d :: body =>
    by_cases hc : c = '[' <;> by_cases hd : d = '[' <;>
      simp [opensLink, Text.startsWith, Text.after?, hc, hd]

/-- **A body ends at the bracket that closes it.** -/
theorem body?_eq_some_iff {t body u : Text} :
    body? t = some (body, u) ↔ Bracket.square.Balanced body ∧ t = '[' :: (body ++ ']' :: u) := by
  constructor
  · intro h
    refine ⟨?_, by simpa using eq_append_of_body? h⟩
    cases t with
    | nil => simp [body?] at h
    | cons c t =>
      simp only [body?] at h
      split at h
      · exact (Bracket.closing?_eq_some_iff.mp h).2
      · simp at h
  · rintro ⟨h, rfl⟩
    exact body?_of_balanced h u

private theorem eq_source_append {t body u : Text}
    (h : t.dropWhile Text.isGap = '[' :: (body ++ ']' :: u)) :
    t = (⟨t.takeWhile Text.isGap, body⟩ : Hook).source ++ u := by
  have hsplit := List.takeWhile_append_dropWhile (p := Text.isGap) (l := t)
  rw [h] at hsplit
  simpa [source] using hsplit.symm

/-- A hook that may be attached is found where it stands. -/
theorem Attachable.attached?_source_append {k : Hook} (h : k.Attachable) (u : Text) :
    attached? (k.source ++ u) = some (k, u) := by
  have hlink := (opensLink_append h.balanced u).trans h.noLink
  simp only [attached?, dropWhile_source_append h.gap, takeWhile_source_append h.gap, hlink,
    body?_of_balanced h.balanced]
  rfl

/-- **A hook is read behind a macro** where its source stands, if it can be attached. -/
theorem attached?_eq_some_iff {t u : Text} {k : Hook} :
    attached? t = some (k, u) ↔ k.Attachable ∧ t = k.source ++ u := by
  constructor
  · intro h
    simp only [attached?] at h
    split at h
    · simp at h
    · rename_i hlink
      simp only [Option.map_eq_some_iff, Prod.mk.injEq, Prod.exists] at h
      obtain ⟨body, v, hbody, rfl, rfl⟩ := h
      obtain ⟨hbalanced, hrest⟩ := body?_eq_some_iff.mp hbody
      rw [hrest, opensLink_append hbalanced] at hlink
      exact ⟨⟨fun c hc => List.mem_takeWhile_imp hc, hbalanced, by simpa using hlink⟩,
        eq_source_append hrest⟩
  · rintro ⟨h, rfl⟩
    exact h.attached?_source_append u

/-- **A bare hook is read** where its source stands, if it is readable. -/
theorem bare?_eq_some_iff {t u : Text} {k : Hook} :
    bare? t = some (k, u) ↔ k.Readable ∧ t = k.source ++ u := by
  constructor
  · intro h
    simp only [bare?] at h
    split at h
    · simp at h
    · rename_i hlink
      simp only [Option.map_eq_some_iff, Prod.mk.injEq, Prod.exists] at h
      obtain ⟨body, v, hbody, rfl, rfl⟩ := h
      obtain ⟨hbalanced, hrest⟩ := body?_eq_some_iff.mp hbody
      refine ⟨⟨fun c hc => List.mem_takeWhile_imp hc, hbalanced, fun hhead => hlink ?_⟩,
        eq_source_append hrest⟩
      obtain ⟨body', rfl⟩ : ∃ body', body = '[' :: body' := by cases body <;> simp_all
      rw [hrest]
      simp [Text.startsWith, Text.after?]
  · rintro ⟨h, rfl⟩
    exact bare?_source_append h u

end Hook

/-! ### Chains -/

/-- The branch begins a chain with a macro. -/
structure Branch.Begins (b : Branch) (m : Invocation) : Prop where
  call : b.call = some m
  gap : b.gap = []
  named : Invocation.isNamed ifNames m.name
  readable : m.Readable
  hook : b.hook.Attachable

namespace Chain

open Invocation

/-- The branches are those behind the first one of a chain that ends before a text. -/
inductive Continued : List Branch → Text → Prop where
  | stops {u : Text} : readLater u = ([], u) → Continued [] u
  | elseIf {gap : Text} {m : Invocation} {k : Hook} {bs : List Branch} {u : Text} :
    (∀ c ∈ gap, Text.isGap c) → m.Readable → isNamed elseIfNames m.name → k.Attachable →
      Continued bs u → Continued (⟨gap, some m, k⟩ :: bs) u
  | closed {gap : Text} {m : Invocation} {k : Hook} (u : Text) :
    (∀ c ∈ gap, Text.isGap c) → m.Readable → isNamed elseNames m.name → k.Attachable →
      Continued [⟨gap, some m, k⟩] u
  | bare {k : Hook} (u : Text) : k.Readable → Continued [⟨[], none, k⟩] u

/-- The next macro stands behind a gap, and is read as it is. -/
private theorem readable_of_nextMacro? {t gap v : Text} {m : Invocation}
    (h : nextMacro? t = some (gap, m, v)) : (∀ c ∈ gap, Text.isGap c) ∧ m.Readable := by
  simp only [nextMacro?, Option.map_eq_some_iff, Prod.mk.injEq, Prod.exists] at h
  obtain ⟨m', v', hm, rfl, rfl, rfl⟩ := h
  exact ⟨fun c hc => List.mem_takeWhile_imp hc, (read?_eq_some_iff.mp hm).1⟩

/-- The branches that are read go on with the chain. -/
theorem continued_of_readLater {t u : Text} {bs : List Branch} (h : readLater t = (bs, u)) :
    Continued bs u := by
  have hread := h
  rw [readLater] at hread
  have hstops : ([], t) = (bs, u) → Continued bs u := by
    rintro ⟨⟩
    exact .stops h
  split at hread
  · rename_i gap m v hm
    obtain ⟨hgap, hreadable⟩ := readable_of_nextMacro? hm
    split at hread
    · rename_i helseIf
      split at hread
      · rename_i k v' hk
        have hlen : v'.length < t.length := by
          have := Hook.length_lt_of_eq_append (Hook.eq_append_of_attached? hk)
          rw [eq_append_of_nextMacro? hm]
          simp only [List.length_append]
          omega
        obtain ⟨rfl, rfl⟩ := Prod.mk.inj hread
        exact .elseIf hgap hreadable helseIf (Hook.attached?_eq_some_iff.mp hk).1
          (continued_of_readLater (t := v') rfl)
      · exact hstops hread
    · split at hread
      · rename_i helse
        split at hread
        · rename_i k v' hk
          obtain ⟨rfl, rfl⟩ := Prod.mk.inj hread
          exact .closed v' hgap hreadable helse (Hook.attached?_eq_some_iff.mp hk).1
        · exact hstops hread
      · exact hstops hread
  · split at hread
    · rename_i k v' hk
      obtain ⟨rfl, rfl⟩ := Prod.mk.inj hread
      exact .bare v' (Hook.bare?_eq_some_iff.mp hk).1
    · exact hstops hread
termination_by t.length

theorem readLater_elseIf {t v gap u : Text} {m : Invocation} {k : Hook}
    (hm : nextMacro? t = some (gap, m, v)) (hn : isNamed elseIfNames m.name)
    (hk : Hook.attached? v = some (k, u)) :
    readLater t = (⟨gap, some m, k⟩ :: (readLater u).1, (readLater u).2) := by
  rw [readLater]
  split
  · rename_i gap' m' v' hm'
    rw [hm] at hm'
    obtain ⟨rfl, rfl, rfl⟩ := by simpa using hm'
    rw [if_pos hn]
    split
    · rename_i k' u' hk'
      rw [hk] at hk'
      obtain ⟨rfl, rfl⟩ := by simpa using hk'
      rfl
    · simp_all
  · simp_all

theorem readLater_else {t v gap u : Text} {m : Invocation} {k : Hook}
    (hm : nextMacro? t = some (gap, m, v)) (hn : isNamed elseNames m.name)
    (hk : Hook.attached? v = some (k, u)) : readLater t = ([⟨gap, some m, k⟩], u) := by
  rw [readLater]
  split
  · rename_i gap' m' v' hm'
    rw [hm] at hm'
    obtain ⟨rfl, rfl, rfl⟩ := by simpa using hm'
    simp [not_elseIf_of_else hn, hn, hk]
  · simp_all

theorem readLater_bare {t u : Text} {k : Hook} (hm : nextMacro? t = none)
    (hk : Hook.bare? t = some (k, u)) : readLater t = ([⟨[], none, k⟩], u) := by
  rw [readLater]
  split
  · simp_all
  · simp [hk]

/-- **The branches behind the first are read** where their sources stand, before a text of which the
chain takes nothing. -/
theorem readLater_eq_iff {t u : Text} {bs : List Branch} :
    readLater t = (bs, u) ↔ Continued bs u ∧ t = bs.flatMap Branch.source ++ u := by
  constructor
  · intro h
    have ht := readLater_append t
    rw [h] at ht
    exact ⟨continued_of_readLater h, ht.symm⟩
  · rintro ⟨h, rfl⟩
    induction h with
    | stops h => exact h
    | @elseIf gap m k bs u hgap hm hn hk _ ih =>
      have hnext := nextMacro?_append hgap hm (k.source ++ (bs.flatMap Branch.source ++ u))
      have hread := readLater_elseIf hnext hn (hk.attached?_source_append _)
      rw [ih] at hread
      simpa [Branch.source] using hread
    | @closed gap m k u hgap hm hn hk =>
      have hnext := nextMacro?_append hgap hm (k.source ++ u)
      have hread := readLater_else hnext hn (hk.attached?_source_append u)
      simpa [Branch.source] using hread
    | @bare k u hk =>
      have hnext : nextMacro? (k.source ++ u) = none := by
        simp [nextMacro?, Hook.dropWhile_source_append hk.gap, read?_cons_of_ne]
      have hread := readLater_bare hnext (Hook.bare?_eq_some_iff.mpr ⟨hk, rfl⟩)
      simpa [Branch.source] using hread

/-- **A chain is read** where its source stands, before a text of which it takes nothing. -/
theorem read?_eq_some_iff {t u : Text} {c : Chain} :
    read? t = some (c, u) ↔
      (∃ m, c.first.Begins m) ∧ Continued c.later u ∧ t = c.source ++ u := by
  constructor
  · intro h
    have ht := eq_append_of_read? h
    simp only [read?] at h
    split at h
    · simp at h
    · rename_i m v hm
      split at h
      · rename_i hn
        simp only [Option.map_eq_some_iff, Prod.mk.injEq, Prod.exists] at h
        obtain ⟨k, v', hk, rfl, rfl⟩ := h
        exact ⟨⟨m, rfl, rfl, hn, (Invocation.read?_eq_some_iff.mp hm).1,
          (Hook.attached?_eq_some_iff.mp hk).1⟩, continued_of_readLater rfl, ht⟩
      · simp at h
  · rintro ⟨⟨m, hcall, hgap, hn, hm, hk⟩, hlater, rfl⟩
    obtain ⟨⟨gap, call, k⟩, later⟩ := c
    obtain rfl : gap = [] := hgap
    obtain rfl : call = some m := hcall
    have hmore := readLater_eq_iff.mpr ⟨hlater, rfl⟩
    simp [source, branches, Branch.source, read?, Invocation.read?_source_append hm, hn,
      hk.attached?_source_append, hmore]

end Chain

/-! ### Chains and guards in a text -/

/-- **A guard is read** where its source stands. -/
theorem Guard.read?_eq_some_iff {t u : Text} {g : Guard} :
    read? t = some (g, u) ↔
      (g.call.Readable ∧ Invocation.isNamed guardNames g.call.name ∧
        Query.ofText? g.call.args = some g.query ∧ g.hook.Attachable) ∧ t = g.source ++ u := by
  constructor
  · intro h
    refine ⟨?_, eq_append_of_read? h⟩
    simp only [read?] at h
    split at h
    · simp at h
    · rename_i m v hm
      split at h
      · rename_i hn
        split at h
        · simp at h
        · rename_i q hq
          simp only [Option.map_eq_some_iff, Prod.mk.injEq, Prod.exists] at h
          obtain ⟨k, v', hk, rfl, rfl⟩ := h
          exact ⟨(Invocation.read?_eq_some_iff.mp hm).1, hn, hq,
            (Hook.attached?_eq_some_iff.mp hk).1⟩
      · simp at h
  · rintro ⟨⟨hm, hn, hq, hk⟩, rfl⟩
    simp [read?, source, Invocation.read?_source_append hm, hn, hq, hk.attached?_source_append]

namespace Conditional

open Invocation

/-- The chain or guard is what is read in front of a text. -/
inductive ReadBefore : Conditional → Text → Prop where
  | chain {c : Chain} {m : Invocation} {u : Text} :
    c.first.Begins m → Chain.Continued c.later u → ReadBefore (chain c) u
  | guard {g : Guard} (u : Text) : g.call.Readable → isNamed guardNames g.call.name →
    Query.ofText? g.call.args = some g.query → g.hook.Attachable → ReadBefore (guard g) u

/-- A chain or guard begins with an open bracket. -/
theorem ReadBefore.exists_source {k : Conditional} {u : Text} (h : k.ReadBefore u) :
    ∃ t, k.source = '(' :: t := by
  cases h with
  | @chain c m _ hfirst _ =>
    refine ⟨m.name ++ ':' :: m.args ++ [')'] ++ c.first.hook.source ++
      c.later.flatMap Branch.source, ?_⟩
    simp [source, Chain.source, Chain.branches, Branch.source, hfirst.call, hfirst.gap,
      Invocation.source]
  | @guard g _ _ _ _ _ =>
    exact ⟨g.call.name ++ ':' :: g.call.args ++ [')'] ++ g.hook.source,
      by simp [source, Guard.source, Invocation.source]⟩

/-- **A chain or guard is found** where its source stands, behind a text without heads and before one of
which it takes nothing. -/
theorem find?_eq_some_iff {t b u : Text} {k : Conditional} (hk : k ≠ stray) :
    find? t = some (b, k, u) ↔ NoHead names b ∧ k.ReadBefore u ∧ t = b ++ (k.source ++ u) := by
  constructor
  · intro h
    have ht := eq_append_of_find? h
    simp only [find?, Option.map_eq_some_iff, Prod.mk.injEq, Prod.exists] at h
    obtain ⟨b', v, hv, rfl, hhead⟩ := h
    refine ⟨(findHead?_eq_some_iff.mp hv).1, ?_, ht⟩
    simp only [ofHead] at hhead
    split at hhead
    · split at hhead
      · rename_i g v' hg
        obtain ⟨rfl, rfl⟩ := Prod.mk.inj hhead
        obtain ⟨⟨hm, hn, hq, hhook⟩, -⟩ := Guard.read?_eq_some_iff.mp hg
        exact .guard v' hm hn hq hhook
      · exact absurd (Prod.mk.inj hhead).1.symm hk
    · split at hhead
      · rename_i c v' hc
        obtain ⟨rfl, rfl⟩ := Prod.mk.inj hhead
        obtain ⟨⟨m, hfirst⟩, hlater, -⟩ := Chain.read?_eq_some_iff.mp hc
        exact .chain hfirst hlater
      · exact absurd (Prod.mk.inj hhead).1.symm hk
  · rintro ⟨hnone, hread, rfl⟩
    obtain ⟨v, hv⟩ := hread.exists_source
    have hfront : find? (k.source ++ u) = some ([], k, u) := by
      cases hread with
      | @chain c m _ hfirst hlater =>
        have hread := Chain.read?_eq_some_iff.mpr ⟨⟨m, hfirst⟩, hlater, rfl⟩
        refine find?_chain hfirst.readable.isName hfirst.named ?_ hread
        refine ⟨c.first.hook.source ++ (c.later.flatMap Branch.source ++ u), ?_⟩
        simp [source, Chain.source, Chain.branches, Branch.source, hfirst.call, hfirst.gap]
      | @guard g _ hm hn hq hhook =>
        have hread := (Guard.read?_eq_some_iff (u := u)).mpr ⟨⟨hm, hn, hq, hhook⟩, rfl⟩
        exact find?_guard hm.isName hn ⟨g.hook.source ++ u, by simp [source, Guard.source]⟩ hread
    have hapart : Apart b (k.source ++ u) := by
      rw [hv]
      exact apart_paren b (v ++ u)
    rw [find?_append hapart hnone, hfront]
    simp

end Conditional

end Hyperfiction

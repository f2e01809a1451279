import Hyperfiction.Markup.Chain

/-!
# Markup that is written is read back

The readers of `Hyperfiction.Markup` split a text and their `eq_append` lemmas say that nothing is lost.
Here is the other direction: an invocation, a hook, a chain or a guard that is **readable** is read
back from its source, whatever follows it (`Invocation.read?_source_append`,
`Hook.attached?_source_append`, `Chain.read?_source_append`, `Guard.read?_source_append`). A chain goes
on as far as it can, so what follows it has to matter: `Chain.Tail bs t` says that the branches `bs` may
stand before `t` and take up nothing of it.
-/

namespace Hyperfiction

namespace Bracket

/-- A closer behind a text that closes what it opens is the one that matches. -/
theorem closing?_of_depth? {b : Bracket} {n : Nat} {t : Text} (h : b.depth? n t = some 0) (u : Text) :
    b.closing? n (t ++ b.closer :: u) = some (t, u) :=
  closing?_eq_some_iff.mpr ⟨rfl, h⟩

/-- The closer behind a text that leads to a depth is the one that matches from there. -/
theorem closing?_append {b : Bracket} {n k : Nat} {t : Text} (h : b.depth? n t = some k) (u : Text) :
    b.closing? n (t ++ u) = (b.closing? k u).map fun p => (t ++ p.1, p.2) := by
  induction t generalizing n with
  | nil =>
    obtain rfl : n = k := Option.some.inj h
    rw [List.nil_append]
    cases b.closing? n u <;> rfl
  | cons c t ih =>
    rw [depth?_cons] at h
    cases hs : b.step? n c with
    | none => simp [hs] at h
    | some m =>
      rw [hs, Option.bind_some] at h
      rw [List.cons_append, closing?, hs]
      simp only [ih h, Option.map_map, Function.comp_def, List.cons_append]

/-- No closer matches exactly when every one in the text matches a bracket that the text opens. -/
theorem closing?_eq_none_iff {b : Bracket} {n : Nat} {t : Text} :
    b.closing? n t = none ↔ (b.depth? n t).isSome := by
  induction t generalizing n with
  | nil => exact iff_of_true rfl rfl
  | cons c t ih =>
    rw [closing?, depth?_cons]
    cases b.step? n c with
    | none => exact iff_of_false (Option.some_ne_none _) Bool.false_ne_true
    | some k => rw [Option.map_eq_none_iff, ih]; rfl

theorem balanced_nil (b : Bracket) : b.Balanced [] := rfl

theorem Balanced.append {b : Bracket} {s t : Text} (hs : b.Balanced s) (ht : b.Balanced t) :
    b.Balanced (s ++ t) := by
  unfold Balanced at *
  rw [depth?_append, hs]
  exact ht

/-- A text without brackets of a class leaves every depth as it is. -/
theorem depth?_of_not_mem {b : Bracket} {t : Text} (ho : b.opener ∉ t) (hc : b.closer ∉ t) (n : Nat) :
    b.depth? n t = some n := by
  induction t with
  | nil => rfl
  | cons c t ih =>
    simp only [List.mem_cons, not_or] at ho hc
    have hs : b.step? n c = some n := by
      rw [step?, if_neg (Ne.symm ho.1), if_neg (Ne.symm hc.1)]
    rw [depth?_cons, hs]
    exact ih ho.2 hc.2

theorem balanced_of_not_mem {b : Bracket} {t : Text} (ho : b.opener ∉ t) (hc : b.closer ∉ t) :
    b.Balanced t :=
  depth?_of_not_mem ho hc 0

/-- What a depth leads to, a depth that is higher leads to as well. -/
theorem depth?_add {b : Bracket} {n k : Nat} {t : Text} (h : b.depth? n t = some k) (m : Nat) :
    b.depth? (n + m) t = some (k + m) := by
  induction t generalizing n with
  | nil => simp_all [depth?]
  | cons c t ih =>
    rw [depth?_cons] at h ⊢
    cases hs : b.step? n c with
    | none => simp [hs] at h
    | some j =>
      have hs' : b.step? (n + m) c = some (j + m) := by
        unfold step? at hs ⊢
        grind
      rw [hs] at h
      rw [hs']
      exact ih h

/-- A balanced text leads back to the depth in front of it. -/
theorem Balanced.depth?_eq {b : Bracket} {t : Text} (h : b.Balanced t) (n : Nat) :
    b.depth? n t = some n := by
  have hdepth := depth?_add h n
  rwa [Nat.zero_add] at hdepth

/-- A balanced text in its brackets is balanced. -/
theorem Balanced.enclosed {b : Bracket} {t : Text} (h : b.Balanced t) :
    b.Balanced (b.opener :: t ++ [b.closer]) := by
  have hopen : b.step? 0 b.opener = some 1 := by simp [step?]
  have hclose : b.step? 1 b.closer = some 0 := by simp [step?, b.opener_ne_closer.symm]
  have hin : b.depth? 1 t = some 1 := by simpa using depth?_add h 1
  unfold Balanced
  rw [List.cons_append, depth?_cons, hopen, Option.bind_some, depth?_append, hin, Option.bind_some,
    depth?_cons, hclose]
  rfl

end Bracket

/-! ### Invocations -/

namespace Invocation

/-- Names of macros are of name characters, at least one. -/
def IsName (name : Text) : Prop := name ≠ [] ∧ ∀ c ∈ name, isNameChar c

instance (name : Text) : Decidable (IsName name) :=
  decidable_of_iff (name ≠ [] ∧ name.all isNameChar) (by rw [IsName, List.all_eq_true])

/-- An invocation is **readable** when it has a name and closes what its arguments open. -/
structure Readable (m : Invocation) : Prop where
  isName : IsName m.name
  balanced : Bracket.round.Balanced m.args

theorem head?_of_isName {name : Text} (h : IsName name) (u : Text) :
    head? ('(' :: name ++ ':' :: u) = some (name, u) := by
  have hcolon : isNameChar ':' = false := by decide
  simp [head?, List.takeWhile_append_of_pos h.2, List.dropWhile_append_of_pos h.2, hcolon, h.1]

/-- The head of a macro is found in front of its arguments. -/
theorem head?_source_append {m : Invocation} (h : IsName m.name) (u : Text) :
    head? (m.source ++ u) = some (m.name, m.args ++ ')' :: u) := by
  rw [← head?_of_isName h]
  simp [source]

/-- **An invocation is read back**, whatever follows it. -/
theorem read?_source_append {m : Invocation} (h : m.Readable) (u : Text) :
    read? (m.source ++ u) = some (m, u) := by
  have hclose : Bracket.round.closing? 0 (m.args ++ ')' :: u) = some (m.args, u) :=
    Bracket.closing?_of_depth? h.balanced u
  simp [read?, head?_source_append h.isName, hclose]

/-- A name and its colon hold no round bracket. -/
theorem depth?_name {name : Text} (h : IsName name) : Bracket.round.depth? 0 (name ++ [':']) = some 0 := by
  have hmem (c : Char) (hc : isNameChar c = false) (hne : c ≠ ':') : c ∉ name ++ [':'] := by
    intro hin
    rcases List.mem_append.mp hin with hin | hin
    · rw [h.2 c hin] at hc
      cases hc
    · exact hne (List.mem_singleton.mp hin)
  exact Bracket.depth?_of_not_mem (hmem '(' (by decide) (by decide))
    (hmem ')' (by decide) (by decide)) 0

/-- An invocation closes the brackets that it opens. -/
theorem Readable.balanced_source {m : Invocation} (h : m.Readable) : Bracket.round.Balanced m.source := by
  have hinside : Bracket.round.Balanced (m.name ++ [':'] ++ m.args) :=
    Bracket.Balanced.append (depth?_name h.isName) h.balanced
  have hsource : m.source = '(' :: (m.name ++ [':'] ++ m.args) ++ [')'] := by simp [source]
  rw [hsource]
  exact hinside.enclosed

/-- What stands at the front of a text with another bracket or no bracket is no invocation. -/
theorem read?_cons_of_ne {c : Char} (h : c ≠ '(') (t : Text) : read? (c :: t) = none := by
  have hhead : head? (c :: t) = none := by
    cases hh : head? (c :: t) with
    | none => rfl
    | some p => exact absurd (List.cons.inj (eq_append_of_head? hh)).1 h
  simp [read?, hhead]

end Invocation

/-! ### Hooks -/

namespace Hook

/-- A hook is **readable** when it stands behind a gap, its body closes what it opens, and does not
begin with a bracket, which would make a link of it. -/
structure Readable (k : Hook) : Prop where
  gap : ∀ c ∈ k.gap, Text.isGap c
  balanced : Bracket.square.Balanced k.body
  noLink : k.body.head? ≠ some '['

private theorem isGap_opener : Text.isGap '[' = false := by decide

theorem takeWhile_source_append {k : Hook} (h : ∀ c ∈ k.gap, Text.isGap c) (u : Text) :
    (k.source ++ u).takeWhile Text.isGap = k.gap := by
  have hk : k.source ++ u = k.gap ++ ('[' :: (k.body ++ ']' :: u)) := by simp [source]
  rw [hk, List.takeWhile_append_of_pos h]
  simp [isGap_opener]

theorem dropWhile_source_append {k : Hook} (h : ∀ c ∈ k.gap, Text.isGap c) (u : Text) :
    (k.source ++ u).dropWhile Text.isGap = '[' :: (k.body ++ ']' :: u) := by
  have hk : k.source ++ u = k.gap ++ ('[' :: (k.body ++ ']' :: u)) := by simp [source]
  rw [hk, List.dropWhile_append_of_pos h]
  simp [isGap_opener]

/-- A balanced body is read as far as its bracket. -/
theorem body?_of_balanced {body : Text} (h : Bracket.square.Balanced body) (u : Text) :
    body? ('[' :: (body ++ ']' :: u)) = some (body, u) := by
  have hclose : Bracket.square.closing? 0 (body ++ ']' :: u) = some (body, u) :=
    Bracket.closing?_of_depth? h u
  simp [body?, hclose]

/-- Text behind one bracket begins with two only if it begins with a bracket. -/
theorem startsWith_two {t : Text} (h : t.head? ≠ some '[') :
    Text.startsWith ('[' :: t) ['[', '['] = false := by
  cases t with
  | nil => rfl
  | cons c t =>
    have hc : c ≠ '[' := by simpa using h
    simp [Text.startsWith, Text.after?, hc]

theorem head?_body_append {body : Text} (h : body.head? ≠ some '[') (u : Text) :
    (body ++ ']' :: u).head? ≠ some '[' := by
  cases body with
  | nil => simp
  | cons c body => simpa using h

/-- **A hook is read back** behind a macro, whatever follows it. -/
theorem attached?_source_append {k : Hook} (h : k.Readable) (u : Text) :
    attached? (k.source ++ u) = some (k, u) := by
  have hlink : opensLink ('[' :: (k.body ++ ']' :: u)) = false := by
    rw [opensLink, startsWith_two (head?_body_append h.noLink u), Bool.false_and]
  simp only [attached?, dropWhile_source_append h.gap, takeWhile_source_append h.gap, hlink,
    body?_of_balanced h.balanced]
  rfl

/-- **A bare hook is read back**, whatever follows it. -/
theorem bare?_source_append {k : Hook} (h : k.Readable) (u : Text) :
    bare? (k.source ++ u) = some (k, u) := by
  have hlink := startsWith_two (head?_body_append h.noLink u)
  simp only [bare?, dropWhile_source_append h.gap, takeWhile_source_append h.gap, hlink,
    body?_of_balanced h.balanced]
  rfl

end Hook

/-! ### Chains -/

namespace Branch

/-- The branch under a condition that continues a chain. -/
structure Continues (b : Branch) (m : Invocation) : Prop where
  call : b.call = some m
  gap : ∀ c ∈ b.gap, Text.isGap c
  named : Invocation.isNamed elseIfNames m.name
  readable : m.Readable
  hook : b.hook.Readable

/-- The branch that ends a chain with a macro. -/
structure Closes (b : Branch) (m : Invocation) : Prop where
  call : b.call = some m
  gap : ∀ c ∈ b.gap, Text.isGap c
  named : Invocation.isNamed elseNames m.name
  readable : m.Readable
  hook : b.hook.Readable

/-- The branch that ends a chain with a bare hook. -/
structure IsBare (b : Branch) : Prop where
  call : b.call = none
  gap : b.gap = []
  hook : b.hook.Readable

end Branch

namespace Chain

/-- No branch of a chain begins at the front of the text, behind a gap or not. -/
structure EndsAt (t : Text) : Prop where
  noMacro : ∀ m u, Invocation.read? (t.dropWhile Text.isGap) = some (m, u) →
    Invocation.isNamed elseIfNames m.name = false ∧ Invocation.isNamed elseNames m.name = false
  noHook : Hook.bare? t = none

theorem endsAt_nil : EndsAt [] where
  noMacro m u h := by simp [Invocation.read?, Invocation.head?] at h
  noHook := rfl

/-- A gap makes no difference to what begins behind it. -/
theorem EndsAt.gap_append {gap t : Text} (hg : ∀ c ∈ gap, Text.isGap c) (h : EndsAt t) :
    EndsAt (gap ++ t) := by
  have hdrop : (gap ++ t).dropWhile Text.isGap = t.dropWhile Text.isGap :=
    List.dropWhile_append_of_pos hg
  refine ⟨fun m u hm => h.noMacro m u (by rwa [hdrop] at hm), ?_⟩
  have hbare := h.noHook
  simp only [Hook.bare?, hdrop] at hbare ⊢
  split
  · rfl
  · rename_i hlink
    rw [if_neg hlink] at hbare
    simpa using hbare

/-- A text whose first character is in no gap and opens no hook begins a branch only with a macro. -/
theorem endsAt_cons {c : Char} {t : Text} (hg : Text.isGap c = false) (hc : c ≠ '[')
    (h : ∀ m u, Invocation.read? (c :: t) = some (m, u) →
      Invocation.isNamed elseIfNames m.name = false ∧
        Invocation.isNamed elseNames m.name = false) : EndsAt (c :: t) := by
  have hdrop : (c :: t).dropWhile Text.isGap = c :: t := by simp [hg]
  refine ⟨fun m u hm => h m u (by rwa [hdrop] at hm), ?_⟩
  simp [Hook.bare?, hdrop, Hook.body?, hc]

/-- The branches may stand behind the first one of a chain, before a text of which the chain takes
nothing. -/
inductive Tail : List Branch → Text → Prop where
  | none {t : Text} : EndsAt t → Tail [] t
  | closes {b : Branch} {m : Invocation} (t : Text) : b.Closes m → Tail [b] t
  | bare {b : Branch} (t : Text) : b.IsBare → Tail [b] t
  | continues {b : Branch} {m : Invocation} {bs : List Branch} {t : Text} :
    b.Continues m → Tail bs t → Tail (b :: bs) t

theorem nextMacro?_append {gap : Text} (hg : ∀ c ∈ gap, Text.isGap c) {m : Invocation}
    (hm : m.Readable) (u : Text) : nextMacro? (gap ++ (m.source ++ u)) = some (gap, m, u) := by
  have hparen : Text.isGap '(' = false := by decide
  have htake : (gap ++ (m.source ++ u)).takeWhile Text.isGap = gap := by
    rw [List.takeWhile_append_of_pos hg]
    simp [Invocation.source, hparen]
  have hdrop : (gap ++ (m.source ++ u)).dropWhile Text.isGap = m.source ++ u := by
    rw [List.dropWhile_append_of_pos hg]
    simp [Invocation.source, hparen]
  simp [nextMacro?, htake, hdrop, Invocation.read?_source_append hm]

/-- A name that ends a chain continues none. -/
theorem not_elseIf_of_else {name : Text} (h : Invocation.isNamed elseNames name) :
    Invocation.isNamed elseIfNames name = false := by
  have hname : name.map Char.toLower = "else".toList := by
    simpa [Invocation.isNamed, elseNames] using h
  simp only [Invocation.isNamed, hname]
  decide

/-- Where a chain ends no more branches are read. -/
theorem readLater_of_endsAt {t : Text} (h : EndsAt t) : readLater t = ([], t) := by
  rw [readLater]
  split
  · rename_i gap m u hm
    have hread : Invocation.read? (t.dropWhile Text.isGap) = some (m, u) := by
      simp only [nextMacro?, Option.map_eq_some_iff, Prod.mk.injEq] at hm
      obtain ⟨p, hp, -, rfl⟩ := hm
      exact hp
    obtain ⟨helseIf, helse⟩ := h.noMacro m u hread
    simp [helseIf, helse]
  · simp [h.noHook]

/-- **The branches behind the first are read back.** -/
theorem readLater_of_tail {bs : List Branch} {t : Text} (h : Tail bs t) :
    readLater (bs.flatMap Branch.source ++ t) = (bs, t) := by
  induction h with
  | none h => exact readLater_of_endsAt h
  -- The macro is no `(else-if:)`, so its hook ends the chain whatever follows.
  | @closes b m t h =>
    obtain ⟨gap, call, k⟩ := b
    obtain rfl : call = some m := h.call
    have hm := nextMacro?_append h.gap h.readable (k.source ++ t)
    have hk := Hook.attached?_source_append h.hook t
    simp only [List.flatMap_cons, List.flatMap_nil, Branch.source, Option.map_some,
      Option.getD_some, List.append_assoc, List.append_nil] at hm hk ⊢
    rw [readLater]
    split
    · rename_i gap' m' u' hm'
      rw [hm] at hm'
      obtain ⟨rfl, rfl, rfl⟩ := by simpa using hm'
      simp [not_elseIf_of_else h.named, h.named, hk]
    · simp_all
  | @bare b t h =>
    obtain ⟨gap, call, k⟩ := b
    obtain rfl : call = Option.none := h.call
    obtain rfl : gap = [] := h.gap
    have hk := Hook.bare?_source_append h.hook t
    -- A bare hook has no macro in front, which is what keeps it from being read as another branch.
    have hm : nextMacro? (k.source ++ t) = Option.none := by
      simp [nextMacro?, Hook.dropWhile_source_append h.hook.gap, Invocation.read?_cons_of_ne]
    simp only [List.flatMap_cons, List.flatMap_nil, Branch.source, Option.map_none,
      Option.getD_none, List.append_nil, List.nil_append] at hm hk ⊢
    rw [readLater]
    split
    · simp_all
    · simp [hk]
  | @continues b m bs t h _ ih =>
    obtain ⟨gap, call, k⟩ := b
    obtain rfl : call = some m := h.call
    have hm := nextMacro?_append h.gap h.readable (k.source ++ (bs.flatMap Branch.source ++ t))
    have hk := Hook.attached?_source_append h.hook (bs.flatMap Branch.source ++ t)
    simp only [List.flatMap_cons, Branch.source, Option.map_some, Option.getD_some,
      List.append_assoc] at hm hk ⊢
    rw [readLater]
    split
    · rename_i gap' m' u' hm'
      rw [hm] at hm'
      obtain ⟨rfl, rfl, rfl⟩ := by simpa using hm'
      rw [if_pos h.named]
      split
      · rename_i k' v' hk'
        rw [hk] at hk'
        obtain ⟨rfl, rfl⟩ := by simpa using hk'
        simp [ih]
      · simp_all
    · simp_all

/-- **A chain is read back** before a text of which it takes nothing. -/
theorem read?_source_append {m : Invocation} {k : Hook} {bs : List Branch} {t : Text}
    (hm : m.Readable) (hn : Invocation.isNamed ifNames m.name) (hk : k.Readable) (h : Tail bs t) :
    read? ((⟨⟨[], some m, k⟩, bs⟩ : Chain).source ++ t) = some (⟨⟨[], some m, k⟩, bs⟩, t) := by
  have hs : (⟨⟨[], some m, k⟩, bs⟩ : Chain).source ++ t =
      m.source ++ (k.source ++ (bs.flatMap Branch.source ++ t)) := by
    simp [source, branches, Branch.source]
  simp [hs, read?, Invocation.read?_source_append hm, hn, Hook.attached?_source_append hk,
    readLater_of_tail h]

end Chain

/-- **A guard is read back**, whatever follows it. -/
theorem Guard.read?_source_append {g : Guard} (hm : g.call.Readable)
    (hn : Invocation.isNamed guardNames g.call.name) (hq : Query.ofText? g.call.args = some g.query)
    (hk : g.hook.Readable) (t : Text) : read? (g.source ++ t) = some (g, t) := by
  have hs : g.source ++ t = g.call.source ++ (g.hook.source ++ t) := by simp [source]
  simp [hs, read?, Invocation.read?_source_append hm, hn, hq, Hook.attached?_source_append hk]

end Hyperfiction

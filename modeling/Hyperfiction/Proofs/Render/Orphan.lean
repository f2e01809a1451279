import Hyperfiction.Proofs.Markup.Pass

/-!
# Chains among orphans

Branches that no chain took up are removed with the hooks attached to them, wherever they stand and
whatever their hooks hold. A chain that a limit left unresolved is not safe from that: an `(else:)` of
its own is taken for an orphan, and it is gone with the orphan whose hook it stands in
(`not_whole_of_else`). Any other chain stays whole (`removeOrphans_chain`): one without macros of later
branches that does not begin inside one of the orphans that are removed.
-/

namespace Hyperfiction

open Invocation

/-! ### Where orphans stand -/

/-- The position is inside one of the orphans that a text is cut at: behind its first character and
before its end. -/
def Orphan.Inside : Nat → List (Cut Orphan) → Prop
  | _, [] => False
  | n, ⟨before, o⟩ :: more =>
    (before.length < n ∧ n < before.length + o.source.length) ∨
      (before.length + o.source.length ≤ n ∧
        Inside (n - (before.length + o.source.length)) more)

/-- Whether a position is inside an orphan can be computed. -/
def Orphan.decidableInside : ∀ (n : Nat) (os : List (Cut Orphan)), Decidable (Inside n os)
  | _, [] => .isFalse id
  | n, ⟨before, o⟩ :: more =>
    have : Decidable (Inside (n - (before.length + o.source.length)) more) :=
      decidableInside (n - (before.length + o.source.length)) more
    inferInstanceAs (Decidable ((before.length < n ∧ n < before.length + o.source.length) ∨
      (before.length + o.source.length ≤ n ∧
        Inside (n - (before.length + o.source.length)) more)))

instance (n : Nat) (os : List (Cut Orphan)) : Decidable (Orphan.Inside n os) :=
  Orphan.decidableInside n os

/-- The search for orphans passes over a text without their heads. -/
theorem Orphan.find?_append {t u : Text} (ha : Apart t u) (h : NoHead Orphan.names t) :
    Orphan.finder.find? (t ++ u) = (Orphan.finder.find? u).map fun p => (t ++ p.1, p.2) := by
  change Orphan.find? (t ++ u) = (Orphan.find? u).map fun p => (t ++ p.1, p.2)
  unfold Orphan.find?
  rw [Invocation.find?_append ha h]
  cases Invocation.find? Orphan.names u with
  | none => rfl
  | some p => cases hk : Hook.attached? p.2.2 <;> simp [hk]

/-- Where a head of an orphan stands, one is found or none at all. -/
private theorem Orphan.find?_of_findHead? {t before u : Text}
    (h : findHead? Orphan.names t = some (before, u)) :
    Orphan.finder.find? t = none ∨ ∃ o v, Orphan.finder.find? t = some (before, o, v) := by
  change Orphan.find? t = none ∨ ∃ o v, Orphan.find? t = some (before, o, v)
  unfold Orphan.find? Invocation.find?
  rw [h]
  simp only
  cases Invocation.read? u with
  | none => exact .inl rfl
  | some p =>
    right
    simp only [Option.map_some]
    split
    · exact ⟨_, _, rfl⟩
    · exact ⟨_, _, rfl⟩

/-- An orphan that ends before the end of a prefix is found in the prefix alone. -/
private theorem Orphan.exists_append_of_find? {a t before u : Text} {o : Orphan}
    (h : Orphan.finder.find? (a ++ t) = some (before, o, u))
    (hle : before.length + o.source.length ≤ a.length) :
    ∃ a₂, a = before ++ o.source ++ a₂ ∧ u = a₂ ++ t := by
  have hsplit : a ++ t = before ++ o.source ++ u := by
    rw [List.append_assoc]
    exact Orphan.finder.eq_append h
  obtain ⟨a₂, rfl⟩ : before ++ o.source <+: a :=
    List.prefix_of_prefix_length_le ⟨u, hsplit.symm⟩ ⟨t, rfl⟩ (by simpa using hle)
  rw [List.append_assoc (before ++ o.source)] at hsplit
  exact ⟨a₂, rfl, (List.append_cancel_left hsplit).symm⟩

/-! ### What removing orphans leaves -/

theorem removeOrphans_zero (t : Text) : removeOrphans 0 t = t := by
  rw [removeOrphans_eq_pass, Finder.pass_zero]
  rfl

theorem removeOrphans_of_eq_none {t : Text} (h : Orphan.finder.find? t = none) (limit : Nat) :
    removeOrphans limit t = t := by
  rw [removeOrphans_eq_pass, Finder.pass_of_eq_none _ _ h]
  rfl

/-- **A step of the pass**: the first orphan goes. -/
theorem removeOrphans_of_eq_some {t before u : Text} {o : Orphan}
    (h : Orphan.finder.find? t = some (before, o, u)) (limit : Nat) :
    removeOrphans (limit + 1) t = before ++ removeOrphans limit u := by
  rw [removeOrphans_eq_pass, Finder.pass_of_eq_some _ _ h, removeOrphans_eq_pass]
  change before ++ [] ++ _ = _
  rw [List.append_nil]
  rfl

/-- A text without heads of orphans is passed over. -/
theorem removeOrphans_append_of_noHead {t u : Text} (ha : Apart t u) (h : NoHead Orphan.names t)
    (limit : Nat) : removeOrphans limit (t ++ u) = t ++ removeOrphans limit u := by
  rw [removeOrphans_eq_pass, Finder.pass_append _ _ (Orphan.find?_append ha h),
    removeOrphans_eq_pass]
  rfl

/-- Removing orphans takes something out and changes nothing else. -/
theorem removeOrphans_sublist (limit : Nat) (t : Text) : (removeOrphans limit t).Sublist t := by
  induction limit generalizing t with
  | zero => simp [removeOrphans_zero]
  | succ limit ih =>
    cases hfind : Orphan.finder.find? t with
    | none => simp [removeOrphans_of_eq_none hfind]
    | some p =>
      obtain ⟨before, o, u⟩ := p
      rw [removeOrphans_of_eq_some hfind, Orphan.finder.eq_append hfind]
      exact (List.Sublist.refl before).append
        ((ih u).trans (List.sublist_append_right (Orphan.finder.source o) u))

/-- A text without heads of orphans, closed on both sides, stays whole between any two texts, unless it
begins inside one of the orphans that are removed. -/
private theorem removeOrphans_append {s : Text} (hs : Sealed s) (hopen : s.head? = some '(')
    (hnone : NoHead Orphan.names s) (limit : Nat) (a b : Text)
    (hinside : ¬ Orphan.Inside a.length ((Orphan.finder.cuts (a ++ (s ++ b))).items.take limit)) :
    ∃ a' b' : Text, a'.Sublist a ∧ b'.Sublist b ∧
      removeOrphans limit (a ++ (s ++ b)) = a' ++ (s ++ b') := by
  induction limit generalizing a with
  | zero => exact ⟨a, b, .refl a, .refl b, removeOrphans_zero _⟩
  | succ limit ih =>
    -- An open bracket cannot complete a head, so heads in front of the text end in front of it.
    have hapart : Apart a (s ++ b) := by
      obtain ⟨u, rfl⟩ : ∃ u, s = '(' :: u := by cases s <;> simp_all
      exact apart_paren a (u ++ b)
    cases hhead : findHead? Orphan.names a with
    | none =>
      -- No orphan begins in front of the text or in it, so all of them are behind it.
      rw [removeOrphans_append_of_noHead hapart hhead, removeOrphans_append_of_noHead (.inl hs) hnone]
      exact ⟨a, _, .refl a, removeOrphans_sublist _ b, rfl⟩
    | some p =>
      obtain ⟨before, v⟩ := p
      have hlt : before.length < a.length := by
        have hv : v ≠ [] := by
          rintro rfl
          exact absurd (head?_of_findHead? hhead) (by simp)
        rw [eq_append_of_findHead? hhead, List.length_append]
        have := List.length_pos_iff.mpr hv
        omega
      rcases Orphan.find?_of_findHead? (findHead?_append_of_some hapart hhead) with hfind | hfind
      · exact ⟨a, b, .refl a, .refl b, removeOrphans_of_eq_none hfind _⟩
      · obtain ⟨o, u, hfind⟩ := hfind
        rw [Orphan.finder.cuts_of_find?_eq_some hfind, List.take_succ_cons, Orphan.Inside, not_or,
          not_and, not_and] at hinside
        -- The orphan ends in front of the text, which stays behind what follows the orphan.
        have hle : before.length + o.source.length ≤ a.length := Nat.not_lt.mp (hinside.1 hlt)
        obtain ⟨a₂, rfl, rfl⟩ := Orphan.exists_append_of_find? hfind hle
        have hlength : (before ++ o.source ++ a₂).length - (before.length + o.source.length) =
            a₂.length := by
          simp only [List.length_append]
          omega
        have hinside₂ := hinside.2 hle
        rw [hlength] at hinside₂
        obtain ⟨a', b', ha', hb', heq⟩ := ih a₂ hinside₂
        refine ⟨before ++ a', b', ?_, hb', ?_⟩
        · rw [List.append_assoc]
          exact (List.Sublist.refl before).append
            (ha'.trans (List.sublist_append_right o.source a₂))
        · rw [removeOrphans_of_eq_some hfind, heq, List.append_assoc]

/-! ### Chains that are left over -/

/-- Some branches end with the bracket that closes the hook of the last one. -/
private theorem sealed_branches {bs : List Branch} (h : bs ≠ []) :
    Sealed (bs.flatMap Branch.source) := by
  obtain ⟨bs, b, rfl⟩ := List.eq_nil_or_concat bs |>.resolve_left h
  have hsource : (bs.concat b).flatMap Branch.source = (bs.flatMap Branch.source ++ b.gap ++
      (b.call.map Invocation.source).getD [] ++ b.hook.gap ++ '[' :: b.hook.body) ++ [']'] := by
    simp [Branch.source, Hook.source]
  rw [hsource]
  exact sealed_append_singleton (by decide) (by decide) _

theorem Chain.sealed_source (c : Chain) : Sealed c.source :=
  sealed_branches (by simp [branches])

theorem Chain.head?_source {c : Chain} {b : Text} (h : Chain.read? (c.source ++ b) = some (c, b)) :
    c.source.head? = some '(' := by
  obtain ⟨d, u, hu⟩ := List.exists_cons_of_ne_nil c.source_ne_nil
  rw [hu] at h ⊢
  by_cases hd : d = '('
  · rw [hd]
    rfl
  · rw [Chain.read?, List.cons_append, Invocation.read?_cons_of_ne hd] at h
    exact absurd h (by simp)

/-- **A chain that a limit left unresolved stays whole** when orphans are removed, if it has no macros
of later branches and does not begin inside one of the orphans that are removed. What stands before and
behind it only loses orphans. -/
theorem removeOrphans_chain {w : Setting} {t a b : Text} {c : Chain} {run : Run}
    (hreduced : ((reduceChains w t).run run).1 = a ++ (c.source ++ b))
    (hread : Chain.read? (c.source ++ b) = some (c, b)) (hlater : NoHead Orphan.names c.source)
    (hinside : ¬ Orphan.Inside a.length
      ((Orphan.finder.cuts (a ++ (c.source ++ b))).items.take w.limits.maxReductions)) :
    ∃ a' b' : Text, a'.Sublist a ∧ b'.Sublist b ∧
      removeOrphans w.limits.maxReductions ((reduceChains w t).run run).1 =
        a' ++ (c.source ++ b') := by
  rw [hreduced]
  exact removeOrphans_append c.sealed_source (Chain.head?_source hread) hlater _ a b hinside

/-- The second chain is left over behind an orphan and keeps its bare hook. -/
theorem removeOrphans_chain_second :
    let w : Setting := ⟨[], Table.empty, fun _ => 0, { maxReductions := 1 }⟩
    let c : Chain := ⟨⟨[], some ⟨"if".toList, " false".toList⟩, ⟨[], "b".toList⟩⟩,
      [⟨[], none, ⟨[], "c".toList⟩⟩]⟩
    let reduced : Text :=
      ((reduceChains w "(else:)[x](if: true)[a](if: false)[b][c]".toList).run ⟨Table.empty, 0⟩).1
    reduced = "(else:)[x]a".toList ++ (c.source ++ []) ∧
      ∃ a' b' : Text, a'.Sublist "(else:)[x]a".toList ∧ b'.Sublist [] ∧
        removeOrphans 1 reduced = a' ++ (c.source ++ b') := by
  intro w c reduced
  have hreduced : reduced = "(else:)[x]a".toList ++ (c.source ++ []) := by decide +kernel
  have hread : Chain.read? (c.source ++ []) = some (c, []) := by decide +kernel
  exact ⟨hreduced, removeOrphans_chain hreduced hread (by decide +kernel) (by decide +kernel)⟩

/-- A chain that is left over loses its `(else:)`, and one in the hook of an orphan is gone with it. -/
theorem not_whole_of_else :
    let w : Setting := ⟨[], Table.empty, fun _ => 0, { maxReductions := 1 }⟩
    let reduced : String → Text := fun t => ((reduceChains w t.toList).run ⟨Table.empty, 0⟩).1
    let isChain : String → Bool := fun t => (Chain.read? t.toList).any fun p => p.2.isEmpty
    (reduced "(if: true)[a](if: false)[b](else:)[c]" = "a(if: false)[b](else:)[c]".toList ∧
      isChain "(if: false)[b](else:)[c]" ∧
      removeOrphans 1 (reduced "(if: true)[a](if: false)[b](else:)[c]") =
        "a(if: false)[b]".toList) ∧
    (reduced "(if: true)[]-(else:)[(if: true)[x]]" = "-(else:)[(if: true)[x]]".toList ∧
      isChain "(if: true)[x]" ∧
      removeOrphans 1 (reduced "(if: true)[]-(else:)[(if: true)[x]]") = "-".toList) := by
  decide +kernel

end Hyperfiction

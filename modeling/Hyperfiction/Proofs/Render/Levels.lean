import Hyperfiction.Proofs.InPlace.Counted
import Hyperfiction.Proofs.Render.Depth

/-!
# The levels that are resolved

Of chains nested in each other as many levels go as there is room for bodies, and the one around them: the
outermost chain is resolved at the depth at which the pass begins, and each body that is entered resolves
one more (`reduceBody_nested`). The levels behind these stay as text, on which the assignments and prints of
all bodies around them find nothing to do. So with `k` levels around a text the pass leaves exactly those
beyond the limit and one (`reduceChains_levels`), and is back at the depth at which it began.
-/

namespace Hyperfiction

open Invocation

/-- A text in `k` chains that always hold, one in another. -/
def levels (k : Nat) (t : Text) : Text :=
  (List.replicate k "(if: true)[".toList).flatten ++ t ++ List.replicate k ']'

theorem levels_eq_nested (k : Nat) (t : Text) : levels k t = nested k t := by
  induction k with
  | zero => simp [levels, nested]
  | succ k ih =>
    have hsource : nested (k + 1) t = "(if: true)[".toList ++ nested k t ++ [']'] := by
      simp [nested, Chain.always, Chain.source, Chain.branches, Branch.source, Invocation.source,
        Hook.source]
    rw [hsource, ← ih, levels, levels, List.replicate_succ, List.replicate_succ', List.flatten_cons]
    simp only [List.append_assoc]

/-- Text without brackets may stand in a hook. -/
theorem readable_of_not_mem {t : Text} (hopen : '[' ∉ t) (hclose : ']' ∉ t) :
    (⟨[], t⟩ : Hook).Readable where
  gap := by simp
  balanced := Bracket.balanced_of_not_mem hopen hclose
  noLink h := hopen (List.mem_of_head? h)

/-- Chains that always hold have no head of another macro than their own. -/
theorem noHead_nested {names : List Text} (hn : isNamed names "if".toList = false) {t : Text}
    (h : '(' ∉ t) (k : Nat) : NoHead names (nested k t) := by
  induction k with
  | zero => exact noHead_of_not_mem h
  | succ k ih =>
    have hcall : NoHead names (⟨"if".toList, " true".toList⟩ : Invocation).source :=
      noHead_source (by decide) hn (noHead_of_not_mem (by decide))
    have hbehind : NoHead names (nested k t ++ [']']) :=
      ih.append (.inr ⟨']', [], rfl, by decide, by decide⟩) (noHead_of_not_mem (by decide))
    have hhook : NoHead names ('[' :: (nested k t ++ [']'])) :=
      noHead_cons_iff.mpr ⟨by rw [head?_cons_of_ne (by decide)]; rfl, hbehind⟩
    have hsource : nested (k + 1) t = (⟨"if".toList, " true".toList⟩ : Invocation).source ++
        ('[' :: (nested k t ++ [']'])) := by
      simp [nested, Chain.always, Chain.source, Chain.branches, Branch.source, Hook.source]
    rw [hsource]
    exact hcall.append (.inl (sealed_source _)) hhook

variable {w : Setting} {t : Text}

/-- A level goes, and with it those that go in its body. -/
theorem reduceWith_nested (hw : w.limits.maxReductions ≠ 0) (h : '(' ∉ t)
    (ht : (⟨[], t⟩ : Hook).Readable) {body : Text → Act Text} {room : Nat}
    (hbody : ∀ k, body (nested k t) = pure (nested (k - room) t)) (k : Nat) :
    reduceWith w body (nested k t) = pure (nested (k - (room + 1)) t) := by
  cases k with
  | zero =>
    have hnone : Conditional.finder.find? t = none := Conditional.find?_eq_none (noHead_of_not_mem h)
    rw [Nat.zero_sub, nested, reduceWith_eq_pass, Finder.pass_of_eq_none _ _ hnone]
  | succ k =>
    rw [nested, reduceWith_always hw body (readable_nested ht k), hbody k, Nat.add_sub_add_right]

/-- **A body resolves as many levels as there is room for.** -/
theorem reduceBody_nested (hw : w.limits.maxReductions ≠ 0) (h : '(' ∉ t)
    (ht : (⟨[], t⟩ : Hook).Readable) (room k : Nat) :
    reduceBody w room (nested k t) = pure (nested (k - room) t) := by
  induction room generalizing k with
  | zero => rfl
  | succ room ih =>
    -- What is left of the levels has neither assignments nor prints.
    have hsets : NoHead setNames (nested (k - (room + 1)) t) := noHead_nested (by decide) h _
    have hprints : NoHead printNames (nested (k - (room + 1)) t) := noHead_nested (by decide) h _
    rw [reduceBody, reduceWith_nested hw h ht ih k, pure_bind, runSets_of_noHead hsets, pure_bind,
      resolvePrints_of_noHead hprints]

/-- **Depth is counted exactly.** Of `k` levels around a text without brackets the pass resolves those that
the limit lets in and the one around them; it changes no variable, uses no random word, and is back at the
depth at which it began. The limits are effective ones, as in every run: they allow at least one chain. -/
theorem reduceChains_levels (visits : List Text) (tags : Table (List Text)) (words : Words) (l : Limits)
    (k : Nat) (hparen : '(' ∉ t) (hopen : '[' ∉ t) (hclose : ']' ∉ t) :
    let w : Setting := ⟨visits, tags, words, l.effective⟩
    reduceChains w (levels k t) = pure (levels (k - (l.maxDepth + 1)) t) ∧
      CountedAct.StaysAt 0 (Counted.reduceChains w pure (levels k t))
        (pure (levels (k - (l.maxDepth + 1)) t)) := by
  intro w
  have hw : w.limits.maxReductions ≠ 0 := by
    have : 1 ≤ w.limits.maxReductions := le_max_right l.maxReductions 1
    omega
  have ht := readable_of_not_mem hopen hclose
  have hreduced : reduceChains w (levels k t) = pure (levels (k - (l.maxDepth + 1)) t) := by
    rw [levels_eq_nested, levels_eq_nested]
    exact reduceWith_nested hw hparen ht (reduceBody_nested hw hparen ht l.maxDepth) k
  refine ⟨hreduced, ?_⟩
  have hstays := Counted.reduceChains_zero_staysAt w (levels k t)
  rwa [hreduced] at hstays

/-- Room for one level resolves two, and leaves the third. -/
theorem reduceChains_levels_third :
    let w : Setting := ⟨[], Table.empty, fun _ => 0, Limits.effective { maxDepth := 1 }⟩
    ('(' ∉ "x)".toList ∧ '[' ∉ "x)".toList ∧ ']' ∉ "x)".toList) ∧
      reduceChains w "(if: true)[(if: true)[(if: true)[x)]]]".toList = pure "(if: true)[x)]".toList := by
  intro w
  have hparen : '(' ∉ "x)".toList := by decide
  have hopen : '[' ∉ "x)".toList := by decide
  have hclose : ']' ∉ "x)".toList := by decide
  exact ⟨⟨hparen, hopen, hclose⟩,
    (reduceChains_levels [] Table.empty (fun _ => 0) { maxDepth := 1 } 3 hparen hopen hclose).1⟩

end Hyperfiction

import Hyperfiction.Proofs.Markup.Found
import Hyperfiction.Proofs.Markup.Pass

/-!
# Branches that are not taken

A chain or guard becomes the body of one of its hooks or nothing, and what stands in its other hooks
cannot be seen. The choice depends on conditions alone (`Conditional.chosen_withBody`), another body in a
hook is read with the same hooks around it (`Conditional.ReadBefore.withBody`), and so the first
conditional of a text is resolved to the same text with the same effects, whatever stands in a hook that
is not chosen: macros, links, round brackets that do not match (`reduceChains_withBody`).
-/

namespace Hyperfiction

/-! ### Another body in a hook -/

/-- The branch with another body in its hook. -/
def Branch.withBody (b : Branch) (body : Text) : Branch := { b with hook := { b.hook with body := body } }

namespace Conditional

/-- The bodies of the hooks, in order. -/
def bodies : Conditional → List Text
  | chain c => c.branches.map (·.hook.body)
  | guard g => [g.hook.body]
  | stray => []

/-- The conditional with another body in one of its hooks, counted from 0. -/
def withBody (i : Nat) (body : Text) : Conditional → Conditional
  | chain c =>
    match i with
    | 0 => chain { c with first := c.first.withBody body }
    | j + 1 => chain { c with later := c.later.modify j fun b => b.withBody body }
  | guard g =>
    match i with
    | 0 => guard { g with hook := { g.hook with body := body } }
    | _ + 1 => guard g
  | stray => stray

/-- The place of the hook whose body is taken, if there is one. -/
def chosen (w : Setting) : Conditional → Act (Option Nat)
  | chain c => Chain.select w c.branches
  | guard g => pure (if g.query.holds w then some 0 else none)
  | stray => pure none

@[simp] theorem bodies_withBody (i : Nat) (body : Text) (k : Conditional) :
    (k.withBody i body).bodies = k.bodies.modify i fun _ => body := by
  cases k with
  | chain c =>
    cases i with
    | zero => simp [withBody, bodies, Chain.branches, Branch.withBody]
    | succ i =>
      have hmap : (c.later.modify i fun b => b.withBody body).map (·.hook.body) =
          (c.later.map (·.hook.body)).modify i fun _ => body := by
        refine List.ext_getElem? fun j => ?_
        simp only [List.getElem?_map, List.getElem?_modify]
        by_cases hij : i = j <;> cases c.later[j]? <;> simp [Branch.withBody, hij]
      simp [withBody, bodies, Chain.branches, hmap]
  | guard g => cases i <;> simp [withBody, bodies]
  | stray => cases i <;> simp [withBody, bodies]

theorem withBody_ne_stray {k : Conditional} (hk : k ≠ stray) (i : Nat) (body : Text) :
    k.withBody i body ≠ stray := by
  cases k with
  | chain c => cases i <;> simp [withBody]
  | guard g => cases i <;> simp [withBody]
  | stray => exact absurd rfl hk

/-! ### The choice -/

/-- **The choice does not depend on the bodies.** -/
private theorem select_modify (w : Setting) (body : Text) (bs : List Branch) (i : Nat) :
    Chain.select w (bs.modify i fun b => b.withBody body) = Chain.select w bs := by
  induction bs generalizing i with
  | nil => simp
  | cons b bs ih =>
    cases i with
    | zero => rfl
    | succ i => rw [List.modify_succ_cons, Chain.select, Chain.select, ih]

/-- **The choice does not depend on the bodies.** -/
theorem chosen_withBody (w : Setting) (i : Nat) (body : Text) (k : Conditional) :
    (k.withBody i body).chosen w = k.chosen w := by
  cases k with
  | chain c =>
    cases i with
    | zero => exact select_modify w body c.branches 0
    | succ i => exact select_modify w body c.branches (i + 1)
  | guard g => cases i <;> rfl
  | stray => rfl

/-- What a conditional becomes is decided by its choice. -/
theorem resolve_eq_of_chosen (w : Setting) (body : Text → Act Text) {k : Conditional}
    (hk : k ≠ stray) :
    k.resolve w body = (do
      let i ← k.chosen w
      (i.bind fun i => k.bodies[i]?).elim (pure []) body) := by
  cases k with
  | chain c =>
    rw [resolve, chosen]
    congr 1
    funext i
    cases i with
    | none => rfl
    | some i =>
      simp only [Option.bind_some, bodies, List.getElem?_map]
      cases c.branches[i]? <;> rfl
  | guard g =>
    rw [resolve, chosen, pure_bind]
    split <;> rfl
  | stray => exact absurd rfl hk

/-- A body that is not chosen has no influence on what a conditional becomes. -/
theorem resolve_withBody {w : Setting} {k : Conditional} (hk : k ≠ stray) {i : Nat} {run : Run}
    (hchosen : ((k.chosen w).run run).1 ≠ some i) (body : Text → Act Text) (t : Text) :
    ((k.withBody i t).resolve w body).run run = (k.resolve w body).run run := by
  rw [resolve_eq_of_chosen w body hk, resolve_eq_of_chosen w body (withBody_ne_stray hk i t),
    chosen_withBody, bodies_withBody, StateT.run_bind, StateT.run_bind]
  -- From here on the choice is made, and it is another hook or none.
  have hbody : ∀ j, j ≠ some i → (j.bind fun j => (k.bodies.modify i fun _ => t)[j]?) =
      j.bind fun j => k.bodies[j]? := by
    intro j hj
    cases j with
    | none => rfl
    | some j =>
      have hne : i ≠ j := fun h => hj (congrArg some h.symm)
      simp [hne]
  exact congrArg (fun o => (Option.elim o (pure []) body).run ((k.chosen w).run run).2)
    (hbody _ hchosen)

end Conditional

/-! ### The conditional is read again -/

theorem Hook.Attachable.withBody {k : Hook} (h : k.Attachable) {body : Text}
    (hbalanced : Bracket.square.Balanced body) (hlink : body.head? ≠ some '[') :
    ({ k with body := body } : Hook).Attachable :=
  Hook.Readable.attachable ⟨h.gap, hbalanced, hlink⟩

/-- The branches behind the first are read with another body in one of them. -/
theorem Chain.Continued.modify {bs : List Branch} {u : Text} (h : Continued bs u) {body : Text}
    (hbalanced : Bracket.square.Balanced body) (hlink : body.head? ≠ some '[') (i : Nat) :
    Continued (bs.modify i fun b => b.withBody body) u := by
  induction h generalizing i with
  | stops h =>
    rw [List.modify_nil]
    exact .stops h
  | elseIf hgap hm hn hk hbs ih =>
    cases i with
    | zero => exact .elseIf hgap hm hn (hk.withBody hbalanced hlink) hbs
    | succ i => exact .elseIf hgap hm hn hk (ih i)
  | closed u hgap hm hn hk =>
    cases i with
    | zero => exact .closed u hgap hm hn (hk.withBody hbalanced hlink)
    | succ i =>
      rw [List.modify_succ_cons, List.modify_nil]
      exact .closed u hgap hm hn hk
  | bare u hk =>
    cases i with
    | zero => exact .bare u ⟨hk.gap, hbalanced, hlink⟩
    | succ i =>
      rw [List.modify_succ_cons, List.modify_nil]
      exact .bare u hk

/-- **A conditional is read with another body** in one of its hooks, before the same text. -/
theorem Conditional.ReadBefore.withBody {k : Conditional} {u : Text} (h : k.ReadBefore u)
    {body : Text} (hbalanced : Bracket.square.Balanced body) (hlink : body.head? ≠ some '[')
    (i : Nat) : (k.withBody i body).ReadBefore u := by
  cases h with
  | chain hfirst hlater =>
    cases i with
    | zero =>
      exact .chain ⟨hfirst.call, hfirst.gap, hfirst.named, hfirst.readable,
        hfirst.hook.withBody hbalanced hlink⟩ hlater
    | succ i => exact .chain hfirst (hlater.modify hbalanced hlink i)
  | guard u hm hn hq hk =>
    cases i with
    | zero => exact .guard u hm hn hq (hk.withBody hbalanced hlink)
    | succ i => exact .guard u hm hn hq hk

/-- **Only the branch that is taken matters.** Where the first head of a text begins a chain or a guard,
another body in a hook that is not chosen, with matching square brackets and no such bracket in front,
leaves the text, the variables and the random words as they are. The limits are effective ones, as in
every run: they allow at least one step. -/
theorem reduceChains_withBody {visits : List Text} {tags : Table (List Text)} {words : Words}
    {l : Limits} {t before rest body : Text} {k : Conditional} {i : Nat} {run : Run}
    (hfind : Conditional.find? t = some (before, k, rest)) (hk : k ≠ .stray)
    (hchosen : ((k.chosen ⟨visits, tags, words, l.effective⟩).run run).1 ≠ some i)
    (hbalanced : Bracket.square.Balanced body) (hlink : body.head? ≠ some '[') :
    (reduceChains ⟨visits, tags, words, l.effective⟩
        (before ++ ((k.withBody i body).source ++ rest))).run run =
      (reduceChains ⟨visits, tags, words, l.effective⟩ t).run run := by
  obtain ⟨limit, hlimit⟩ : ∃ n, l.effective.maxReductions = n + 1 :=
    Nat.exists_eq_succ_of_ne_zero (Nat.one_le_iff_ne_zero.mp (Nat.le_max_right _ _))
  obtain ⟨hnone, hread, -⟩ := (Conditional.find?_eq_some_iff hk).mp hfind
  have hfind' : Conditional.finder.find? (before ++ ((k.withBody i body).source ++ rest)) =
      some (before, k.withBody i body, rest) :=
    (Conditional.find?_eq_some_iff (Conditional.withBody_ne_stray hk i body)).mpr
      ⟨hnone, hread.withBody hbalanced hlink i, rfl⟩
  rw [reduceChains, reduceChains, reduceWith_eq_pass, reduceWith_eq_pass, hlimit,
    Finder.pass_of_eq_some _ _ hfind', Finder.pass_of_eq_some Conditional.finder _ hfind,
    StateT.run_bind, StateT.run_bind, Conditional.resolve_withBody hk hchosen]

/-- An `(else:)` that is not taken may hold an assignment, a link and half a macro. -/
theorem reduceChains_withBody_else :
    let w : Setting := ⟨[], Table.empty, fun _ => 0, Limits.effective {}⟩
    (reduceChains w "a(if: true)[b](else:)[(set: $x to 1)[[link]](if: ] d".toList).run
        ⟨Table.empty, 0⟩ =
      (reduceChains w "a(if: true)[b](else:)[c] d".toList).run ⟨Table.empty, 0⟩ := by
  intro w
  let k : Conditional := .chain ⟨⟨[], some ⟨"if".toList, " true".toList⟩, ⟨[], "b".toList⟩⟩,
    [⟨[], some ⟨"else".toList, []⟩, ⟨[], "c".toList⟩⟩]⟩
  let body : Text := "(set: $x to 1)[[link]](if: ".toList
  have hfind : Conditional.find? "a(if: true)[b](else:)[c] d".toList =
      some ("a".toList, k, " d".toList) := by decide +kernel
  have hchosen : ((k.chosen w).run ⟨Table.empty, 0⟩).1 ≠ some 1 := by decide +kernel
  have hbalanced : Bracket.square.Balanced body := by decide +kernel
  exact reduceChains_withBody hfind (by simp [k]) hchosen hbalanced (by decide)

end Hyperfiction

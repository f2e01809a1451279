import Hyperfiction.Proofs.Markup.Links
import Hyperfiction.Proofs.Render.Orphan
import Hyperfiction.Proofs.Render.Unchosen

/-!
# The choices of a passage and the links of its body

The choices of a passage are read from its text when assignments, chains and orphans are gone, the links
that a check of a story sees from the body as it is written. Taking a macro or a hook out of a tidy text
leaves a tidy text with links of the same insides, so long as no bracket comes to stand behind a square
bracket (`Tidy.replace`). With assignments outside brackets and orphans this never happens; of chains and
guards it is asked (`Clear`). So all choices that a passage offers are offered by links of its body
(`Compiler.choices_subset_of_tidy`).
-/

namespace Hyperfiction

open Invocation

/-! ### Texts without some of their macros -/

section Replace

variable {ok : Text → Prop} (hok : ∀ inner, ok inner → Link.Plain inner)

theorem tidy_nil (ok : Text → Prop) : Tidy ok [] where
  noPrint := noHead_nil printNames
  link v hv hopen := by
    rw [List.suffix_nil.mp hv] at hopen
    exact absurd (List.prefix_nil.mp hopen) (by decide)
  noOrphan v hv := by simp at hv
  firm v hv := by simp at hv

/-- A text `r` may be what **remains** of a text `t`: it is tidy, blunt if `t` is, and in a hook closed if
`t` is. -/
structure Remains (ok : Text → Prop) (hook : Bool) (t r : Text) : Prop where
  tidy : Tidy ok r
  blunt : Blunt t → Blunt r
  closed : hook = true → Closed t → Closed r

theorem Remains.refl {hook : Bool} {t : Text} (h : Tidy ok t) : Remains ok hook t t :=
  ⟨h, id, fun _ => id⟩

/-- What remains of what remains is so of the whole. -/
theorem Remains.trans {hook : Bool} {t r q : Text} (h : Remains ok hook t r)
    (h' : Remains ok hook r q) : Remains ok hook t q :=
  ⟨h'.tidy, fun hb => h'.blunt (h.blunt hb), fun hk hc => h'.closed hk (h.closed hk hc)⟩

include hok in
/-- **A closed text may stand in the place of a macro** with what belongs to it, unless a square bracket
in front meets a bracket then. -/
theorem Tidy.replace {hook : Bool} {s d x u : Text} (h : Tidy ok (s ++ (d ++ u)))
    (hbegins : Begins Link.macroNames (d ++ u)) (hx : Tidy ok x) (hclosed : Closed x)
    (hmeet : s.getLast? = some '[' → Blunt x ∧ Blunt u ∧ (hook = true → u ≠ [])) :
    ((s ++ x).getLast? = some '[' → Blunt u) ∧ Remains ok hook (s ++ (d ++ u)) (s ++ x ++ u) := by
  obtain ⟨hs, hsealed⟩ := h.of_begins hok hbegins
  have hfront : Sealed (s ++ x) := hsealed.append hclosed.isSealed
  -- A square bracket at the end of what is in front of the rest stood in front of the macro.
  have hbehind : (s ++ x).getLast? = some '[' → Blunt u ∧ (hook = true → u ≠ []) := by
    intro hlast
    by_cases hnil : x = []
    · rw [hnil, List.append_nil] at hlast
      exact (hmeet hlast).2
    · exact absurd hlast (hclosed.append_of_sealed hsealed fun _ => hnil).getLast?_ne
  refine ⟨fun hlast => (hbehind hlast).1, ?_, fun hblunt => ?_, fun hk hwhole => ?_⟩
  · exact (hs.append hsealed (fun hlast => (hmeet hlast).1) hx).append hfront
      (fun hlast => (hbehind hlast).1) h.of_append.of_append
  · rw [List.append_assoc]
    exact hblunt.of_begins hbegins _
  · exact hwhole.of_append.of_append.append_of_sealed hfront fun hlast => (hbehind hlast).2 hk

include hok in
/-- A macro behind which nothing is put may be taken out where no square bracket stands in front. -/
theorem Tidy.erase {s d u : Text} (h : Tidy ok (s ++ (d ++ u))) (hook : Bool)
    (hbegins : Begins Link.macroNames (d ++ u)) (hlast : s.getLast? ≠ some '[') :
    Remains ok hook (s ++ (d ++ u)) (s ++ u) := by
  simpa using (h.replace hok hbegins (tidy_nil ok) closed_nil fun h => absurd h hlast).2

/-! ### Assignments -/

/-- The text that is left of some macros and the text around them when those outside square brackets
are taken out; `depth` is the depth of brackets before the first of them. -/
def leftFrom (depth : Nat) : List (Cut Invocation) → Text → Text
  | [], tail => tail
  | c :: cs, tail =>
    let here := Bracket.square.depthAfter depth c.before
    let behind := Bracket.square.depthAfter here c.item.source
    if here = 0 then c.before ++ leftFrom behind cs tail
    else c.before ++ c.item.source ++ leftFrom behind cs tail

/-- The text that is left when the assignments outside square brackets have run, at a depth of brackets
in front of it. -/
def afterSetsAt (depth : Nat) (t : Text) : Text :=
  let cs := (Invocation.finder setNames).cuts t
  leftFrom depth cs.items cs.tail

/-- The text that is left when the assignments outside square brackets have run. -/
def afterSets (t : Text) : Text := afterSetsAt 0 t

/-- The text without its assignments does not depend on the run. -/
private theorem runSetsFrom_fst (words : Words) (depth : Nat) (cs : List (Cut Invocation)) (tail : Text)
    (run : Run) : ((runSetsFrom words depth cs tail).run run).1 = leftFrom depth cs tail := by
  induction cs generalizing depth run with
  | nil => rfl
  | cons c cs ih =>
    rw [runSetsFrom, leftFrom]
    split
    · exact congrArg (c.before ++ ·) (ih _ _)
    · exact congrArg (c.before ++ c.item.source ++ ·) (ih _ _)

/-- **What assignments leave of a text** does not depend on what they do. -/
theorem runSets_fst (words : Words) (t : Text) (run : Run) :
    ((runSets words t).run run).1 = afterSets t :=
  runSetsFrom_fst words 0 _ _ run

private theorem afterSetsAt_of_eq_none {t : Text} (h : Invocation.find? setNames t = none)
    (depth : Nat) : afterSetsAt depth t = t := by
  rw [afterSetsAt, (Invocation.finder setNames).cuts_of_find?_eq_none h]
  rfl

/-- The text behind the first assignment, which is gone if it stands outside of brackets. -/
private theorem afterSetsAt_of_eq_some {t b u : Text} {m : Invocation}
    (h : Invocation.find? setNames t = some (b, m, u)) (depth : Nat) :
    afterSetsAt depth t =
      let here := Bracket.square.depthAfter depth b
      let behind := Bracket.square.depthAfter here m.source
      if here = 0 then b ++ afterSetsAt behind u else b ++ m.source ++ afterSetsAt behind u := by
  rw [afterSetsAt, (Invocation.finder setNames).cuts_of_find?_eq_some h]
  rfl

/-- A macro that is found begins where it stands. -/
private theorem begins_of_find? {names : List Text} {t b u : Text} {m : Invocation}
    (h : Invocation.find? names t = some (b, m, u)) : Begins names (m.source ++ u) := by
  obtain ⟨-, ⟨hm, hn⟩, -⟩ := Invocation.find?_eq_some_iff.mp h
  exact begins_iff.mpr ⟨m.name, _, head?_source_append hm.isName u, hn⟩

/-- Behind an open bracket the depth is not 0. -/
private theorem depthAfter_opener_ne (depth : Nat) (t : Text) :
    Bracket.square.depthAfter depth (t ++ ['[']) ≠ 0 := by
  rw [Bracket.depthAfter_append]
  simp [Bracket.depthAfter, Bracket.step?, Bracket.opener]

include hok in
/-- Running assignments leaves a tidy text, behind another one too. -/
private theorem remains_afterSetsAt {hook : Bool} {s t : Text} (h : Tidy ok (s ++ t)) {depth : Nat}
    (hlast : depth = 0 → s.getLast? ≠ some '[') :
    Remains ok hook (s ++ t) (s ++ afterSetsAt depth t) := by
  cases hfind : Invocation.find? setNames t with
  | none =>
    rw [afterSetsAt_of_eq_none hfind]
    exact .refl h
  | some p =>
    obtain ⟨b, m, u⟩ := p
    have hlt := (Invocation.finder setNames).length_lt hfind
    have ht := eq_append_of_find? hfind
    rw [ht, ← List.append_assoc] at h
    rw [afterSetsAt_of_eq_some hfind, ht]
    simp only
    split
    · rename_i hhere
      have hbegins : Begins Link.macroNames (m.source ++ u) :=
        (begins_of_find? hfind).mono (by simp [Link.macroNames])
      have hb : (s ++ b).getLast? ≠ some '[' := by
        rcases List.eq_nil_or_concat b with rfl | ⟨b, c, rfl⟩
        · simpa using hlast hhere
        · intro hc
          obtain rfl : c = '[' := by simpa using hc
          exact depthAfter_opener_ne depth b (by simpa using hhere)
      have herased := h.erase hok hook hbegins hb
      rw [← List.append_assoc s b, ← List.append_assoc s b]
      exact herased.trans (remains_afterSetsAt herased.tidy fun _ => hb)
    · have hm : (s ++ b ++ m.source).getLast? ≠ some '[' := by
        rw [Invocation.source, ← List.append_assoc, List.getLast?_concat]
        decide
      simp only [← List.append_assoc] at h ⊢
      exact remains_afterSetsAt h fun _ => hm
termination_by t.length

include hok in
/-- **Running assignments leaves a tidy text.** -/
theorem remains_afterSets (hook : Bool) {t : Text} (h : Tidy ok t) : Remains ok hook t (afterSets t) :=
  remains_afterSetsAt hok (s := []) h fun (_ : 0 = 0) => by simp

/-! ### Orphans -/

private theorem begins_of_orphan {t b u : Text} {o : Orphan} (h : Orphan.find? t = some (b, o, u)) :
    Begins Orphan.names (o.source ++ u) := by
  obtain ⟨v, hv⟩ := Orphan.exists_find? h
  have hsplit := (Orphan.eq_append_of_find? h).symm.trans (eq_append_of_find? hv)
  rw [List.append_cancel_left hsplit]
  exact begins_of_find? hv

include hok in
/-- Removing orphans leaves a tidy text, behind another one too. -/
theorem tidy_removeOrphans {s t : Text} (h : Tidy ok (s ++ t)) (limit : Nat) :
    Tidy ok (s ++ removeOrphans limit t) := by
  induction limit generalizing s t with
  | zero =>
    rw [removeOrphans_zero]
    exact h
  | succ limit ih =>
    cases hfind : Orphan.finder.find? t with
    | none =>
      rw [removeOrphans_of_eq_none hfind]
      exact h
    | some p =>
      obtain ⟨b, o, u⟩ := p
      have hbegins := begins_of_orphan hfind
      have ht := Orphan.eq_append_of_find? hfind
      rw [ht, ← List.append_assoc] at h
      have hb : (s ++ b).getLast? ≠ some '[' := by
        intro hlast
        obtain ⟨a, ha⟩ := List.getLast?_eq_some_iff.mp hlast
        exact h.noOrphan _ ⟨a, by rw [ha]; simp⟩ hbegins
      rw [removeOrphans_of_eq_some hfind, ← List.append_assoc]
      exact ih (h.erase hok true (hbegins.mono (by simp [Link.macroNames])) hb).tidy

/-! ### Chains and guards -/

/-- Where a chain or guard of a text, or of one of the hooks in them, stands right behind a square bracket
of the same text, its hooks and what follows it begin with no opening bracket, and in a hook something
follows. -/
inductive Clear : Bool → Text → Prop where
  | none {hook : Bool} {t : Text} : Conditional.find? t = none → Clear hook t
  | item {hook : Bool} {t b u : Text} {k : Conditional} : Conditional.find? t = some (b, k, u) →
    (k ≠ .stray → b.getLast? = some '[' →
      (∀ body ∈ k.bodies, Blunt body) ∧ Blunt u ∧ (hook = true → u ≠ [])) →
    (∀ body ∈ k.bodies, Clear true body) → Clear hook u → Clear hook t

/-- The hooks of later branches close what they open. -/
private theorem balanced_of_continued {bs : List Branch} {u : Text} (h : Chain.Continued bs u) :
    ∀ b ∈ bs, Bracket.square.Balanced b.hook.body := by
  induction h with
  | stops => simp
  | elseIf _ _ _ hk _ ih => exact List.forall_mem_cons.mpr ⟨hk.balanced, ih⟩
  | closed _ _ _ _ hk => exact List.forall_mem_cons.mpr ⟨hk.balanced, by simp⟩
  | bare _ hk => exact List.forall_mem_cons.mpr ⟨hk.balanced, by simp⟩

/-- The body of each hook stands in its brackets. -/
private theorem suffix_of_mem_branches {bs : List Branch} {b : Branch} (hb : b ∈ bs) (u : Text) :
    ∃ v, b.hook.body ++ ']' :: v <:+ bs.flatMap Branch.source ++ u := by
  obtain ⟨before, behind, rfl⟩ := List.append_of_mem hb
  refine ⟨behind.flatMap Branch.source ++ u, before.flatMap Branch.source ++
    (b.gap ++ (b.call.map Invocation.source).getD [] ++ b.hook.gap ++ ['[']), ?_⟩
  simp [Branch.source, Hook.source]

/-- A body is balanced, and stands in front of its bracket. -/
private theorem suffix_of_mem_bodies {k : Conditional} {u body : Text} (h : k.ReadBefore u)
    (hbody : body ∈ k.bodies) :
    Bracket.square.Balanced body ∧ ∃ v, body ++ ']' :: v <:+ k.source ++ u := by
  cases h with
  | @chain c m _ hfirst hlater =>
    obtain ⟨b, hb, rfl⟩ := List.mem_map.mp hbody
    refine ⟨?_, suffix_of_mem_branches hb u⟩
    rcases List.mem_cons.mp hb with rfl | hb
    · exact hfirst.hook.balanced
    · exact balanced_of_continued hlater b hb
  | @guard g _ _ _ _ hk =>
    obtain rfl : body = g.hook.body := by simpa [Conditional.bodies] using hbody
    exact ⟨hk.balanced, u, g.call.source ++ g.hook.gap ++ ['['], by
      simp [Conditional.source, Guard.source, Hook.source]⟩

private theorem begins_of_conditional {t b u : Text} {k : Conditional}
    (h : Conditional.find? t = some (b, k, u)) : Begins Link.macroNames (k.source ++ u) := by
  have ht := Conditional.eq_append_of_find? h
  simp only [Conditional.find?, Option.map_eq_some_iff, Prod.mk.injEq, Prod.exists] at h
  obtain ⟨b', v, hv, rfl, hk⟩ := h
  have hsource := Conditional.ofHead_append (Invocation.head?_of_findHead? hv)
  rw [hk] at hsource
  rw [hsource]
  exact Begins.mono (by simp [Link.macroNames]) (findHead?_eq_some_iff.mp hv).2.1

/-- A chain or guard becomes nothing, or what one of its bodies becomes. -/
private theorem resolve_fst (w : Setting) (body : Text → Act Text) {k : Conditional} (hk : k ≠ .stray)
    (run : Run) :
    ((k.resolve w body).run run).1 = [] ∨
      ∃ t ∈ k.bodies, ∃ run', ((k.resolve w body).run run).1 = ((body t).run run').1 := by
  rw [Conditional.resolve_eq_of_chosen w body hk, StateT.run_bind]
  obtain ⟨⟨i, run'⟩, hchosen⟩ : ∃ p, (k.chosen w).run run = p := ⟨_, rfl⟩
  rw [hchosen]
  cases hbody : i.bind fun i => k.bodies[i]? with
  | none =>
    left
    change (((i.bind fun i => k.bodies[i]?).elim (pure []) body).run run').1 = []
    rw [hbody]
    rfl
  | some t =>
    right
    obtain ⟨j, -, hj⟩ := Option.bind_eq_some_iff.mp hbody
    refine ⟨t, List.mem_of_getElem? hj, run', ?_⟩
    change (((i.bind fun i => k.bodies[i]?).elim (pure []) body).run run').1 = _
    rw [hbody]
    rfl

/-- What a pass writes for the first item, and behind it. -/
private theorem pass_fst {α : Type} {F : Finder α} {f : α → Act Text} {t b u : Text} {a : α}
    (h : F.find? t = some (b, a, u)) (limit : Nat) (run : Run) :
    ((F.pass f (limit + 1) t).run run).1 =
      b ++ ((f a).run run).1 ++ ((F.pass f limit u).run ((f a).run run).2).1 := by
  rw [F.pass_of_eq_some f h]
  rfl

include hok in
/-- The body of a hook in a tidy text is tidy, and closed. -/
private theorem tidy_of_mem_bodies {s u body : Text} {k : Conditional}
    (h : Tidy ok (s ++ (k.source ++ u))) (hread : k.ReadBefore u) (hbody : body ∈ k.bodies) :
    Tidy ok body ∧ Closed body := by
  obtain ⟨hbalanced, v, hsuffix⟩ := suffix_of_mem_bodies hread hbody
  exact (h.of_append.of_suffix hsuffix).of_hook hok hbalanced

include hok in
/-- A pass over chains and guards leaves a tidy text, behind another one too, if what is done to bodies
does. -/
private theorem remains_pass {w : Setting} {body : Text → Act Text}
    (hbody : ∀ t run, Clear true t → Tidy ok t → Remains ok true t ((body t).run run).1)
    (limit : Nat) {hook : Bool} {s t : Text} (hclear : Clear hook t) (hlast : s.getLast? = some '[' → Blunt t)
    (h : Tidy ok (s ++ t)) (run : Run) :
    Remains ok hook (s ++ t)
      (s ++ ((Conditional.finder.pass (Conditional.resolve w body) limit t).run run).1) := by
  induction limit generalizing s t run with
  | zero =>
    rw [Finder.pass_zero]
    exact .refl h
  | succ limit ih =>
    cases hclear with
    | none hnone =>
      rw [Finder.pass_of_eq_none Conditional.finder _ hnone]
      exact .refl h
    | @item _ _ b u k hfind hb hbodies hrest =>
      have hbegins := begins_of_conditional hfind
      have ht := Conditional.eq_append_of_find? hfind
      rw [pass_fst hfind limit run, ht]
      rw [ht] at h hlast
      simp only [← List.append_assoc s] at h ⊢
      by_cases hk : k = .stray
      · -- The bracket of a stray head is text, and the text in front of the rest ends with it.
        subst hk
        have hstray : s ++ b ++ (Conditional.source .stray ++ u) = s ++ b ++ ['('] ++ u := by
          simp [Conditional.source]
        rw [hstray] at h ⊢
        exact ih hrest (by simp) h _
      · have hread := ((Conditional.find?_eq_some_iff hk).mp hfind).2.1
        have hmeet : (s ++ b).getLast? = some '[' →
            (∀ body ∈ k.bodies, Blunt body) ∧ Blunt u ∧ (hook = true → u ≠ []) := by
          cases b with
          | nil => exact fun hs => absurd hbegins (hlast (by simpa using hs)).not_begins
          | cons c b => exact fun hs => hb hk (by simpa [List.getLast?_append] using hs)
        obtain ⟨hx, hxclosed, hxblunt⟩ : Tidy ok ((k.resolve w body).run run).1 ∧
            Closed ((k.resolve w body).run run).1 ∧
            ((∀ body ∈ k.bodies, Blunt body) → Blunt ((k.resolve w body).run run).1) := by
          rcases resolve_fst w body hk run with hx | ⟨t', ht', run', hx⟩
          · rw [hx]
            exact ⟨tidy_nil ok, closed_nil, fun _ => blunt_nil⟩
          · rw [hx]
            obtain ⟨htidy, hclosed⟩ := tidy_of_mem_bodies hok h hread ht'
            have hremains := hbody t' run' (hbodies t' ht') htidy
            exact ⟨hremains.tidy, hremains.closed rfl hclosed, fun hall => hremains.blunt (hall t' ht')⟩
        obtain ⟨hbehind, hremains⟩ := h.replace hok hbegins hx hxclosed fun hs =>
          ⟨hxblunt (hmeet hs).1, (hmeet hs).2⟩
        exact hremains.trans (ih hrest hbehind hremains.tidy _)

include hok in
/-- **Resolving chains and guards leaves a tidy text** if what is done to bodies does. -/
theorem remains_reduceWith {w : Setting} {body : Text → Act Text}
    (hbody : ∀ t run, Clear true t → Tidy ok t → Remains ok true t ((body t).run run).1)
    {hook : Bool} {t : Text} (hclear : Clear hook t) (h : Tidy ok t) (run : Run) :
    Remains ok hook t ((reduceWith w body t).run run).1 :=
  remains_pass hok hbody w.limits.maxReductions (s := []) hclear (by simp) h run

/-- What a body becomes where nothing is printed. -/
private theorem reduceBody_fst (w : Setting) (room : Nat) (t : Text) (run : Run)
    (h : NoHead printNames (afterSets ((reduceWith w (reduceBody w room) t).run run).1)) :
    ((reduceBody w (room + 1) t).run run).1 =
      afterSets ((reduceWith w (reduceBody w room) t).run run).1 := by
  change ((resolvePrints w ((runSets w.words ((reduceWith w (reduceBody w room) t).run run).1).run
    ((reduceWith w (reduceBody w room) t).run run).2).1).run _).1 = _
  rw [runSets_fst, resolvePrints_of_noHead h]
  rfl

include hok in
/-- What a body becomes is tidy if the body is, and closed if the body is. -/
private theorem remains_reduceBody (w : Setting) (room : Nat) {t : Text} (run : Run)
    (hclear : Clear true t) (h : Tidy ok t) : Remains ok true t ((reduceBody w room t).run run).1 := by
  induction room generalizing t run with
  | zero => exact .refl h
  | succ room ih =>
    have hreduced := remains_reduceWith hok (w := w) (fun t run hc ht => ih run hc ht) hclear h run
    have hremains := remains_afterSets hok true hreduced.tidy
    rw [reduceBody_fst w room t run hremains.tidy.noPrint]
    exact hreduced.trans hremains

include hok in
/-- **The settled text of a tidy body is tidy.** -/
theorem tidy_settled (w : Setting) {body : Text} (h : Tidy ok body) (hclear : Clear false (afterSets body))
    (run : Run) : Tidy ok ((settled w body).run run).1 := by
  have hreduced := remains_reduceWith hok (w := w)
    (fun t run hc ht => remains_reduceBody hok w w.limits.maxDepth run hc ht) hclear
    (remains_afterSets hok false h).tidy ((runSets w.words body).run run).2
  have hsettled : ((settled w body).run run).1 = removeOrphans w.limits.maxReductions
      ((reduceChains w (afterSets body)).run ((runSets w.words body).run run).2).1 := by
    rw [← runSets_fst w.words body run]
    rfl
  rw [hsettled]
  exact tidy_removeOrphans hok (s := []) hreduced.tidy _

end Replace

/-! ### Choices -/

/-- The choices of a tidy text are choices of a text whose links have the insides of all its links. -/
private theorem choices_subset {body t : Text}
    (h : Tidy (fun inner => Link.Plain inner ∧ ∃ l ∈ (Link.finder.cuts body).found, l.inner = inner) t) :
    Link.choices t ⊆ Link.choices body := by
  intro c hc
  obtain ⟨l, hl, hchoice⟩ := List.mem_filterMap.mp hc
  obtain ⟨-, l', hl', hinner⟩ := h.found (fun _ hi => hi.1) hl
  refine List.mem_filterMap.mpr ⟨l', hl', ?_⟩
  rw [← hchoice, Link.choice?, Link.choice?, hinner]

/-- **Every choice that a passage offers is a choice of its body as written**, if the body is tidy and its
chains and guards stand clear of square brackets. -/
theorem Compiler.choices_subset_of_tidy (c : Compiler) (w : Setting) (p : PassageRecord)
    (snapshot : Snapshot) (used : Nat) (htidy : Tidy Link.Plain p.body)
    (hclear : Clear false (afterSets p.body)) :
    (c.compile w p snapshot used).1.choices ⊆ Link.choices p.body := by
  have hbody : Tidy (fun inner => Link.Plain inner ∧
      ∃ l ∈ (Link.finder.cuts p.body).found, l.inner = inner) p.body := by
    refine ⟨htidy.noPrint, fun v hv hopen => ?_, htidy.noOrphan, htidy.firm⟩
    obtain ⟨l, u, rfl, hl⟩ := htidy.link v hv hopen
    exact ⟨l, u, rfl, hl, htidy.exists_found (fun _ hi => hi) hl hv⟩
  have hsettled := tidy_settled (fun _ hi => hi.1) w hbody hclear ⟨snapshot, used⟩
  exact choices_subset hsettled

/-- A link at the front of a nested hook is one with three brackets where the body is written, and a chain
may stand in text in square brackets. -/
theorem Compiler.choices_subset_of_tidy_nested :
    let body :=
      "(set: $x to 1)(if: true)[(if: false)[x](else:)[[[a]]]], [(if: true)[go] to [[b->T]]]".toList
    let c : Compiler := {}
    (c.compile (c.setting [] Table.empty fun _ => 0) ⟨[], [], body⟩ Table.empty 0).1.choices ⊆
      Link.choices body := by
  intro body c
  have htidy : Tidy Link.Plain body := by decide +kernel
  have hinner : Clear true "(if: false)[x](else:)[[[a]]]".toList := by
    let k : Conditional := .chain ⟨⟨[], some ⟨"if".toList, " false".toList⟩, ⟨[], "x".toList⟩⟩,
      [⟨[], some ⟨"else".toList, []⟩, ⟨[], "[[a]]".toList⟩⟩]⟩
    refine .item (b := []) (k := k) (u := []) (by decide +kernel) (by decide) ?_ (.none rfl)
    exact List.forall_mem_cons.mpr ⟨.none (by decide +kernel),
      List.forall_mem_cons.mpr ⟨.none (by decide +kernel), by simp⟩⟩
  have hclear : Clear false (afterSets body) := by
    let k : Conditional := .chain ⟨⟨[], some ⟨"if".toList, " true".toList⟩,
      ⟨[], "(if: false)[x](else:)[[[a]]]".toList⟩⟩, []⟩
    refine .item (b := []) (k := k) (u := ", [(if: true)[go] to [[b->T]]]".toList) (by decide +kernel)
      (by decide) (List.forall_mem_cons.mpr ⟨hinner, by simp⟩) ?_
    let k' : Conditional := .chain ⟨⟨[], some ⟨"if".toList, " true".toList⟩, ⟨[], "go".toList⟩⟩, []⟩
    refine .item (b := ", [".toList) (k := k') (u := " to [[b->T]]]".toList) (by decide +kernel)
      (by decide) (List.forall_mem_cons.mpr ⟨.none (by decide +kernel), by simp⟩)
      (.none (by decide +kernel))
  exact c.choices_subset_of_tidy _ ⟨[], [], body⟩ Table.empty 0 htidy hclear

/-- A macro in a link is gone before links are read, and where a macro is taken out behind a square
bracket, brackets that no link of the body has may open one. -/
theorem choices_not_subset :
    let c : Compiler := {}
    let choices : Text → List Choice := fun body =>
      (c.compile (c.setting [] Table.empty fun _ => 0) ⟨[], [], body⟩ Table.empty 0).1.choices
    (NoHead printNames "[[(if: true)[a]->T]]".toList ∧
      ¬ choices "[[(if: true)[a]->T]]".toList ⊆ Link.choices "[[(if: true)[a]->T]]".toList) ∧
    (NoHead printNames "[(if: false)[x](else:)[][a]]".toList ∧
      ¬ choices "[(if: false)[x](else:)[][a]]".toList ⊆
        Link.choices "[(if: false)[x](else:)[][a]]".toList) := by
  decide +kernel

end Hyperfiction

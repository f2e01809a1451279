import Hyperfiction.Proofs.Assignment.Outside
import Hyperfiction.Proofs.Render.Choices
import Hyperfiction.Proofs.Render.Printed
import Hyperfiction.Proofs.Script.Basic

/-!
# Scripts settled in two runs

Two runs of a script are followed side by side along a relation `I` between them that its conditions,
assignments and prints respect (`Script.Rules.Respects`). The pass over chains and guards takes the same
branches in both and leaves two texts on a path (`Script.pass_related`); in a hook its assignments run then
(`Script.runSetsAt_related`), and its prints become quiet texts, which may differ
(`Script.resolvePrints_hook`). So a body that is taken is on a path in the two runs whatever the depth of
the hooks in it, and a settled script is, too (`Script.settled_related`).
-/

namespace Hyperfiction

open Invocation Act

/-- The choice between the bodies of a conditional is the same in two runs, if its conditions are. -/
theorem Conditional.chosen_related {I : Run → Run → Prop} {w : Setting} {k : Conditional}
    (h : ∀ c ∈ k.conditions, Related I Eq (Condition.textHolds w c) (Condition.textHolds w c)) :
    Related I Eq (k.chosen w) (k.chosen w) := by
  cases k with
  | chain c =>
    have hselect (bs : List Branch) (hbs : ∀ c ∈ bs.filterMap Branch.condition?,
        Related I Eq (Condition.textHolds w c) (Condition.textHolds w c)) :
        Related I Eq (Chain.select w bs) (Chain.select w bs) := by
      induction bs with
      | nil => exact .pure rfl
      | cons b bs ih =>
        have hrest := ih fun c hc => hbs c (by
          rw [List.filterMap_cons]
          split
          · exact hc
          · exact List.mem_cons_of_mem _ hc)
        have hholds : Related I Eq (b.holds w) (b.holds w) := by
          rw [Branch.holds]
          cases hb : b.condition? with
          | none => exact .pure rfl
          | some c => exact hbs c (by simp [hb])
        rw [Chain.select_cons]
        refine hholds.bind_eq fun holds => ?_
        cases holds with
        | true => exact .pure rfl
        | false => exact hrest.bind_eq fun i => .pure rfl
    exact hselect c.branches h
  | guard g => exact .pure rfl
  | stray => exact .pure rfl

/-! ### Quiet prints -/

/-- The variables of a class are bound to values whose texts are quiet. -/
def Snapshot.Tame (groups : Prop) (N : Text → Prop) (s : Snapshot) : Prop :=
  ∀ x, N x → ∀ v, s.get? x = some v → Script.Quiet groups v.toText

/-- Variables stay tame where another is bound, or a quiet value. -/
theorem Snapshot.Tame.insert {groups : Prop} {N : Text → Prop} {s : Snapshot} (h : s.Tame groups N) {x : Text}
    {v : Value} (hx : ¬ N x ∨ Script.Quiet groups v.toText) : Snapshot.Tame groups N (s.insert x v) := by
  intro y hy u hu
  rw [Table.get?_insert] at hu
  split at hu
  · rename_i heq
    obtain rfl := Option.some.inj hu
    exact hx.resolve_left (not_not_intro (heq ▸ hy))
  · exact h y hy u hu

/-- As long as the variables of a class are tame, the macro writes a quiet text. -/
def Invocation.WritesTame (w : Setting) (groups : Prop) (N : Text → Prop) (m : Invocation) : Prop :=
  ∀ r : Run, r.store.Tame groups N → Script.Quiet groups ((printMacro w m).run r).1

/-- **A tame variable** is printed as a quiet text. -/
theorem Invocation.writesTame_printCall (w : Setting) (groups : Prop) {N : Text → Prop} {x : Text} (hx : N x)
    (h : Text.IsVariable x) : (Doc.printCall x).WritesTame w groups N := by
  intro r hr
  rw [printMacro_printCall w h]
  change Script.Quiet groups (((r.store.lookup? x).map Value.toText).getD [])
  rw [Snapshot.lookup?_eq, h.bareName]
  cases hget : r.store.get? x with
  | none => exact Script.quiet_nil groups
  | some v => exact hr x hx v hget

/-- As long as they are tame, the variables of a class stay so when the assignments run. -/
def Assignment.KeepsTame (words : Words) (groups : Prop) (N : Text → Prop) (args : Text) : Prop :=
  ∀ r : Run, r.store.Tame groups N → ((runText words args).run r).2.store.Tame groups N

/-- The right side is a literal whose text is quiet. -/
def RightSide.IsQuiet (groups : Prop) : RightSide → Prop
  | text t => Script.Quiet groups t
  | boolean _ => True
  | _ => False

instance (groups : Prop) [Decidable groups] : DecidablePred (RightSide.IsQuiet groups)
  | .text t => inferInstanceAs (Decidable (Script.Quiet groups t))
  | .boolean _ => inferInstanceAs (Decidable True)
  | .arithmetic .. | .append .. | .merge .. | .list _ | .emptyMap | .random .. | .number _ | .copy _ =>
    inferInstanceAs (Decidable False)

/-- A quiet literal is bound. -/
theorem Assignment.run_tame {words : Words} {groups : Prop} {N : Text → Prop} {a : Assignment}
    (h : a.value.IsQuiet groups) {r : Run} (hr : r.store.Tame groups N) :
    ((run words a).run r).2.store.Tame groups N := by
  obtain ⟨target, right⟩ := a
  cases right with
  | text t => exact hr.insert (v := .text t) (.inr h)
  | boolean b =>
    have hquiet : Script.Quiet True (Value.boolean b).toText := by
      cases b with
      | true | false => decide +kernel
    exact hr.insert (v := .boolean b) (.inr (hquiet.of_true groups))
  | _ => exact h.elim

/-- **Assignments keep variables tame** that they are not to, and those they are to with a quiet literal. -/
theorem Assignment.keepsTame_of_quiet {words : Words} {groups : Prop} {N : Text → Prop} {args : Text}
    (h : ∀ a ∈ ofText args, N a.target → a.value.IsQuiet groups) : KeepsTame words groups N args := by
  have hrun (as : List Assignment) (has : ∀ a ∈ as, N a.target → a.value.IsQuiet groups) (r : Run)
      (hr : r.store.Tame groups N) : ((runAll words as).run r).2.store.Tame groups N := by
    induction as generalizing r with
    | nil => exact hr
    | cons a as ih =>
      suffices hfirst : ((run words a).run r).2.store.Tame groups N from
        ih (fun b hb => has b (List.mem_cons_of_mem _ hb)) _ hfirst
      by_cases hN : N a.target
      · exact run_tame (has a List.mem_cons_self hN) hr
      · have hmade : Act.Made words (fun _ => True) (· = a.target) (run words a) :=
          run_made words (fun _ _ => trivial) rfl
        exact hmade.keeps (P := fun r => r.store.Tame groups N) (fun _ _ hs => hs)
          (fun _ _ _ hx hs => hs.insert (.inl (hx ▸ hN))) hr
  exact hrun _ h

/-- Assignments to other variables keep those of a class tame. -/
theorem Assignment.keepsTame_of_not_mem {words : Words} {groups : Prop} {N : Text → Prop} {args : Text}
    (h : ∀ x ∈ textTargets args, ¬ N x) : KeepsTame words groups N args :=
  keepsTame_of_quiet fun _ ha hN => absurd hN (h _ (List.mem_map_of_mem ha))

/-! ### Rules that two runs respect -/

namespace Script

/-- The relation between runs is **respected** by what the rules allow: conditions hold alike, assignments
have like effects, and what hooks print is quiet. -/
structure Rules.Respects (R : Rules) (w : Setting) (I : Run → Run → Prop) : Prop where
  asks : ∀ c, R.asks c → Related I Eq (Condition.textHolds w c) (Condition.textHolds w c)
  sets : ∀ args, R.sets args →
    Related I Eq (Assignment.runText w.words args) (Assignment.runText w.words args)
  prints : ∀ m, R.IsPrint m → R.prints m →
    Related I (fun x y => Quiet R.groups x ∧ Quiet R.groups y) (printMacro w m) (printMacro w m)

/-- The two texts are on a path from a spot to one of some ends. -/
def Alike (R : Rules) (own : Bool) (p : Spot) (ends : Spot → Prop) (s t : Text) : Prop :=
  ∃ q, ends q ∧ Path (Piece R own) p s t q

variable {R : Rules} {I : Run → Run → Prop} {w : Setting} {p q : Spot} {s t : Text}

/-! ### The assignments of a hook -/

/-- A piece stays in its text, or is an assignment of the hook itself. -/
theorem Piece.false_or_own {x y : Text} (h : Piece R true p x y q) : Piece R false p x y q ∨
    ∃ m, R.IsOwn m ∧ p.depth = 0 ∧ x = m.source ∧ y = m.source ∧ q = p := by
  cases h with
  | text hx hy hpass => exact .inl (.text hx hy hpass)
  | brace hg hc hpass => exact .inl (.brace hg hc hpass)
  | opens hp => exact .inl (.opens hp)
  | closes depth hd hp => exact .inl (.closes depth hd hp)
  | print hm hcross hp => exact .inl (.print hm hcross hp)
  | kept hm hd hcross hp => exact .inl (.kept hm hd hcross hp)
  | own _ hm hd => exact .inr ⟨_, hm, hd, rfl, rfl, rfl⟩

/-- A bracket is passed over when assignments run, and leads to another depth. -/
private theorem runSetsAt_bracket {c : Char} (hc : c ≠ '(') (words : Words) (depth : ℕ) (t : Text) :
    runSetsAt words depth ([c] ++ t) = (do
      let rest ← runSetsAt words (Bracket.square.depthAfter depth [c]) t
      pure ([c] ++ rest)) :=
  runSetsAt_append (.inl (Piece.sealed_opener hc)) (Piece.noHead_opener hc) words depth

/-- A piece that stays is passed over when assignments run. -/
private theorem Piece.exists_runSetsAt {x y : Text} (h : Piece R false p x y q) {depth : ℕ}
    (hp : p.depth = depth) (words : Words) :
    ∃ d : ℕ, q.depth = d ∧ ∀ t, runSetsAt words depth (x ++ t) = (do
      let rest ← runSetsAt words d t
      pure (x ++ rest)) := by
  have hpass {x y : Text} {q : Spot} (h : Passes R.solid p x y q) : q.depth = depth := by
    rcases h with rfl | ⟨-, -, rfl⟩ <;> exact hp
  have hcross {q : Spot} (h : R.Crosses p q) : q.depth = depth := by
    rcases h with rfl | ⟨-, rfl⟩ <;> exact hp
  cases h with
  | text hx _ h =>
    exact ⟨depth, hpass h, skipsSets_of_noHead hx.isSealed (hx.noHead.mono (by decide)) hx.noSquare.1
      hx.noSquare.2 words depth⟩
  | brace _ hc h =>
    refine ⟨depth, hpass h, fun t => ?_⟩
    rcases hc with rfl | rfl <;> exact runSetsAt_bracket (by decide) words depth t
  | opens => exact ⟨depth + 1, by simp [hp], runSetsAt_bracket (by decide) words depth⟩
  | closes d hd =>
    -- Inside of a hook the depth is a number.
    obtain ⟨n, rfl⟩ : ∃ n : ℕ, d = n := by
      refine ENat.ne_top_iff_exists.mp ?_ |>.imp fun _ h => h.symm
      rintro rfl
      rw [hp, top_add] at hd
      exact ENat.natCast_ne_top _ hd
    obtain rfl : depth = n + 1 := by exact_mod_cast hp.symm.trans hd
    exact ⟨n, rfl, runSetsAt_bracket (by decide) words (n + 1)⟩
  | print hm h _ =>
    have hnone : NoHead setNames _ := (hm.whole.mono (by decide)).noHead_source (by decide)
    exact ⟨depth, hcross h, skipsSets_of_noHead (sealed_source _) hnone hm.whole.noSquare_source.1
      hm.whole.noSquare_source.2 words depth⟩
  | kept hm hd h _ =>
    obtain ⟨n, rfl⟩ : ∃ n, depth = n + 1 :=
      Nat.exists_eq_succ_of_ne_zero fun h0 => hd (by rw [hp, h0]; rfl)
    exact ⟨n + 1, hcross h, skipsSets_set hm.whole.readable hm.whole.named hm.whole.noSquare_source.1
      hm.whole.noSquare_source.2 words n⟩
  | own hown _ _ => cases hown

/-- **The assignments of a hook run** in both texts, and are gone then. -/
theorem runSetsAt_related (hR : R.Respects w I) {depth : ℕ} (h : Path (Piece R true) p s t q)
    (hp : p.depth = depth) :
    Related I (fun s t => Path (Piece R false) p s t q) (runSetsAt w.words depth s)
      (runSetsAt w.words depth t) := by
  induction h generalizing depth with
  | nil =>
    rw [runSetsAt_of_eq_none (t := []) rfl]
    exact .pure (.nil _)
  | @cons p q r x y s t hpiece _ ih =>
    rcases hpiece.false_or_own with hpiece | ⟨m, hm, hd, rfl, rfl, rfl⟩
    · obtain ⟨d, hq, hx⟩ := hpiece.exists_runSetsAt hp w.words
      obtain ⟨d', hq', hy⟩ := hpiece.symm.exists_runSetsAt hp w.words
      obtain rfl : d = d' := by exact_mod_cast hq.symm.trans hq'
      rw [hx, hy]
      exact (ih hq).bind fun _ _ hrest => .pure (.cons hpiece hrest)
    · obtain rfl : depth = 0 := by exact_mod_cast hp.symm.trans hd
      have hdepth : Bracket.square.depthAfter 0 m.source = 0 :=
        Bracket.depthAfter_of_not_mem hm.whole.noSquare_source.1 hm.whole.noSquare_source.2 0
      simp only [runSetsAt_set hm.whole.readable hm.whole.named, hdepth]
      exact (hR.sets _ hm.sets).bind_eq fun _ => ih hp

/-! ### The prints of a text -/

/-- A piece is passed over by the search for prints, or is one, unless it is an assignment that was left
standing outside of hooks. -/
theorem Piece.noPrint_or_print {x y : Text} (h : Piece R false p x y q)
    (hset : p.depth ≠ ⊤ ∨ NoHead setNames x) : (NoHead printNames x ∧ NoHead printNames y) ∨
      ∃ m, R.IsPrint m ∧ (p.depth = ⊤ ∨ R.prints m ∧ q = p.thin) ∧ R.Crosses p q ∧
        x = m.source ∧ y = m.source := by
  have hbracket {c : Char} (hc : c ≠ '(') : NoHead printNames [c] ∧ NoHead printNames [c] :=
    ⟨noHead_opener hc, noHead_opener hc⟩
  cases h with
  | text hx hy _ => exact .inl ⟨hx.noHead.mono (by decide), hy.noHead.mono (by decide)⟩
  | brace _ hc _ => exact .inl (hbracket (by rcases hc with rfl | rfl <;> decide))
  | opens | closes => exact .inl (hbracket (by decide))
  | print hm hcross hp => exact .inr ⟨_, hm, hp, hcross, rfl, rfl⟩
  | @kept _ m hm _ _ hp =>
    rcases hset with htop | hnone
    · have hargs := hp.resolve_left htop
      have hsource : NoHead printNames m.source :=
        Whole.noHead_source ⟨hm.whole.readable, hm.whole.named, hargs, hm.whole.noSquare⟩ (by decide)
      exact .inl ⟨hsource, hsource⟩
    · have hfind := findHead?_source_append hm.whole.readable.isName hm.whole.named []
      rw [List.append_nil, show findHead? setNames m.source = none from hnone] at hfind
      cases hfind
  | own hown _ _ => cases hown

/-- **Prints in two texts on a path** lead to related results: if what each macro writes may stand before
the results behind it, and so may every other piece. -/
theorem pass_prints_related {P : Spot → Text → Text → Spot → Prop}
    {S : Spot → Text → Text → Text → Prop}
    (hP : ∀ p x y p', P p x y p' → Piece R false p x y p' ∧ (p.depth ≠ ⊤ ∨ NoHead setNames x))
    (hnil : S q [] [] [])
    (hcons : ∀ p p' x y s s' t', P p x y p' → S p' s s' t' → S p (x ++ s) (x ++ s') (y ++ t'))
    (hprint : ∀ p p' m, P p m.source m.source p' → R.IsPrint m → (p.depth = ⊤ ∨ R.prints m ∧ p' = p.thin) →
      R.Crosses p p' → Related I
        (fun x y => ∀ s s' t', S p' s s' t' → S p (m.source ++ s) (x ++ s') (y ++ t'))
        (printMacro w m) (printMacro w m))
    (h : Path P p s t q) (limit : ℕ) :
    Related I (S p s) ((Invocation.finder printNames).pass (printMacro w) limit s)
      ((Invocation.finder printNames).pass (printMacro w) limit t) := by
  -- The induction is on the pieces of the two texts; only the macros use up the limit.
  induction h generalizing limit with
  | nil p =>
    have hfind : (Invocation.finder printNames).find? [] = none :=
      Invocation.find?_eq_none (noHead_nil printNames)
    rw [Finder.pass_of_eq_none _ _ hfind]
    exact .pure hnil
  | @cons p p' _ x y s t hpiece hrest ih =>
    obtain ⟨hpiece', hset⟩ := hP _ _ _ _ hpiece
    rcases hpiece'.noPrint_or_print hset with ⟨hx, hy⟩ | ⟨m, hm, hp, hcross, rfl, rfl⟩
    · rw [Finder.pass_append _ _ (Invocation.find?_append (.inl hpiece'.sealed_left) hx),
        Finder.pass_append _ _ (Invocation.find?_append (.inl hpiece'.symm.sealed_left) hy)]
      exact (ih hnil limit).bind fun _ _ h => .pure (hcons _ _ _ _ _ _ _ hpiece h)
    · cases limit with
      | zero =>
        rw [Finder.pass_zero, Finder.pass_zero]
        refine .pure ((Path.cons hpiece hrest).fold (S := fun p s t => S p s s t) hnil ?_)
        exact fun _ _ _ _ _ _ h hrest => hcons _ _ _ _ _ _ _ h hrest
      | succ limit =>
        have hfind : ∀ u, (Invocation.finder printNames).find? (m.source ++ u) = some ([], m, u) :=
          Invocation.find?_source_append hm.whole.readable hm.whole.named
        rw [Finder.pass_of_eq_some _ _ (hfind s), Finder.pass_of_eq_some _ _ (hfind t)]
        refine (hprint _ _ _ hpiece hm hp hcross).bind fun x y hxy => ?_
        exact (ih hnil limit).bind fun _ _ h => .pure (hxy _ _ _ h)

/-- **The prints of a hook become quiet texts**, which may differ. -/
theorem resolvePrints_hook (hR : R.Respects w I) (h : Path (Piece R false) p s t q) (hp : p.depth ≠ ⊤) :
    Related I (fun s t => Path (Piece R false) p s t q) (resolvePrints w s) (resolvePrints w t) := by
  have hpath : Path (fun p x y q => Piece R false p x y q ∧ p.depth ≠ ⊤) p s t q :=
    h.along (fun _ _ _ _ hpiece hp => mt hpiece.depth_eq_top_iff.mp hp) hp
  rw [resolvePrints_eq_pass, resolvePrints_eq_pass]
  refine pass_prints_related (S := fun p _ s t => Path (Piece R false) p s t q)
    (fun _ _ _ _ h => ⟨h.1, .inl h.2⟩) (.nil q) (fun _ _ _ _ _ _ _ h hrest => .cons h.1 hrest)
    (fun p p' m h hm hp _ => ?_) hpath _
  obtain ⟨hprints, rfl⟩ := hp.resolve_left h.2
  refine (hR.prints m hm hprints).mono fun x y hxy _ _ _ hrest => ?_
  exact .cons (.text hxy.1 hxy.2 (.inl rfl)) hrest

/-! ### Bodies and scripts -/

/-- A body that is taken becomes texts on a path, if the pass over its chains and guards leaves some. -/
private theorem reduceBody_related (hR : R.Respects w I) {room : ℕ} {body : Text} {ends : Spot → Prop}
    (hp : p.depth = 0)
    (h : Related I (Alike R true p ends) (reduceWith w (reduceBody w room) body)
      (reduceWith w (reduceBody w room) body)) :
    Related I (Alike R false p ends) (reduceBody w (room + 1) body) (reduceBody w (room + 1) body) := by
  rw [reduceBody]
  refine h.bind fun s t hst => ?_
  obtain ⟨q, hq, hpath⟩ := hst
  have hzero : p.depth = (0 : ℕ) := by rw [hp]; rfl
  refine (runSetsAt_related hR hpath hzero).bind fun s t hpath => ?_
  exact (resolvePrints_hook hR hpath (by simp [hp])).mono fun _ _ hpath => ⟨q, hq, hpath⟩

/-- **The pass over the chains and guards of a script** takes the same branches in both runs, and leaves two
texts on a path. -/
theorem pass_related (hR : R.Respects w I) {limit room left : ℕ} {ends : Spot → Prop}
    (hlimit : limit = w.limits.maxReductions) (h : Script R limit room left p t ends) :
    Related I (Alike R true p ends) (Conditional.finder.pass (Conditional.resolve w (reduceBody w room)) left t)
      (Conditional.finder.pass (Conditional.resolve w (reduceBody w room)) left t) := by
  induction h with
  | @done _ _ p _ hp =>
    rw [Finder.pass_of_eq_none _ _ (Conditional.find?_eq_none (noHead_nil _))]
    exact .pure ⟨p, hp, .nil p⟩
  | piece hpiece hnone _ ih =>
    rw [Finder.pass_append _ _ (Conditional.find?_append (.inl hpiece.sealed_left) hnone)]
    exact ih.bind fun _ _ ⟨q, hq, hpath⟩ => .pure ⟨q, hq, .cons hpiece hpath⟩
  | @stray room left p q x t ends hpiece hfind hnone _ ih =>
    have hsealed : Sealed x := hpiece.sealed_left.of_cons
    rw [Finder.pass_of_eq_some _ _ hfind,
      Finder.pass_append _ _ (Conditional.find?_append (.inl hsealed) hnone),
      show Conditional.resolve w (reduceBody w room) .stray = pure ['('] from rfl, pure_bind, bind_assoc]
    refine ih.bind fun s t hst => ?_
    obtain ⟨q', hq', hpath⟩ := hst
    have hcons : Path (Piece R true) p ('(' :: x ++ s) ('(' :: x ++ t) q' := .cons hpiece hpath
    rw [pure_bind]
    exact .pure ⟨q', hq', by simpa using hcons⟩
  | @item room left p k t ends bodyEnds hk hfind hasks _ hdepth _ _ ihbodies ihfront ihbehind =>
    have hbodies : ∀ body ∈ k.bodies, Related I (Alike R false p.within bodyEnds)
        (reduceBody w (room + 1) body) (reduceBody w (room + 1) body) := by
      intro body hbody
      have hpass := ihbodies body hbody
      rw [hlimit, ← reduceWith_eq_pass] at hpass
      exact reduceBody_related hR rfl hpass
    rw [Finder.pass_of_eq_some _ _ hfind, Conditional.resolve_eq_of_chosen _ _ hk, bind_assoc]
    refine (Conditional.chosen_related fun c hc => hR.asks c (hasks c hc)).bind_eq fun i => ?_
    cases hbody : i.bind fun i => k.bodies[i]? with
    | none =>
      rw [Option.elim_none, pure_bind]
      exact ihfront.bind fun _ _ hrest => .pure (by simpa using hrest)
    | some body =>
      obtain ⟨j, -, hj⟩ := Option.bind_eq_some_iff.mp hbody
      rw [Option.elim_some]
      refine (hbodies body (List.mem_of_getElem? hj)).bind fun x y ⟨q, hq, hxy⟩ => ?_
      refine (ihbehind q hq).bind fun _ _ ⟨q', hq', hrest⟩ => .pure ⟨q', hq', ?_⟩
      -- The body has closed its brackets, so the text goes on at the depth in front of the chain.
      have hmap : Path (Piece R true) (p.within.deeper p.depth) x y (q.deeper p.depth) :=
        hxy.map (Spot.deeper · p.depth) fun _ _ _ _ hpiece => (hpiece.deeper p.depth).of_false
      rw [Spot.deeper_within] at hmap
      exact hmap.append hrest

/-- The assignments of a body that stand outside of square brackets have like effects. -/
private theorem runSets_related {body : Text} (hsets : ∀ m ∈ outerSets body 0,
    Related I Eq (Assignment.runText w.words m.item.args) (Assignment.runText w.words m.item.args)) :
    Related I (fun s t => s = afterSets body ∧ t = afterSets body) (runSets w.words body)
      (runSets w.words body) := by
  have hrun (ms : List (Located Invocation)) (hms : ∀ m ∈ ms, Related I Eq
      (Assignment.runText w.words m.item.args) (Assignment.runText w.words m.item.args)) :
      Related I Eq (runSetArgs w.words ms) (runSetArgs w.words ms) := by
    induction ms with
    | nil => exact .pure rfl
    | cons m ms ih =>
      rw [runSetArgs_cons]
      exact (hms m List.mem_cons_self).bind_eq fun _ => ih fun m hm => hms m (List.mem_cons_of_mem _ hm)
  intro r₁ r₂ hr
  refine ⟨⟨runSets_fst _ _ _, runSets_fst _ _ _⟩, ?_⟩
  have heq := (runSets_outside w.words).1 body
  rw [heq]
  exact (hrun _ hsets r₁ r₂ hr).2

/-- **Scripts are settled alike**: two runs leave texts on a path, without orphans. -/
theorem settled_related (hR : R.Respects w I) {body : Text} {ends : Spot → Prop}
    (hsets : ∀ m ∈ outerSets body 0,
      Related I Eq (Assignment.runText w.words m.item.args) (Assignment.runText w.words m.item.args))
    (hbody : Script R w.limits.maxReductions w.limits.maxDepth w.limits.maxReductions Spot.start
      (afterSets body) ends) :
    Related I (Alike R false Spot.start ends) (settled w body) (settled w body) := by
  have horphans {p q : Spot} {s t : Text} (h : Path (Piece R false) p s t q) (limit : ℕ) :
      removeOrphans limit s = s := by
    have hnone : NoHead Orphan.names s ∧ Sealed s :=
      h.left_induction (C := fun s => NoHead Orphan.names s ∧ Sealed s) ⟨noHead_nil _, sealed_nil⟩
        (fun hs ht => ⟨hs.1.append (.inl hs.2) ht.1, hs.2.append ht.2⟩)
        fun _ _ _ _ hpiece => ⟨hpiece.noOrphan_left, hpiece.sealed_left⟩
    rw [removeOrphans_eq_pass, Finder.pass_of_eq_none _ _ (Orphan.find?_eq_none hnone.1)]
    rfl
  rw [settled]
  refine (runSets_related hsets).bind fun s t hst => ?_
  obtain ⟨rfl, rfl⟩ := hst
  rw [reduceChains, reduceWith_eq_pass]
  refine (pass_related hR rfl hbody).bind fun s t hst => ?_
  obtain ⟨q, hq, hpath⟩ := hst
  -- Outside of hooks no assignment stands open: the spot is not at depth 0.
  have hout : Path (Piece R false) Spot.start s t q := by
    have halong := hpath.along (C := fun p => p.depth = ⊤)
      (fun _ _ _ _ hpiece => hpiece.depth_eq_top_iff.mpr) rfl
    refine halong.mono fun p x y q h => ?_
    obtain ⟨hpiece, htop⟩ := h
    rcases hpiece.false_or_own with hpiece | ⟨m, -, hd, -⟩
    · exact hpiece
    · rw [htop] at hd
      exact absurd hd (by decide)
  rw [horphans hout, horphans (hout.symm fun _ _ _ _ => Piece.symm)]
  exact .pure ⟨q, hq, hout⟩

end Script

end Hyperfiction

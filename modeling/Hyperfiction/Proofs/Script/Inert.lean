import Hyperfiction.Proofs.Script.Written

/-!
# Printed values are inert

A variable that a script only prints decides nothing: whatever texts two snapshots bind to it, the passage
makes the same changes and draws the same random words (`Compiler.changes_eq_of_script`). Text, links, square
brackets, braces and left-over assignments may stand around the prints. What is printed in a hook is scanned
again with the bodies around it, so there the printed texts have to be quiet; outside of all hooks they may be
anything.

The runs from the two snapshots are followed side by side. `Act.Beside v` holds between them throughout: they
differ in `v` alone and have drawn the same words.
-/

namespace Hyperfiction

open Invocation Act

/-! ### What a printing macro depends on -/

/-- The macro prints the variable and nothing else, or does not depend on it. -/
def Invocation.OnlyPrints (v : Text) (m : Invocation) : Prop := m = Doc.printCall v ∨ v ∉ m.printNames

instance (v : Text) (m : Invocation) : Decidable (m.OnlyPrints v) := inferInstanceAs (Decidable (_ ∨ _))

/-! ### Two runs that differ in a variable -/

/-- Two runs that differ in the variable `v` alone, which has the values `a` and `b`. -/
structure Act.Beside (v : Text) (a b : Value) (r₁ r₂ : Run) : Prop where
  get? : ∀ x, x ≠ v → r₁.store.get? x = r₂.store.get? x
  left : r₁.store.get? v = some a
  right : r₂.store.get? v = some b
  used : r₁.used = r₂.used

/-- Two runs beside each other in which the variables of a class are tame. -/
def Act.TameBeside (v : Text) (a b : Value) (groups : Prop) (N : Text → Prop) (r₁ r₂ : Run) : Prop :=
  Beside v a b r₁ r₂ ∧ r₁.store.Tame groups N ∧ r₂.store.Tame groups N

section Beside

variable {v : Text} {a b : Value} {groups : Prop} {N : Text → Prop}

/-- **Runs stay beside each other** whatever they read but `v`, and whatever they assign but `v`. -/
theorem Act.framed_beside : Framed (Beside v a b) (· ≠ v) (· ≠ v) where
  get? h hx := h.get? _ hx
  used h := h.used
  draw h _ := ⟨h.get?, h.left, h.right, rfl⟩
  bind {r₁ r₂ x} h hx u := by
    have hv : v ≠ x := Ne.symm hx
    refine ⟨fun y hy => ?_, ?_, ?_, h.used⟩
    · rw [Table.get?_insert, Table.get?_insert, h.get? y hy]
    · rw [Table.get?_insert, if_neg hv, h.left]
    · rw [Table.get?_insert, if_neg hv, h.right]

/-- An act that binds no variable keeps the variables of a class tame. -/
theorem Act.Related.tame {α β : Type} {R : α → β → Prop} {x : Act α} {y : Act β}
    (h : Related (Beside v a b) R x y) (hx : ∀ r, (x.run r).2.store = r.store)
    (hy : ∀ r, (y.run r).2.store = r.store) : Related (TameBeside v a b groups N) R x y :=
  h.and_keeps (P := fun r => r.store.Tame groups N) (fun r hr => by rwa [hx r]) (fun r hr => by rwa [hy r])

/-- A macro that only prints the variable has the same effects in both runs. -/
theorem printMacro_beside (w : Setting) {m : Invocation} (hv : Text.IsVariable v) (h : m.OnlyPrints v) :
    Related (TameBeside v a b groups N) (fun _ _ => True) (printMacro w m) (printMacro w m) := by
  refine Related.tame ?_ (printMacro_store w m) (printMacro_store w m)
  rcases h with rfl | h
  · rw [printMacro_printCall w hv]
    exact fun _ _ hI => ⟨trivial, hI⟩
  -- A macro that does not depend on the variable reads the same values.
  · have hreads : ∀ x ∈ m.printNames, x ≠ v := fun x hx heq => h (heq ▸ hx)
    exact (printMacro_related Act.framed_beside w hreads).mono fun _ _ _ => trivial

/-- Runs beside each other have made the same changes. -/
theorem changesSince_eq_of_beside {t₁ t₂ : Text} {s₁ s₂ : Snapshot}
    (h₁ : s₁.get? v = some (.text t₁)) (h₂ : s₂.get? v = some (.text t₂))
    (heq : ∀ x, x ≠ v → s₁.get? x = s₂.get? x) {r₁ r₂ : Run}
    (h : Beside v (.text t₁) (.text t₂) r₁ r₂) : r₁.store.changesSince s₁ = r₂.store.changesSince s₂ := by
  have hsame : ∀ t : Text, Value.same (.text t) (.text t) = true := by simp [Value.same]
  refine Table.ext_get? fun x => ?_
  rw [Snapshot.get?_changesSince, Snapshot.get?_changesSince]
  -- The variable itself is unchanged in both runs, so it is among the changes of neither.
  by_cases hx : x = v
  · subst hx
    rw [h.left, h.right, h₁, h₂]
    simp [Option.filter, hsame]
  · rw [h.get? x hx, heq x hx]

end Beside

/-! ### Scripts that only print the variable -/

namespace Script

variable {v : Text} {a b : Value} {groups : Prop} {N : Text → Prop} {w : Setting}

/-- The rules of scripts that **only print** a variable `v`: conditions and assignments do not read it, and
prints have no other use of it, as they are written and on a line. Any text keeps brackets apart. What hooks
print is quiet as long as the variables in `N` are tame, and assignments keep them so. -/
def onlyPrints (w : Setting) (groups : Prop) (v : Text) (N : Text → Prop) : Rules where
  groups := groups
  solid _ x := x ≠ []
  solid_mono _ := id
  whole := True
  shows m := m.OnlyPrints v ∧ (groups → m.lined.OnlyPrints v)
  prints m := m.WritesTame w groups N
  sets args := v ∉ Assignment.textNames args ∧ v ∉ Assignment.textTargets args ∧
    Assignment.KeepsTame w.words groups N args
  asks c := v ∉ Condition.textNames c

/-- An assignment that does not read the variable has the same effects in both runs. -/
theorem runText_beside {args : Text} (h : (onlyPrints w groups v N).sets args) :
    Related (TameBeside v a b groups N) Eq (Assignment.runText w.words args)
      (Assignment.runText w.words args) := by
  obtain ⟨hreads, hwrites, hkeeps⟩ := h
  refine Related.and_keeps ?_ hkeeps hkeeps
  exact Assignment.runText_related framed_beside w.words (fun _ hx heq => hreads (heq ▸ hx))
    fun _ hx heq => hwrites (heq ▸ hx)

/-- **Runs beside each other do the same** by the rules of scripts that only print the variable. -/
theorem respects_onlyPrints (hv : Text.IsVariable v) :
    (onlyPrints w groups v N).Respects w (TameBeside v a b groups N) where
  asks c hc := by
    have hmade : Act.Made w.words (fun _ => True) (fun _ => False) (Condition.textHolds w c) :=
      Condition.textHolds_made w fun _ _ => trivial
    have hreads : ∀ x ∈ Condition.textNames c, x ≠ v := fun x hx heq => hc (heq ▸ hx)
    exact (Condition.textHolds_related framed_beside w hreads).tame hmade.store_eq hmade.store_eq
  sets _ h := runText_beside h
  prints _ hm hprints r₁ r₂ hr :=
    ⟨⟨hprints r₁ hr.2.1, hprints r₂ hr.2.2⟩, (printMacro_beside w hv hm.shows.1 r₁ r₂ hr).2⟩

end Script

open Script in
/-- **Printed values are inert.** A variable that a script within the limits only prints decides nothing:
whatever texts two snapshots bind to it, the passage makes the same changes and draws the same random words.
What is printed in a hook has to be quiet, which is why the variables of a class `N` are tame and stay so;
outside of all hooks any text may be printed. -/
theorem Compiler.changes_eq_of_script {c : Compiler} {w : Setting} {p : PassageRecord} {groups : Prop}
    {v t₁ t₂ : Text} {N : Text → Prop} {s₁ s₂ : Snapshot} (hv : Text.IsVariable v)
    (hsets : ∀ m ∈ outerSets p.body 0, (onlyPrints w groups v N).sets m.item.args)
    (hbody : Script (onlyPrints w groups v N) w.limits.maxReductions w.limits.maxDepth w.limits.maxReductions
      Spot.start (afterSets p.body) fun _ => True)
    (h₁ : s₁.get? v = some (.text t₁)) (h₂ : s₂.get? v = some (.text t₂))
    (heq : ∀ x, x ≠ v → s₁.get? x = s₂.get? x) (htame₁ : s₁.Tame groups N) (htame₂ : s₂.Tame groups N)
    (used : Nat) :
    (c.compile w p s₁ used).1.changes = (c.compile w p s₂ used).1.changes ∧
      (c.compile w p s₁ used).2 = (c.compile w p s₂ used).2 := by
  have hlined (hg : groups) (m : Invocation) (h : (onlyPrints w groups v N).shows m) :
      (onlyPrints w groups v N).shows m.lined := by
    have hlined : m.lined.lined = m.lined := by
      rw [lined, lined, Text.squeeze_squeeze]
    exact ⟨h.2 hg, fun hg => by rw [hlined]; exact h.2 hg⟩
  have hdraft : Related (TameBeside v (.text t₁) (.text t₂) groups N) (fun _ _ => True) (draft w p.body)
      (draft w p.body) := by
    rw [draft]
    refine (settled_related (respects_onlyPrints hv) (fun m hm => runText_beside (hsets m hm)) hbody).bind
      fun s t hst => ?_
    obtain ⟨q, -, hpath⟩ := hst
    have hwritten : Related (TameBeside v (.text t₁) (.text t₂) groups N) (fun _ _ => True) (written w s)
        (written w t) :=
      written_related (R := onlyPrints w groups v N) (fun _ _ => id) hlined
        (fun m hm => printMacro_beside w hv hm.1) hpath
    exact hwritten.bind fun _ _ _ => .pure trivial
  obtain ⟨-, hend, -⟩ := hdraft ⟨s₁, used⟩ ⟨s₂, used⟩ ⟨⟨heq, h₁, h₂, rfl⟩, htame₁, htame₂⟩
  exact ⟨changesSince_eq_of_beside h₁ h₂ heq hend, hend.used⟩

open Script in
/-- A variable is printed between links, brackets and braces, in a hook that an assignment decides on, in square
brackets there, beside a variable that the hook assigns, and in the hook of a guard in it. -/
theorem Compiler.changes_eq_of_script_nested :
    let inner : Text :=
      "say [(print: $v)] (set: $y to \"Eve\")to (print: $y)(visited: home)[(print: $v)]".toList
    let body : Text := "(set: $x to true)Hello (print: $v)! {[[Go->Cave]] and  [note]} (IF: $x)\n[".toList ++
      inner ++ "](else:)[no]".toList
    let w : Setting := ⟨["home".toList], Table.empty, fun _ => 0, ⟨3, 2⟩⟩
    let p : PassageRecord := ⟨"start".toList, [], body⟩
    let s : Text → Snapshot := fun t => Table.empty.insert "v".toList (.text t)
    ((⟨[], w.limits⟩ : Compiler).compile w p (s "Ann (the smith)".toList) 0).1.changes =
        ((⟨[], w.limits⟩ : Compiler).compile w p (s "Bo".toList) 0).1.changes ∧
      ((⟨[], w.limits⟩ : Compiler).compile w p (s "Ann (the smith)".toList) 0).1.changes.keys =
        ["x".toList, "y".toList] := by
  intro inner body w p s
  have hv : Text.IsVariable "v".toList := by decide +kernel
  have hget : ∀ t, (s t).get? "v".toList = some (.text t) := fun t => by
    rw [Table.get?_insert, if_pos rfl]
  have hother : ∀ x, x ≠ "v".toList →
      (s "Ann (the smith)".toList).get? x = (s "Bo".toList).get? x := fun x hx => by
    rw [Table.get?_insert, Table.get?_insert, if_neg hx, if_neg hx]
  let N : Text → Prop := (· ∈ ["v".toList, "y".toList])
  have htame : ∀ t, Quiet True t → (s t).Tame True N := by
    intro t ht x _ u hu
    rw [Table.get?_insert] at hu
    split at hu
    · obtain rfl := Option.some.inj hu
      exact ht
    · cases hu
  let R : Rules := onlyPrints w True "v".toList N
  have hprint : ∀ x ∈ ["v".toList, "y".toList], R.IsPrint (Doc.printCall x) ∧ R.prints (Doc.printCall x) ∧
      NoHead Conditional.names (Doc.printCall x).source := by
    intro x hx
    have hplain : ∀ x ∈ ["v".toList, "y".toList], Text.IsVariable x ∧ NoBrace True (Doc.printCall x) ∧
        (Doc.printCall x).OnlyPrints "v".toList ∧ (Doc.printCall x).lined.OnlyPrints "v".toList ∧
        NoHead Conditional.names (Doc.printCall x).source := by decide +kernel
    obtain ⟨hvar, hbrace, hprints, hlined, hnone⟩ := hplain x hx
    exact ⟨⟨Doc.whole_printCall hvar, hbrace, hprints, fun _ => hlined⟩,
      writesTame_printCall w True hx hvar, hnone⟩
  have hstays {p : Spot} {x : Text} (hx : x ≠ []) : Passes R.solid p x x p.solid := .inr ⟨hx, hx, rfl⟩
  -- A text stays, and so does a print outside of hooks.
  have htext {room left : ℕ} {p : Spot} {t : Text} {ends : Spot → Prop} (x : Text)
      (hx : Quiet True x ∧ x ≠ [] ∧ NoHead Conditional.names x) (h : Script R 3 room left p.solid t ends) :
      Script R 3 room left p (x ++ t) ends :=
    .text hx.1 hx.2.2 (hstays hx.2.1) h
  have hshown {room left : ℕ} {p : Spot} {t : Text} {ends : Spot → Prop} (htop : p.depth = ⊤)
      (h : Script R 3 room left p.solid t ends) :
      Script R 3 room left p ((Doc.printCall "v".toList).source ++ t) ends := by
    obtain ⟨hm, -, hnone⟩ := hprint _ (List.mem_cons_self)
    exact .piece (.print hm (.inr ⟨trivial, rfl⟩) (.inl htop)) hnone h
  have hprinted {room left : ℕ} {p : Spot} {t : Text} {ends : Spot → Prop} (x : Text)
      (hx : x ∈ ["v".toList, "y".toList]) (h : Script R 3 room left p.thin t ends) :
      Script R 3 room left p ((Doc.printCall x).source ++ t) ends := by
    obtain ⟨hm, htamely, hnone⟩ := hprint x hx
    exact .piece (.print hm (.inl rfl) (.inr ⟨htamely, rfl⟩)) hnone h
  have hguard {p : Spot} : Script R 3 0 3 p.within "(print: $v)".toList (fun q => q.depth = 0) :=
    hprinted (t := []) "v".toList (by decide) (.done rfl)
  have hinner {p : Spot} : Script R 3 1 3 p.within inner fun q => q.depth = 0 := by
    have heq : inner = "say ".toList ++ (['['] ++ ((Doc.printCall "v".toList).source ++ ([']'] ++
        (" ".toList ++ ((⟨"set".toList, " $y to \"Eve\"".toList⟩ : Invocation).source ++
        ("to ".toList ++ ((Doc.printCall "y".toList).source ++ ((Conditional.guard
          ⟨⟨"visited".toList, " home".toList⟩, ⟨[], "(print: $v)".toList⟩,
            .passage "home".toList⟩).source ++ [])))))))) := by
      decide +kernel
    have hown : R.IsOwn ⟨"set".toList, " $y to \"Eve\"".toList⟩ := by
      refine ⟨by decide +kernel, ?_, ?_, Assignment.keepsTame_of_quiet ?_⟩
      · show "v".toList ∉ Assignment.textNames " $y to \"Eve\"".toList
        decide +kernel
      · show "v".toList ∉ Assignment.textTargets " $y to \"Eve\"".toList
        decide +kernel
      · show ∀ a ∈ Assignment.ofText " $y to \"Eve\"".toList,
          a.target ∈ ["v".toList, "y".toList] → a.value.IsQuiet True
        decide +kernel
    rw [heq]
    refine htext _ (by decide +kernel) (Script.opens (Spot.allows_of_none rfl) (hprinted _ (by decide) ?_))
    refine Script.closes 0 rfl (Spot.allows_of_ne rfl (by decide)) (htext _ (by decide +kernel) ?_)
    refine .piece (.own rfl hown rfl) (by decide +kernel) ?_
    refine htext _ (by decide +kernel) (hprinted _ (by decide) ?_)
    refine .item (fun q => q.depth = 0) (by simp) (by decide +kernel) (by simp [Conditional.conditions]) ?_
      (fun _ => id) (.done rfl) fun q hq => .done (by simp [hq])
    intro b hb
    obtain rfl := List.mem_singleton.mp hb
    exact hguard
  have hbody : Script R 3 2 3 Spot.start (afterSets p.body) fun _ => True := by
    have heq : afterSets body = "Hello ".toList ++ ((Doc.printCall "v".toList).source ++ ("! ".toList ++
        (['{'] ++ (['['] ++ (['['] ++ ("Go->Cave".toList ++ ([']'] ++ ([']'] ++ (" and  ".toList ++ (['['] ++
        ("note".toList ++ ([']'] ++ (['}'] ++ (" ".toList ++ ((Conditional.chain
          ⟨⟨[], some ⟨"IF".toList, " $x".toList⟩, ⟨"\n".toList, inner⟩⟩,
            [⟨[], some ⟨"else".toList, []⟩, ⟨[], "no".toList⟩⟩]⟩).source ++ []))))))))))))))) := by
      decide +kernel
    rw [show p.body = body from rfl, heq]
    refine htext _ (by decide +kernel) (hshown rfl (htext _ (by decide +kernel) ?_))
    refine .brace trivial (.inl rfl) (hstays (List.cons_ne_nil _ _)) (Script.opens (Spot.allows_of_none rfl) ?_)
    refine Script.opens (Spot.allows_of_tight rfl) (htext _ (by decide +kernel) ?_)
    refine Script.closes ⊤ rfl (Spot.allows_of_none rfl) (Script.closes ⊤ rfl (Spot.allows_of_tight rfl) ?_)
    refine htext _ (by decide +kernel) (Script.opens (Spot.allows_of_none rfl) (htext _ (by decide +kernel) ?_))
    refine Script.closes ⊤ rfl (Spot.allows_of_none rfl) ?_
    refine .brace trivial (.inr rfl) (hstays (List.cons_ne_nil _ _)) (htext _ (by decide +kernel) ?_)
    refine .item (fun q => q.depth = 0) (by simp) (by decide +kernel) ?_ ?_ (fun _ => id) (.done trivial)
      fun _ _ => .done trivial
    · refine List.forall_mem_singleton.mpr ?_
      show "v".toList ∉ Condition.textNames " $x".toList
      decide +kernel
    · intro b hb
      rcases List.mem_cons.mp hb with rfl | hb
      · exact hinner
      · obtain rfl := List.mem_singleton.mp hb
        exact htext (t := []) "no".toList (by decide +kernel) (.done rfl)
  have hsets : ∀ m ∈ outerSets p.body 0, R.sets m.item.args := by
    have hargs : (outerSets body 0).map (·.item.args) = [" $x to true".toList] := by decide +kernel
    intro m hm
    have hmem : m.item.args ∈ (outerSets body 0).map (·.item.args) := List.mem_map_of_mem hm
    rw [hargs, List.mem_singleton] at hmem
    have hkeeps : ∀ x ∈ Assignment.textTargets " $x to true".toList, ¬ (x ∈ ["v".toList, "y".toList]) := by
      decide +kernel
    rw [hmem]
    refine ⟨?_, fun hx => hkeeps _ hx (by decide), Assignment.keepsTame_of_not_mem hkeeps⟩
    show "v".toList ∉ Assignment.textNames " $x to true".toList
    decide +kernel
  refine ⟨?_, by decide +kernel⟩
  exact (changes_eq_of_script hv hsets hbody (hget _) (hget _) hother (htame _ (by decide +kernel))
    (htame _ (by decide +kernel)) 0).1

/-- A text that is printed in a hook may act: as an assignment in the hook around it, as a draw behind all hooks,
and as what keeps an `(else:)` from a hook. A bare word reads the variable, too. -/
theorem Compiler.printed_values_act :
    let effects : String → String → List Text × Nat := fun body value =>
      let s : Snapshot := Table.empty.insert "v".toList (.text value.toList)
      let w : Setting := ⟨[], Table.empty, fun _ => 0, {}⟩
      let result := (⟨[], w.limits⟩ : Compiler).compile w ⟨"start".toList, [], body.toList⟩ s 0
      (result.1.changes.keys, result.2)
    effects "(if: true)[(if: true)[(print: $v)]]" "(set: $x to true)" = (["x".toList], 0) ∧
      effects "(if: true)[(if: true)[(print: $v)]]" "a" = ([], 0) ∧
      effects "(if: true)[(print: $v)]" "(either: true, false)" = ([], 1) ∧
      effects "(if: true)[(print: $v)]" "a" = ([], 0) ∧
      effects "(if: true)[(else:)(print: $v)](else:)[][(either: true, false)]" " " = ([], 0) ∧
      effects "(if: true)[(else:)(print: $v)](else:)[][(either: true, false)]" "a" = ([], 1) ∧
      effects "(if: v)[(set: $x to true)](print: $v)" "a" = (["x".toList], 0) ∧
      effects "(if: v)[(set: $x to true)](print: $v)" "" = ([], 0) := by
  decide +kernel

end Hyperfiction

import Hyperfiction.Proofs.Eval.Related
import Hyperfiction.Proofs.InPlace.Sweeps
import Hyperfiction.Proofs.Markup.Links
import Hyperfiction.Proofs.Render.Drafted

/-!
# Prints resolved once

Printing macros are replaced in one buffer that grows and shrinks, and what is written may hold macros and
parentheses itself. In spite of that the text is resolved from left to right and once
(`InPlace.printedOnce`): the first macro becomes what it prints, the text behind it is resolved as a text of
its own, and every search looks at a part of the text as it was. The first head decides: where it is not
completed, nothing is replaced. Random words are drawn in the order of the macros, and no variable is bound.
-/

namespace Hyperfiction

/-! ### The first head -/

namespace Invocation

theorem noHead_iff {names : List Text} {t : Text} :
    NoHead names t ↔ ∀ u, u <:+ t → ¬ Begins names u := by
  induction t with
  | nil =>
    refine iff_of_true (noHead_nil names) fun u hu hbegins => ?_
    rw [List.suffix_nil.mp hu] at hbegins
    exact absurd hbegins.head?_eq nofun
  | cons c t ih =>
    rw [noHead_cons_iff, ih, ← Bool.not_eq_true]
    refine ⟨fun ⟨hfront, hrest⟩ u hu => ?_, fun h => ⟨h _ List.suffix_rfl, fun u hu => ?_⟩⟩
    · rcases List.suffix_cons_iff.mp hu with rfl | hu
      · exact hfront
      · exact hrest u hu
    · exact h u (hu.trans (List.suffix_cons c t))

end Invocation

namespace Position

variable {names : List Text} {t b u : Text} {n : Nat}

/-- A head of one of the macros begins at the position. -/
def Begins (names : List Text) (t : Text) (n : Nat) : Prop :=
  ∃ name stop, head? t n = some (name, stop) ∧ Invocation.isNamed names name

/-- The first head of the macros is the one at the position. -/
structure IsFirstHead (names : List Text) (t : Text) (n : Nat) : Prop where
  begins : Begins names t n
  first : ∀ i < n, ¬ Begins names t i

theorem begins_iff :
    Begins names t n ↔ ∃ s u, t = s ++ u ∧ n = Text.width s ∧ Invocation.Begins names u := by
  constructor
  · rintro ⟨name, stop, hhead, hname⟩
    obtain ⟨u, hu, hp⟩ := Option.bind_eq_some_iff.mp hhead
    obtain ⟨⟨name', v⟩, hv, hp⟩ := Option.bind_eq_some_iff.mp hp
    obtain ⟨rfl, -⟩ := Prod.mk.inj (Option.some.inj hp)
    obtain ⟨s, rfl, rfl⟩ := Text.dropTo?_eq_some_iff.mp hu
    exact ⟨s, u, rfl, rfl, Invocation.begins_iff.mpr ⟨name', v, hv, hname⟩⟩
  · rintro ⟨s, u, rfl, rfl, hbegins⟩
    obtain ⟨name, v, hv, hname⟩ := Invocation.begins_iff.mp hbegins
    refine ⟨name, Text.width s + Text.width name + 2, ?_, hname⟩
    rw [head?_append, hv]
    rfl

theorem isFirstHead_of_findHead? (h : Invocation.findHead? names t = some (b, u)) :
    IsFirstHead names t (Text.width b) := by
  obtain ⟨hnone, hbegins, rfl⟩ := Invocation.findHead?_eq_some_iff.mp h
  refine ⟨begins_iff.mpr ⟨b, u, rfl, rfl, hbegins⟩, fun i hi hearlier => ?_⟩
  obtain ⟨s, v, hsplit, rfl, hv⟩ := begins_iff.mp hearlier
  obtain ⟨m, rfl, rfl⟩ := Text.exists_append_of_width_le hsplit.symm (Nat.le_of_lt hi)
  have hm : m ≠ [] := by
    rintro rfl
    rw [List.append_nil] at hi
    exact absurd hi (Nat.lt_irrefl _)
  -- The earlier head would stand before the bracket of the later one, and in front of that is none.
  obtain ⟨rest, hu⟩ := List.head?_eq_some_iff.mp (Invocation.Begins.head?_eq hbegins)
  have hapart : Invocation.Apart m u := hu ▸ Invocation.apart_paren m rest
  exact Invocation.noHead_iff.mp hnone m (List.suffix_append s m) (hv.of_append hapart hm)

theorem exists_findHead?_of_isFirstHead (h : IsFirstHead names t n) :
    ∃ b u, Invocation.findHead? names t = some (b, u) ∧ n = Text.width b := by
  cases hfind : Invocation.findHead? names t with
  | none =>
    obtain ⟨s, u, rfl, -, hu⟩ := begins_iff.mp h.begins
    exact absurd hu (Invocation.noHead_iff.mp hfind u (List.suffix_append s u))
  | some p =>
    obtain ⟨b, u⟩ := p
    have hfirst := isFirstHead_of_findHead? hfind
    refine ⟨b, u, rfl, ?_⟩
    by_contra hne
    rcases Nat.lt_or_gt_of_ne hne with hlt | hlt
    · exact hfirst.first n hlt h.begins
    · exact h.first _ hlt hfirst.begins

end Position

/-! ### The macro of the first head -/

namespace Invocation

variable {names : List Text} {t b u : Text} {n : Nat} {m : Invocation}

/-- Behind a macro there is a bracket less. -/
theorem count_lt_of_find? (h : find? names t = some (b, m, u)) : u.count '(' < t.count '(' := by
  rw [eq_append_of_find? h, source, List.count_append, List.count_append, List.cons_append,
    List.count_append, List.count_cons_self]
  omega

/-- The macro of the first head is the first macro. -/
theorem find?_of_isFirstHead {m : Located Invocation} (hfirst : Position.IsFirstHead names t m.span.start)
    (hcall : Position.macro? t m.span.start = some m) :
    ∃ b u, find? names t = some (b, m.item, u) ∧
      m.span = ⟨Text.width b, Text.width (b ++ m.item.source)⟩ := by
  obtain ⟨b, v, hhead, hstart⟩ := Position.exists_findHead?_of_isFirstHead hfirst
  rw [hstart, eq_append_of_findHead? hhead, Position.macro?_append] at hcall
  obtain ⟨⟨call, u⟩, hread, rfl⟩ := Option.map_eq_some_iff.mp hcall
  refine ⟨b, u, ?_, by rw [Text.width_append]⟩
  simp only [find?, hhead, hread, Option.map_some]

/-- A first head that is not closed ends the search. -/
theorem find?_of_unclosed (hfirst : Position.IsFirstHead names t n)
    (hcall : Position.macro? t n = none) : find? names t = none := by
  obtain ⟨b, v, hhead, rfl⟩ := Position.exists_findHead?_of_isFirstHead hfirst
  rw [eq_append_of_findHead? hhead, Position.macro?_append, Option.map_eq_none_iff] at hcall
  rw [find?, hhead, Option.map_eq_none_iff]
  exact hcall

end Invocation

namespace InPlace

open Invocation

variable {w : Setting} {t : Text}

/-! ### What is searched -/

/-- The first printing macro of a text from where as much of it is left as of a buffer from a position on,
with the span that it has in the buffer. Nothing of the buffer is looked at. -/
def findPrintIn (t buffer : Text) (start : Nat) : Guarded (Option (Located Invocation)) := do
  let left ← Guarded.minus (Text.width buffer) start
  let place ← Guarded.minus (Text.width t) left
  let found ← findMacro? t place printNames
  return found.map fun m =>
    ⟨m.item, ⟨start + (m.span.start - place), start + (m.span.stop - place)⟩⟩

/-- As long as what is left of the buffer is left of the text, it holds the same macros. -/
theorem findPrintIn_append (done : Text) {u : Text} (hu : u <:+ t) :
    findPrintIn t (done ++ u) (Text.width done) = findMacro? (done ++ u) (Text.width done) printNames := by
  obtain ⟨s, rfl⟩ := hu
  rw [findPrintIn, Text.width_append, Text.width_append, Guarded.minus_eq_ok (by omega), Guarded.ok_bind,
    Guarded.minus_eq_ok (by omega), Guarded.ok_bind, Nat.add_sub_cancel_left, Nat.add_sub_cancel,
    findMacro?_append, findMacro?_append, Guarded.ok_bind, Option.map_map, Guarded.pure_eq_ok]
  congr 2
  funext p
  simp only [Function.comp_apply, Located.mk.injEq, Span.mk.injEq, true_and]
  omega

/-! ### Once over the text -/

/-- The printing macros of the text are resolved in it once, from left to right. -/
structure PrintedOnce (w : Setting) (t : Text) : Prop where
  /-- Without a head the text is left as it is. -/
  noHead : (∀ n, ¬ Position.Begins printNames t n) → resolvePrints w t = pure t
  /-- So it is where the first head is not completed. -/
  unclosed : ∀ n, Position.IsFirstHead printNames t n → Position.macro? t n = none →
    resolvePrints w t = pure t
  /-- Where the first head is that of a macro, this becomes what it prints, and what stands behind it is
  resolved as a text of its own, with the words that are left. -/
  first : t.count '(' ≤ w.limits.maxReductions → ∀ m : Located Invocation,
    Position.IsFirstHead printNames t m.span.start → Position.macro? t m.span.start = some m →
      resolvePrints w t = (do
        let before ← t.slice 0 m.span.start
        let written ← Act.sure (printMacro w m.item)
        let rest ← resolvePrints w (← t.suffixFrom m.span.stop)
        return before ++ written ++ rest)
  /-- It is as well, under any cap, to search the text as it was in place of the buffer: what is written is
  not searched. -/
  searched : rewrite (findPrintIn t) (replacePrint w) w.limits.maxReductions t 0 = resolvePrints w t
  /-- It is resolved without a fault, and no variable is bound. -/
  store : ∀ run, ∃ written used, (resolvePrints w t).run run = .ok (written, ⟨run.store, used⟩)

/-- **A step of printing**: the first macro is written, and what is behind it follows. -/
private theorem resolvePrints_of_find? {b u : Text} {m : Invocation} (h : find? printNames t = some (b, m, u))
    (hcap : t.count '(' ≤ w.limits.maxReductions) :
    resolvePrints w t = (do
      let written ← Act.sure (printMacro w m)
      let rest ← resolvePrints w u
      return b ++ written ++ rest) := by
  have hlt := count_lt_of_find? h
  obtain ⟨limit, hlimit⟩ : ∃ limit, w.limits.maxReductions = limit + 1 :=
    Nat.exists_eq_add_one.mpr (by omega)
  have hrest : (finder printNames).pass (printMacro w) (limit + 1) u =
      (finder printNames).pass (printMacro w) limit u :=
    (finder printNames).pass_succ (printMacro w) (fun h => count_lt_of_find? h) (by omega)
  simp only [resolvePrints_eq, resolvePrints_eq_pass, hlimit]
  rw [Finder.pass_of_eq_some _ _ h, hrest]
  rfl

/-- **The printing macros of a text are resolved once**, from left to right, and what they print is not
searched again. -/
theorem printedOnce (w : Setting) (t : Text) : PrintedOnce w t where
  noHead h := by
    have hnone : NoHead printNames t := by
      refine noHead_iff.mpr fun u hu hbegins => ?_
      obtain ⟨s, rfl⟩ := hu
      exact h _ (Position.begins_iff.mpr ⟨s, u, rfl, rfl, hbegins⟩)
    rw [resolvePrints_eq, resolvePrints_of_noHead hnone, Act.sure_pure]
  unclosed n hfirst hcall := by
    rw [resolvePrints_eq, resolvePrints_eq_pass,
      Finder.pass_of_eq_none _ _ (find?_of_unclosed hfirst hcall), Act.sure_pure]
  first hcap m hfirst hcall := by
    obtain ⟨b, u, hfind, hspan⟩ := find?_of_isFirstHead hfirst hcall
    have ht := eq_append_of_find? hfind
    have hslice := Text.slice_zero_append b (m.item.source ++ u)
    have hsuffix := Text.suffixFrom_append (b ++ m.item.source) u
    rw [← ht] at hslice
    rw [List.append_assoc, ← ht] at hsuffix
    rw [resolvePrints_of_find? hfind hcap, hspan]
    simp only [hslice, hsuffix, Act.lift_ok_bind]
  searched := rewrite_congr rewrites_prints (fun done u hu => findPrintIn_append done hu)
    w.limits.maxReductions [] List.suffix_rfl
  store run := by
    have hstore := (resolvePrints_made w t).store_eq run
    refine ⟨((Hyperfiction.resolvePrints w t).run run).1,
      ((Hyperfiction.resolvePrints w t).run run).2.used, ?_⟩
    rw [resolvePrints_eq, ← hstore]
    rfl

/-- What a print writes may be a print itself: it stays as it is written. -/
theorem printedOnce_print_printed :
    let w : Setting := ⟨[], Table.empty, fun _ => 0, { maxReductions := 2 }⟩
    let t : Text := "a (print: $x), (print: $y)".toList
    let m : Located Invocation := ⟨⟨"print".toList, " $x".toList⟩, ⟨2, 13⟩⟩
    let run : Run := ⟨(Table.empty.insert "x".toList (.text "(print: $y)".toList)).insert "y".toList
      (.text "b".toList), 0⟩
    t.count '(' ≤ w.limits.maxReductions ∧ Position.IsFirstHead printNames t m.span.start ∧
      Position.macro? t m.span.start = some m ∧
      resolvePrints w t = (do
        let before ← t.slice 0 m.span.start
        let written ← Act.sure (printMacro w m.item)
        let rest ← resolvePrints w (← t.suffixFrom m.span.stop)
        return before ++ written ++ rest) ∧
      ∃ used, (resolvePrints w t).run run = .ok ("a (print: $y), b".toList, ⟨run.store, used⟩) := by
  intro w t m run
  have hcap : t.count '(' ≤ w.limits.maxReductions := by decide
  have hfirst : Position.IsFirstHead printNames t m.span.start :=
    Position.isFirstHead_of_findHead? (b := "a ".toList) (u := "(print: $x), (print: $y)".toList) rfl
  have hcall : Position.macro? t m.span.start = some m := rfl
  refine ⟨hcap, hfirst, hcall, (printedOnce w t).first hcap m hfirst hcall, ?_⟩
  obtain ⟨written, used, hrun⟩ := (printedOnce w t).store run
  have hwritten : ((Hyperfiction.resolvePrints w t).run run).1 = "a (print: $y), b".toList := by
    decide +kernel
  have hsame : ((Hyperfiction.resolvePrints w t).run run).1 = written := by
    rw [resolvePrints_eq] at hrun
    exact congrArg Prod.fst (Except.ok.inj hrun)
  rw [← hwritten, hsame]
  exact ⟨used, hrun⟩

end InPlace

end Hyperfiction

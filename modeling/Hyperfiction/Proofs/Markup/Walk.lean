import Hyperfiction.Proofs.Markup.Runs

/-!
# Walks over a text

A pass finds an item, goes on behind it, and stops where it finds none. What it does with the items is one
thing, which items they are is another: a **walk** (`Cuts.Walk`) says the latter by what stands in the text,
for any notion of a first item. A finder that finds first items cuts every text along its one walk
(`Finder.cuts_eq_iff`). For links, the first one is told by the first brackets that open it and the first
behind these that close it (`Link.IsFirst`). So the links that are stripped are those that offer the
choices, and what is left holds none (`Link.strip_walk`).
-/

namespace Hyperfiction

/-! ### Walks -/

variable {α : Type}

/-- A **walk** over a text: each item is the first one of what is left of the text, and there is none in what
is left at the end. `first b a u` says that an item `a` is first between the texts `b` and `u`. -/
inductive Cuts.Walk (source : α → Text) (first : Text → α → Text → Prop) : Text → Cuts α → Prop where
  | stops {t : Text} : (∀ b a u, first b a u → t ≠ b ++ (source a ++ u)) → Walk source first t ⟨[], t⟩
  | goesOn {b : Text} {a : α} {u : Text} {cs : Cuts α} : first b a u → Walk source first u cs →
      Walk source first (b ++ (source a ++ u)) ⟨⟨b, a⟩ :: cs.items, cs.tail⟩

/-- A walk passes over the whole text. -/
theorem Cuts.Walk.render_eq {source : α → Text} {first : Text → α → Text → Prop} {t : Text} {cs : Cuts α}
    (h : Cuts.Walk source first t cs) : Cuts.render source cs.items cs.tail = t := by
  induction h with
  | stops _ => rfl
  | goesOn _ _ ih => rw [Cuts.render, ih, List.append_assoc]

namespace Finder

variable (F : Finder α) {first : Text → α → Text → Prop}
  (hfirst : ∀ {t b a u}, F.find? t = some (b, a, u) ↔ first b a u ∧ t = b ++ (F.source a ++ u))

include hfirst

private theorem walk_cuts (t : Text) : Cuts.Walk F.source first t (F.cuts t) := by
  induction hn : t.length using Nat.strongRecOn generalizing t with
  | ind n ih =>
    subst hn
    cases h : F.find? t with
    | none =>
      rw [F.cuts_of_find?_eq_none h]
      refine .stops fun b a u hitem ht => ?_
      rw [hfirst.mpr ⟨hitem, ht⟩] at h
      cases h
    | some p =>
      obtain ⟨b, a, u⟩ := p
      obtain ⟨hitem, ht⟩ := hfirst.mp h
      rw [F.cuts_of_find?_eq_some h]
      conv => arg 3; rw [ht]
      exact .goesOn hitem (ih u.length (F.length_lt h) u rfl)

private theorem cuts_eq_of_walk {t : Text} {cs : Cuts α} (h : Cuts.Walk F.source first t cs) :
    F.cuts t = cs := by
  induction h with
  | @stops t hnone =>
    refine F.cuts_of_find?_eq_none ?_
    cases h : F.find? t with
    | none => rfl
    | some p =>
      obtain ⟨hitem, ht⟩ := hfirst.mp h
      exact absurd ht (hnone _ _ _ hitem)
  | goesOn hitem _ ih => rw [F.cuts_of_find?_eq_some (hfirst.mpr ⟨hitem, rfl⟩), ih]

/-- **A finder of first items** cuts a text along its walk, which is the only one. -/
theorem cuts_eq_iff {t : Text} {cs : Cuts α} : F.cuts t = cs ↔ Cuts.Walk F.source first t cs := by
  refine ⟨?_, F.cuts_eq_of_walk hfirst⟩
  rintro rfl
  exact F.walk_cuts hfirst t

theorem existsUnique_walk (t : Text) : ∃! cs, Cuts.Walk F.source first t cs :=
  ⟨F.cuts t, F.walk_cuts hfirst t, fun _ h => (F.cuts_eq_of_walk hfirst h).symm⟩

end Finder

/-! ### Links -/

namespace Link

/-- A link is the **first** one behind a text when no link opens before it, it has three brackets if three
stand there, and it ends with the first brackets that close it. -/
structure IsFirst (before : Text) (l : Link) : Prop where
  before : ¬ opening false <:+: before ++ ['[']
  opens : l.triple = false → l.inner.head? ≠ some '['
  closes : ¬ closing l.triple <:+: l.inner ++ (closing l.triple).dropLast

private theorem closing_ne_nil (triple : Bool) : closing triple ≠ [] := by cases triple <;> decide

private theorem isFirst_of_find? {t b u : Text} {l : Link} (h : find? t = some (b, l, u)) : l.IsFirst b := by
  rw [find?] at h
  split at h
  · cases h
  · rename_i before v hopening
    have hbefore := ((Text.breakOn?_eq_some_iff_not_infix (by decide)).mp hopening).2
    split at h
    · obtain ⟨p, hinner, hp⟩ := Option.map_eq_some_iff.mp h
      simp only [Prod.mk.injEq] at hp
      obtain ⟨rfl, rfl, rfl⟩ := hp
      exact ⟨hbefore, fun h => absurd h.symm Bool.false_ne_true,
        ((Text.breakOn?_eq_some_iff_not_infix (closing_ne_nil true)).mp hinner).2⟩
    · rename_i hthird
      obtain ⟨p, hinner, hp⟩ := Option.map_eq_some_iff.mp h
      simp only [Prod.mk.injEq] at hp
      obtain ⟨rfl, rfl, rfl⟩ := hp
      obtain ⟨hv, hcloses⟩ := (Text.breakOn?_eq_some_iff_not_infix (closing_ne_nil false)).mp hinner
      refine ⟨hbefore, fun _ hhead => ?_, hcloses⟩
      -- A third bracket that opens would have been taken.
      obtain ⟨inner, hinner⟩ : ∃ inner, p.1 = '[' :: inner := List.head?_eq_some_iff.mp hhead
      rw [hv, hinner] at hthird
      simp [Text.after?] at hthird

private theorem find?_of_isFirst {b : Text} {l : Link} (h : l.IsFirst b) (u : Text) :
    find? (b ++ (l.source ++ u)) = some (b, l, u) := by
  obtain ⟨triple, inner⟩ := l
  have hopening (v : Text) : Text.breakOn? (opening false) (b ++ (opening false ++ v)) = some (b, v) :=
    (Text.breakOn?_eq_some_iff_not_infix (by decide)).mpr ⟨rfl, h.before⟩
  have hinner : Text.breakOn? (closing triple) (inner ++ (closing triple ++ u)) = some (inner, u) :=
    (Text.breakOn?_eq_some_iff_not_infix (closing_ne_nil triple)).mpr ⟨rfl, h.closes⟩
  have hsource : source ⟨triple, inner⟩ ++ u = opening triple ++ (inner ++ (closing triple ++ u)) := by
    simp only [source, List.append_assoc]
  rw [hsource, find?]
  cases triple with
  | false =>
    have hthird : Text.after? (inner ++ (closing false ++ u)) ['['] = none := by
      rw [Text.after?_eq_none_iff]
      rintro ⟨v, hv⟩
      cases inner with
      | nil => cases hv
      | cons c inner => exact h.opens rfl (by rw [← (List.cons.inj hv).1]; rfl)
    simp only [hopening, hthird, hinner, Option.map_some]
  | true =>
    have hthree : opening true ++ (inner ++ (closing true ++ u)) =
        opening false ++ ('[' :: (inner ++ (closing true ++ u))) := rfl
    have hthird : Text.after? ('[' :: (inner ++ (closing true ++ u))) ['['] =
        some (inner ++ (closing true ++ u)) := Text.after?_eq_some.mpr rfl
    simp only [hthree, hopening, hthird, hinner, Option.map_some]

/-- **A link is found exactly where it is the first.** -/
theorem find?_eq_some_iff {t b u : Text} {l : Link} :
    find? t = some (b, l, u) ↔ l.IsFirst b ∧ t = b ++ (l.source ++ u) := by
  refine ⟨fun h => ⟨isFirst_of_find? h, eq_append_of_find? h⟩, ?_⟩
  rintro ⟨hfirst, rfl⟩
  exact find?_of_isFirst hfirst u

/-- The links that are not blank offer a choice each. -/
theorem filterMap_choice? (ls : List Link) :
    ls.filterMap choice? =
      (ls.filter fun l => !Text.isBlankText l.inner).map fun l => Choice.ofLink l.inner := by
  induction ls with
  | nil => rfl
  | cons l ls ih =>
    rw [List.filterMap_cons, choice?, List.filter_cons, ih]
    cases Text.isBlankText l.inner <;> rfl

/-- The walk over the links of a text. -/
def Walk : Text → Cuts Link → Prop := Cuts.Walk source fun b l _ => l.IsFirst b

/-- **Links are stripped along the walk that gives the choices.** Every text has one walk over its links: what
stands between them is left when they are stripped, and each one that is not blank offers a choice. What is
left offers none and holds no link to strip. -/
theorem strip_walk (t : Text) :
    (∃! cs, Walk t cs) ∧
      (∀ cs, Walk t cs →
        Cuts.render source cs.items cs.tail = t ∧
          strip t = Cuts.render (fun _ => []) cs.items cs.tail ∧
          choices t = (cs.found.filter fun l => !Text.isBlankText l.inner).map fun l =>
            Choice.ofLink l.inner) ∧
      choices (strip t) = [] ∧ strip (strip t) = strip t := by
  have hnone := find?_strip t
  refine ⟨finder.existsUnique_walk find?_eq_some_iff t, fun cs hwalk => ?_, ?_, ?_⟩
  · obtain rfl := (finder.cuts_eq_iff find?_eq_some_iff).mpr hwalk
    exact ⟨hwalk.render_eq, rfl, filterMap_choice? _⟩
  · rw [choices, finder.found_cuts_of_eq_none hnone]
    rfl
  · exact finder.without_cuts_of_eq_none hnone

end Link

end Hyperfiction

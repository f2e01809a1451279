import Hyperfiction.Markup.Link
import Hyperfiction.Proofs.InPlace.Loops
import Hyperfiction.Proofs.InPlace.Scanner
import Hyperfiction.Proofs.Markup.Links

/-!
# Links read in a buffer

A link is cut out of the buffer between the brackets that a search for texts has found, and its inside is
cut again at the arrow or the bar. Every position is that of an occurrence, or lies behind one by its width,
so all cuts are granted: the choices read in the buffer are those of the text (`InPlace.choices_eq`), and so
is what is left without the links (`InPlace.strip_eq`).
-/

namespace Hyperfiction

namespace InPlace

/-! ### The steps -/

/-- The position of the first occurrence of a text. -/
def firstOf (needle t : Text) : Option Nat := (Text.breakOn? needle t).map fun p => Text.width p.1

/-- The position of the last occurrence of a text. -/
def lastOf (needle t : Text) : Option Nat := (Text.breakOnLast? needle t).map fun p => Text.width p.1

/-- What stands before a position, and what stands from `skipped` bytes behind it. -/
def around (t : Text) (position skipped : Nat) : Guarded (Text × Text) := do
  let before ← t.slice 0 position
  let behind ← t.suffixFrom (position + skipped)
  return (before, behind)

/-- The choice that the inside of a link describes. -/
def choiceOf (inner : Text) : Guarded Choice := do
  match lastOf ['-', '>'] inner with
  | some position =>
    let (text, target) ← around inner position 2
    return ⟨Text.trim text, Text.trim target⟩
  | none =>
    match firstOf ['<', '-'] inner with
    | some position =>
      let (target, text) ← around inner position 2
      return ⟨Text.trim text, Text.trim target⟩
    | none =>
      match firstOf ['|'] inner with
      | some position =>
        let (text, target) ← around inner position 1
        return ⟨Text.trim text, Text.trim target⟩
      | none => return ⟨Text.trim inner, Text.trim inner⟩

/-- The choice that a link offers; one of blanks offers none. -/
def choice? (inner : Text) : Guarded (Option Choice) :=
  if Text.isBlankText inner then pure none else some <$> choiceOf inner

/-- The link that begins at two brackets: the choice that it offers, and where it is. -/
def linkAt? (t : Text) (start : Nat) : Guarded (Option (Located (Option Choice))) := do
  let rest ← t.suffixFrom start
  let triple := Text.startsWith rest (Link.opening true)
  let first := start + Text.width (Link.opening triple)
  let behind ← t.suffixFrom first
  match firstOf (Link.closing triple) behind with
  | none => return none
  | some width =>
    let choice ← choice? (← t.slice first (first + width))
    return some ⟨choice, ⟨start, first + width + Text.width (Link.closing triple)⟩⟩

/-- The next link from a position on. -/
def nextLink? (t : Text) (start : Nat) : Guarded (Option (Located (Option Choice))) :=
  match (t.dropTo? start).bind (firstOf (Link.opening false)) with
  | none => pure none
  | some n => linkAt? t (start + n)

/-- The choices that the links offer from a position on. -/
def choicesFrom (t : Text) (start : Nat) : Guarded (List Choice) := do
  match ← nextLink? t start with
  | none => return []
  | some found =>
    if _h : start < found.span.stop ∧ found.span.stop ≤ Text.width t then do
      let more ← choicesFrom t found.span.stop
      return found.item.toList ++ more
    else .error .stuck
termination_by Text.width t - start

/-- The choices that the links of a text offer. -/
def choices (t : Text) : Guarded (List Choice) := choicesFrom t 0

/-- The text without its links. -/
def strip (t : Text) : GuardedAct Text := copying t (nextLink? t) (fun _ => pure (some [])) 0 0

/-! ### The same links -/

theorem around_append (before needle behind : Text) :
    around (before ++ (needle ++ behind)) (Text.width before) (Text.width needle) =
      .ok (before, behind) := by
  have hbefore := Text.slice_zero_append before (needle ++ behind)
  have hbehind := Text.suffixFrom_append (before ++ needle) behind
  rw [List.append_assoc, Text.width_append] at hbehind
  rw [around, hbefore, hbehind]
  rfl

/-- Around an occurrence of a text stands what stands before and behind it. -/
private theorem around_breakOn? {needle t : Text} {p : Text × Text}
    (h : Text.breakOn? needle t = some p) : around t (Text.width p.1) (Text.width needle) = .ok p := by
  have hcut := around_append p.1 needle p.2
  rwa [← Text.eq_append_of_breakOn? h] at hcut

theorem choiceOf_eq (inner : Text) : choiceOf inner = .ok (Choice.ofLink inner) := by
  rw [choiceOf, Choice.ofLink, lastOf, firstOf, firstOf]
  cases hright : Text.breakOnLast? ['-', '>'] inner with
  | some p =>
    have hcut : around inner (Text.width p.1) 2 = .ok p := by
      have hcut := around_append p.1 ['-', '>'] p.2
      rwa [← Text.eq_append_of_breakOnLast? hright] at hcut
    simp only [Option.map_some, hcut]
    rfl
  | none =>
    cases hleft : Text.breakOn? ['<', '-'] inner with
    | some p =>
      have hcut : around inner (Text.width p.1) 2 = .ok p := around_breakOn? hleft
      simp only [Option.map_some, Option.map_none, hcut]
      rfl
    | none =>
      cases hbar : Text.breakOn? ['|'] inner with
      | some p =>
        have hcut : around inner (Text.width p.1) 1 = .ok p := around_breakOn? hbar
        simp only [Option.map_some, Option.map_none, hcut]
        rfl
      | none => rfl

theorem choice?_eq (l : Link) : choice? l.inner = .ok l.choice? := by
  rw [choice?, Link.choice?, choiceOf_eq]
  split <;> rfl

/-- Three brackets begin where one stands behind two. -/
private theorem startsWith_opening (u : Text) :
    Text.startsWith (Link.opening false ++ u) (Link.opening true) = (Text.after? u ['[']).isSome := rfl

/-- The link at a position is read up to its closing sign. -/
private theorem linkAt?_append (s : Text) (triple : Bool) {u : Text}
    (hu : Text.startsWith (Link.opening triple ++ u) (Link.opening true) = triple) :
    linkAt? (s ++ (Link.opening triple ++ u)) (Text.width s) =
      .ok ((Text.breakOn? (Link.closing triple) u).map fun p =>
        ⟨Link.choice? ⟨triple, p.1⟩,
          ⟨Text.width s, Text.width (s ++ Link.source ⟨triple, p.1⟩)⟩⟩) := by
  have hbehind := Text.suffixFrom_append (s ++ Link.opening triple) u
  rw [List.append_assoc, Text.width_append] at hbehind
  rw [linkAt?, Text.suffixFrom_append, Guarded.ok_bind]
  simp only [hu, hbehind, Guarded.ok_bind, firstOf]
  cases hclosing : Text.breakOn? (Link.closing triple) u with
  | none => rfl
  | some p =>
    have hinner := Text.slice_append (s ++ Link.opening triple) p.1 (Link.closing triple ++ p.2)
    rw [← Text.eq_append_of_breakOn? hclosing, List.append_assoc, Text.width_append] at hinner
    simp only [Option.map_some, hinner, Guarded.ok_bind, choice?_eq ⟨triple, p.1⟩, Link.source,
      Text.width_append, ← Nat.add_assoc]
    rfl

/-- **The next link in the buffer** is the first one of the text that is left. -/
theorem nextLink?_append (s u : Text) :
    nextLink? (s ++ u) (Text.width s) =
      .ok ((Link.find? u).map fun p =>
        ⟨p.2.1.choice?, ⟨Text.width (s ++ p.1), Text.width (s ++ p.1 ++ p.2.1.source)⟩⟩) := by
  rw [nextLink?, Text.dropTo?_append, Option.bind_some, firstOf, Link.find?]
  cases hopening : Text.breakOn? (Link.opening false) u with
  | none => rfl
  | some p =>
    obtain ⟨before, v⟩ := p
    have hu := Text.eq_append_of_breakOn? hopening
    simp only [Option.map_some]
    cases hthird : Text.after? v ['['] with
    | some r =>
      have htext : s ++ before ++ (Link.opening true ++ r) = s ++ u := by
        rw [hu, Text.after?_eq_some.mp hthird, List.append_assoc]
        rfl
      have hthree := Text.startsWith_iff.mpr (List.prefix_append (Link.opening true) r)
      have hlink := linkAt?_append (s ++ before) true hthree
      rw [htext, Text.width_append] at hlink
      rw [hlink]
      simp only [Option.map_map, Function.comp_def, Text.width_append]
    | none =>
      have hlink := linkAt?_append (s ++ before) false (u := v) (by
        rw [startsWith_opening, hthird]
        rfl)
      rw [List.append_assoc, ← hu, Text.width_append] at hlink
      rw [hlink]
      simp only [Option.map_map, Function.comp_def, Text.width_append]

/-- **The choices behind a position** are those of the rest of the text. -/
private theorem choicesFrom_append (s u : Text) :
    choicesFrom (s ++ u) (Text.width s) = .ok (Link.choices u) := by
  induction hn : u.length using Nat.strongRecOn generalizing s u with
  | ind n ih =>
    subst hn
    rw [choicesFrom, nextLink?_append, Guarded.ok_bind, Link.choices]
    cases hfind : Link.find? u with
    | none =>
      rw [Link.finder.cuts_of_find?_eq_none hfind]
      rfl
    | some p =>
      obtain ⟨before, l, behind⟩ := p
      have hu := Link.eq_append_of_find? hfind
      have hmore := ih behind.length (Link.finder.length_lt hfind) (s ++ before ++ l.source) behind rfl
      have hpos : 0 < Text.width l.source := by
        rw [Nat.pos_iff_ne_zero]
        exact fun h => l.source_ne_nil (Text.width_eq_zero_iff.mp h)
      rw [List.append_assoc, List.append_assoc, ← hu] at hmore
      have hcheck : Text.width s < Text.width (s ++ before ++ l.source) ∧
          Text.width (s ++ before ++ l.source) ≤ Text.width (s ++ u) := by
        rw [hu]
        simp only [Text.width_append]
        omega
      simp only [Option.map_some]
      rw [dif_pos hcheck, hmore, Guarded.ok_bind, Link.finder.cuts_of_find?_eq_some hfind,
        Link.choices, Cuts.found, Cuts.found, List.map_cons, List.filterMap_cons]
      cases l.choice? <;> rfl

/-- **The choices read in the buffer** are those of the text. -/
theorem choices_eq (t : Text) : choices t = .ok (Link.choices t) := choicesFrom_append [] t

/-- **A buffer copied without its links** is the text without them. -/
theorem strip_eq (t : Text) : strip t = pure (Link.strip t) := by
  have hcopies : Copies Link.finder (fun _ _ => pure (some [])) t (nextLink? t)
      (fun _ => pure (some [])) := by
    refine ⟨?_, ?_⟩
    · rintro s u rfl h
      rw [nextLink?_append, show Link.find? u = none from h]
      rfl
    · rintro s u before behind l rfl h
      refine ⟨l.choice?, ?_, rfl⟩
      rw [nextLink?_append, show Link.find? u = some (before, l, behind) from h]
      rfl
  exact copying_pure_eq hcopies

end InPlace

end Hyperfiction

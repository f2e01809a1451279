import Hyperfiction.Filter
import Hyperfiction.Proofs.InPlace.Links
import Hyperfiction.Proofs.Markup.Groups
import Hyperfiction.Proofs.Text.Ends
import Hyperfiction.Render.Print

/-!
# Groups, inline names, filters and lines in a buffer

Groups in braces and inline names are found by the byte that they begin with, and what becomes of them is
written between copies of what stands around them. A group is set as a line by the same pass over its inside
(`InPlace.collapseGroups_eq`), a name becomes the value of its variable (`InPlace.substitute_eq`). Of the
filters one cuts texts itself, at the markers that it removes what stands between
(`InPlace.stripBetween_eq`). A text is laid out as lines that all have an end, and cut off behind the last
character that is no blank (`InPlace.normalize_eq`).
-/

namespace Hyperfiction

/-! ### Inline names as items of a text -/

namespace Inline

/-- The name of a variable behind a `$`, with its value, and what follows it. -/
def read? (s : Snapshot) (u : Text) : Option ((Text × Value) × Text) :=
  let name := u.takeWhile isInlineChar
  if name ≠ [] ∧ ¬name.head?.any Char.isDigit then
    (s.lookup? name).map fun v => ((name, v), u.dropWhile isInlineChar)
  else none

/-- What stands before the first name of a variable with a value, the name, and what follows it. -/
def find? (s : Snapshot) : Text → Option (Text × (Text × Value) × Text)
  | [] => none
  | c :: t =>
    match (if c = '$' then read? s t else none) with
    | some found => some ([], found)
    | none => (find? s t).map fun p => (c :: p.1, p.2)

/-- The name of a variable as written. -/
def source (p : Text × Value) : Text := '$' :: p.1

theorem eq_append_of_read? {s : Snapshot} {u v : Text} {p : Text × Value}
    (h : read? s u = some (p, v)) : u = p.1 ++ v := by
  simp only [read?] at h
  split at h
  · obtain ⟨value, -, hp⟩ := Option.map_eq_some_iff.mp h
    obtain ⟨rfl, rfl⟩ := Prod.mk.inj hp
    exact List.takeWhile_append_dropWhile.symm
  · cases h

/-- A text is what stands before a variable, the variable, and the rest. -/
theorem eq_append_of_find? {s : Snapshot} {t b u : Text} {p : Text × Value}
    (h : find? s t = some (b, p, u)) : t = b ++ (source p ++ u) := by
  induction t generalizing b with
  | nil => cases h
  | cons c t ih =>
    rw [find?] at h
    split at h
    · rename_i found hread
      split at hread
      · rename_i hc
        simp only [Option.some.injEq, Prod.mk.injEq] at h
        obtain ⟨rfl, rfl⟩ := h
        rw [hc, eq_append_of_read? hread]
        rfl
      · cases hread
    · obtain ⟨q, hfound, hq⟩ := Option.map_eq_some_iff.mp h
      simp only [Prod.mk.injEq] at hq
      obtain ⟨rfl, hq⟩ := hq
      rw [ih (b := q.1) (by rw [hfound, ← hq])]
      rfl

/-- Finds the names of variables with values. -/
def finder (s : Snapshot) : Finder (Text × Value) where
  source := source
  find? := find? s
  eq_append := eq_append_of_find?
  source_ne_nil := fun _ => List.cons_ne_nil _ _

end Inline

/-- A character with which no item begins is passed over. -/
private theorem render_cuts_cons {α : Type} (F : Finder α) (f : α → Text) {c : Char} {t : Text}
    (h : F.find? (c :: t) = (F.find? t).map fun p => (c :: p.1, p.2)) :
    Cuts.render f (F.cuts (c :: t)).items (F.cuts (c :: t)).tail =
      c :: Cuts.render f (F.cuts t).items (F.cuts t).tail := by
  cases hfind : F.find? t with
  | none =>
    rw [hfind] at h
    rw [F.cuts_of_find?_eq_none h, F.cuts_of_find?_eq_none hfind]
    rfl
  | some p =>
    rw [hfind] at h
    rw [F.cuts_of_find?_eq_some h, F.cuts_of_find?_eq_some hfind]
    rfl

theorem substitute_of_read? {s : Snapshot} {t v : Text} {p : Text × Value}
    (h : Inline.read? s t = some (p, v)) :
    substitute s ('$' :: t) = p.2.toText ++ substitute s v := by
  simp only [Inline.read?] at h
  split at h
  · rename_i hname
    obtain ⟨value, hvalue, hp⟩ := Option.map_eq_some_iff.mp h
    obtain ⟨rfl, rfl⟩ := Prod.mk.inj hp
    rw [substitute, if_pos ⟨rfl, hname⟩, hvalue]
  · cases h

theorem substitute_of_none {s : Snapshot} {c : Char} {t : Text}
    (h : (if c = '$' then Inline.read? s t else none) = none) :
    substitute s (c :: t) = c :: substitute s t := by
  rw [substitute]
  split
  · rename_i hname
    rw [if_pos hname.1, Inline.read?, if_pos hname.2, Option.map_eq_none_iff] at h
    rw [h]
  · rfl

/-- **Variables are written** by writing the value of each that is found. -/
theorem substitute_eq_render (s : Snapshot) (t : Text) :
    substitute s t =
      Cuts.render (fun p => p.2.toText) ((Inline.finder s).cuts t).items
        ((Inline.finder s).cuts t).tail := by
  induction hn : t.length using Nat.strongRecOn generalizing t with
  | ind n ih =>
    subst hn
    cases t with
    | nil =>
      rw [substitute, (Inline.finder s).cuts_of_find?_eq_none rfl]
      rfl
    | cons c t =>
      cases hread : (if c = '$' then Inline.read? s t else none) with
      | none =>
        have hfind : Inline.find? s (c :: t) = (Inline.find? s t).map fun p => (c :: p.1, p.2) := by
          rw [Inline.find?, hread]
        rw [substitute_of_none hread, ih t.length (Nat.lt_succ_self _) t rfl]
        exact (render_cuts_cons (Inline.finder s) _ hfind).symm
      | some found =>
        have hfind : (Inline.finder s).find? (c :: t) = some ([], found) := by
          simp only [Inline.finder, Inline.find?, hread]
        split at hread
        · rename_i hc
          subst hc
          rw [substitute_of_read? hread, ih found.2.length ((Inline.finder s).length_lt hfind) _ rfl,
            (Inline.finder s).cuts_of_find?_eq_some hfind]
          rfl
        · cases hread

namespace InPlace

/-! ### The steps -/

/-- The group that begins at a position. -/
def groupAt? (t : Text) (start : Nat) : Guarded (Option (Located Text)) :=
  match closing? t start .curly with
  | none => pure none
  | some stop => do
    let inner ← t.slice (start + 1) (← Guarded.minus stop 1)
    return some ⟨inner, ⟨start, stop⟩⟩

/-- The next group from a position on. -/
def nextGroup? (t : Text) (start : Nat) : Guarded (Option (Located Text)) :=
  seek '{' (groupAt? t) start (t.bytes.drop start)

/-- The text with its groups set as one line each, where groups are in no more than `room` others. -/
def collapse : Nat → Text → GuardedAct Text
  | 0, _ => throw .stuck
  | room + 1, t =>
    copying t (nextGroup? t) (fun found => do
      let inner ← collapse room found.item
      return some ([' '].intercalate (Text.words inner))) 0 0

/-- The text with its groups set as one line each. -/
def collapseGroups (t : Text) : GuardedAct Text := collapse (t.length + 1) t

/-- The value of the variable whose name is written at a position. -/
def inlineAt? (s : Snapshot) (t : Text) (start : Nat) : Guarded (Option (Located Value)) :=
  let first := start + 1
  let stop := first + ((t.bytes.drop first).takeWhile (Text.onByte isInlineChar)).length
  if stop = first ∨ t.bytes[first]?.any (Text.onByte Char.isDigit) then pure none
  else do
    let name ← t.slice first stop
    return (s.lookup? name).map fun v => ⟨v, ⟨start, stop⟩⟩

/-- The text with its inline names replaced by the values of variables. -/
def substitute (s : Snapshot) (t : Text) : GuardedAct Text :=
  copying t (fun start => seek '$' (inlineAt? s t) start (t.bytes.drop start))
    (fun found => pure (some found.item.toText)) 0 0

/-- The text without the stretches from one marker through the next other one. -/
def stripStretches (start stop t : Text) : Guarded Text :=
  match firstOf start t with
  | none => pure t
  | some first => do
    let inside := first + Text.width start
    match firstOf stop (← t.suffixFrom inside) with
    | none => return t
    | some width =>
      let before ← t.slice 0 first
      let rest ← t.suffixFrom (inside + width + Text.width stop)
      if _h : rest.length < t.length then do
        let more ← stripStretches start stop rest
        return before ++ more
      else throw .stuck
termination_by t.length

/-- The text without what stands between two markers, and without these. -/
def stripBetween (start stop t : Text) : Guarded Text :=
  if start.isEmpty || stop.isEmpty then pure t else stripStretches start stop t

/-- The text as a filter leaves it. -/
def applyFilter : Filter → Text → Guarded Text
  | .between start stop, t => stripBetween start stop t
  | other, t => pure (other.apply t)

/-- The text as filters leave it, one after the other. -/
def applyFilters (filters : List Filter) (t : Text) : Guarded Text :=
  filters.foldlM (fun t filter => applyFilter filter t) t

/-- The text laid out by lines, with the blanks behind the last one cut off. -/
def normalize (t : Text) : Guarded Text :=
  let lines := dropRepeatedBlanks ((Text.splitOn '\n' (Text.trim t)).map Text.trimEnd)
  let out : Text := lines.flatMap Text.line
  out.slice 0 (Text.width (Text.trimEnd out))

/-! ### The same texts -/

/-- What is sought is copied as the items of a text are, if each is found where it is written. -/
private theorem copies_of_seeks {α β : Type} {F : Finder α} {g : Text → α → Act (Option Text)} {t : Text}
    {write : Located β → GuardedAct (Option Text)} {d : Char} {pick : Text → Option (α × Text)}
    (hd : d.toNat < 128) (hseeks : Seeks d pick F.find?) {test : Nat → Guarded (Option (Located β))}
    (item : α → β)
    (htest : ∀ s u, t = s ++ d :: u → test (Text.width s) = .ok ((pick u).map fun p =>
      ⟨item p.1, ⟨Text.width s, Text.width s + Text.width (F.source p.1)⟩⟩))
    (hwrite : ∀ {s u before behind : Text} {a : α}, t = s ++ u → F.find? u = some (before, a, behind) →
      ∀ span, write ⟨item a, span⟩ = Act.sure (g (s ++ before) a)) :
    Copies F g t (fun start => seek d test start (t.bytes.drop start)) write := by
  let place (i : Nat) (p : α × Text) : Located β := ⟨item p.1, ⟨i, i + Text.width (F.source p.1)⟩⟩
  have hseek {s u : Text} (ht : t = s ++ u) := seek_append hd hseeks place htest ht
  have hdrop {s u : Text} (ht : t = s ++ u) : t.bytes.drop (Text.width s) = u.bytes := by
    rw [ht, Text.drop_bytes_append]
  refine ⟨?_, ?_⟩
  · intro s u ht h
    rw [hdrop ht, hseek ht, h]
    rfl
  · intro s u before behind a ht h
    refine ⟨item a, ?_, hwrite ht h _⟩
    rw [hdrop ht, hseek ht, h, Text.width_append (s ++ before), Text.width_append]
    rfl

/-- A search that tries one character after the other. -/
private theorem seeks_of_cons {γ : Type} {d : Char} {pick : Text → Option γ}
    {find : Text → Option (Text × γ)} (hnil : find [] = none)
    (hcons : ∀ c u, find (c :: u) =
      match (if c = d then pick u else none) with
      | some g => some ([], g)
      | none => (find u).map fun p => (c :: p.1, p.2)) : Seeks d pick find where
  nil := hnil
  here := by
    intro u g h
    rw [hcons, if_pos rfl, h]
  behind := by
    intro c u h
    have hnone : (if c = d then pick u else none) = none := by
      split
      · rename_i hc
        exact h hc
      · rfl
    rw [hcons, hnone]

private theorem seeks_groups : Seeks '{' (Bracket.curly.closing? 0) Group.finder.find? := by
  refine seeks_of_cons rfl fun c u => ?_
  simp only [Group.finder, findGroup?]
  cases (if c = '{' then Bracket.curly.closing? 0 u else none) <;> rfl

private theorem groupAt?_append (s u : Text) :
    groupAt? (s ++ '{' :: u) (Text.width s) =
      .ok ((Bracket.curly.closing? 0 u).map fun p =>
        ⟨p.1, ⟨Text.width s, Text.width s + Text.width (Group.finder.source p.1)⟩⟩) := by
  have hclosing : closing? (s ++ '{' :: u) (Text.width s) .curly = _ :=
    closing?_append (b := .curly) s u
  rw [groupAt?, hclosing]
  cases hclose : Bracket.curly.closing? 0 u with
  | none => rfl
  | some p =>
    have hinner := Text.slice_append (s ++ ['{']) p.1 ('}' :: p.2)
    have hu : u = p.1 ++ '}' :: p.2 := Bracket.eq_append_of_closing? hclose
    have hfirst : Text.width (s ++ ['{']) = Text.width s + 1 := Text.width_append s ['{']
    have hstop : Text.width s + Text.width p.1 + 2 - 1 = Text.width s + 1 + Text.width p.1 := by omega
    have hsource : Text.width s + Text.width (Group.finder.source p.1) =
        Text.width s + Text.width p.1 + 2 := by
      simp (disch := decide) [Group.finder, Text.utf8Size_of_lt]
      omega
    rw [← hu, ← List.append_cons, hfirst, ← hstop] at hinner
    simp only [Option.map_some, hsource, hinner, Guarded.ok_bind,
      Guarded.minus_eq_ok (show 1 ≤ Text.width s + Text.width p.1 + 2 by omega)]
    rfl

/-- **Groups are set in place**, however they are nested. -/
private theorem collapse_eq {room : Nat} {t : Text} (h : t.length < room) :
    collapse room t = pure (Hyperfiction.collapseGroups t) := by
  induction room generalizing t with
  | zero => exact absurd h (Nat.not_lt_zero _)
  | succ room ih =>
    rw [collapse, collapseGroups_eq_render]
    refine copying_pure_eq (copies_of_seeks (by decide) seeks_groups (fun inner => inner) ?_ ?_)
    · rintro s u rfl
      exact groupAt?_append s u
    · intro s u before behind inner ht hfind span
      have hu := congrArg List.length (Group.finder.eq_append hfind)
      simp only [Group.finder, List.length_append, List.length_cons] at hu
      rw [ht, List.length_append] at h
      simp only [ih (show inner.length < room by omega)]
      rfl

/-- **Groups collapsed in the buffer** are those of the text. -/
theorem collapseGroups_eq (t : Text) : collapseGroups t = pure (Hyperfiction.collapseGroups t) :=
  collapse_eq (Nat.lt_succ_self _)

theorem lt_of_isInlineChar (c : Char) (h : isInlineChar c) : c.toNat < 128 := by
  simp only [isInlineChar, Bool.or_eq_true, beq_iff_eq] at h
  rcases h with h | rfl
  · exact Text.lt_of_isAlphanum h
  · decide

/-- The first byte of a name is its first character. -/
private theorem head?_bytes_any {u : Text} (h : u.takeWhile isInlineChar ≠ []) (test : Char → Bool) :
    u.bytes.head?.any (Text.onByte test) = (u.takeWhile isInlineChar).head?.any test := by
  cases u with
  | nil => rfl
  | cons c u =>
    rw [List.takeWhile_cons] at h ⊢
    split at h
    · rename_i hc
      have hlt := lt_of_isInlineChar c hc
      rw [if_pos hc, Text.bytes_cons, Text.encode_of_lt hlt]
      exact Text.onByte_toUInt8 hlt
    · exact absurd rfl h

private theorem seeks_inline (s : Snapshot) :
    Seeks '$' (Inline.read? s) (Inline.finder s).find? := by
  refine seeks_of_cons rfl fun c u => ?_
  simp only [Inline.finder, Inline.find?]
  cases (if c = '$' then Inline.read? s u else none) <;> rfl

private theorem inlineAt?_append (values : Snapshot) (s u : Text) :
    inlineAt? values (s ++ '$' :: u) (Text.width s) =
      .ok ((Inline.read? values u).map fun p =>
        ⟨p.1.2, ⟨Text.width s, Text.width s + Text.width (Inline.source p.1)⟩⟩) := by
  have hfirst : Text.width s + 1 = Text.width (s ++ ['$']) := (Text.width_append s ['$']).symm
  have hbehind : (s ++ '$' :: u).bytes.drop (Text.width s + 1) = u.bytes := by
    rw [List.append_cons, hfirst, Text.drop_bytes_append]
  have hname := Text.slice_append (s ++ ['$']) (u.takeWhile isInlineChar) (u.dropWhile isInlineChar)
  rw [List.takeWhile_append_dropWhile, ← List.append_cons, ← hfirst] at hname
  have hbyte : (s ++ '$' :: u).bytes[Text.width s + 1]? = u.bytes.head? := by
    rw [← hbehind, List.head?_drop]
  rw [inlineAt?]
  simp only [hbehind, hbyte, Text.takeWhile_bytes lt_of_isInlineChar, Text.length_bytes, hname,
    Nat.add_eq_left, Text.width_eq_zero_iff, Inline.read?]
  by_cases hempty : u.takeWhile isInlineChar = []
  · rw [if_pos (.inl hempty), if_neg fun h => h.1 hempty]
    rfl
  · rw [head?_bytes_any hempty]
    simp only [hempty, false_or, ne_eq, not_false_eq_true, true_and]
    cases (u.takeWhile isInlineChar).head?.any Char.isDigit with
    | true => rfl
    | false =>
      simp only [Bool.false_eq_true, if_false, not_false_eq_true, if_true, Guarded.ok_bind]
      cases values.lookup? (u.takeWhile isInlineChar) with
      | none => rfl
      | some v =>
        have hsource : Text.width (Inline.source (u.takeWhile isInlineChar, v)) =
            1 + Text.width (u.takeWhile isInlineChar) := rfl
        simp only [Option.map_some, hsource, Nat.add_assoc]
        rfl

/-- **Names replaced in the buffer** are those of the text. -/
theorem substitute_eq (s : Snapshot) (t : Text) :
    substitute s t = pure (Hyperfiction.substitute s t) := by
  rw [substitute_eq_render]
  refine copying_pure_eq (copies_of_seeks (by decide) (seeks_inline s) Prod.snd ?_ ?_)
  · rintro s' u rfl
    exact inlineAt?_append s s' u
  · intros
    rfl

private theorem stripBetween_of_eq_none {start stop t : Text} (h : Text.breakOn? start t = none) :
    Filter.stripBetween start stop t = t := by
  rw [Filter.stripBetween]
  split
  · rfl
  · rename_i h'
    rw [h] at h'
    cases h'

/-- Nothing is stripped where the stretch does not end. -/
private theorem stripBetween_of_open {start stop t before behind : Text}
    (h : Text.breakOn? start t = some (before, behind)) (hopen : Text.breakOn? stop behind = none) :
    Filter.stripBetween start stop t = t := by
  rw [Filter.stripBetween]
  split
  · rfl
  · rename_i h'
    obtain ⟨rfl, rfl⟩ := Prod.mk.inj (Option.some.inj (h.symm.trans h'))
    split
    · rfl
    · rename_i hclosed
      rw [hopen] at hclosed
      cases hclosed

private theorem stripBetween_of_closed {start stop t before behind inner rest : Text}
    (h : Text.breakOn? start t = some (before, behind))
    (hclosed : Text.breakOn? stop behind = some (inner, rest)) (hne : ¬ (start = [] ∨ stop = [])) :
    Filter.stripBetween start stop t = before ++ Filter.stripBetween start stop rest := by
  rw [Filter.stripBetween]
  split
  · rename_i h'
    rw [h] at h'
    cases h'
  · rename_i h'
    obtain ⟨rfl, rfl⟩ := Prod.mk.inj (Option.some.inj (h.symm.trans h'))
    split
    · rename_i hopen
      rw [hclosed] at hopen
      cases hopen
    · rename_i hclosed'
      obtain ⟨rfl, rfl⟩ := Prod.mk.inj (Option.some.inj (hclosed.symm.trans hclosed'))
      rw [dif_neg hne]

private theorem stripBetween_of_empty {start stop : Text} (h : start = [] ∨ stop = []) (t : Text) :
    Filter.stripBetween start stop t = t := by
  rw [Filter.stripBetween]
  split
  · rfl
  · split
    · rfl
    · rw [dif_pos h]

/-- **Stretches are stripped in place.** -/
private theorem stripStretches_eq {start stop : Text} (hne : ¬ (start = [] ∨ stop = [])) (t : Text) :
    stripStretches start stop t = .ok (Filter.stripBetween start stop t) := by
  induction hn : t.length using Nat.strongRecOn generalizing t with
  | ind n ih =>
    subst hn
    rw [stripStretches, firstOf]
    cases h : Text.breakOn? start t with
    | none =>
      rw [stripBetween_of_eq_none h]
      rfl
    | some p =>
      obtain ⟨before, behind⟩ := p
      have ht := Text.eq_append_of_breakOn? h
      have hbefore := Text.slice_zero_append before (start ++ behind)
      have hbehind := Text.suffixFrom_append (before ++ start) behind
      rw [← ht] at hbefore
      rw [List.append_assoc, ← ht, Text.width_append] at hbehind
      simp only [Option.map_some, hbehind, Guarded.ok_bind, firstOf]
      cases hclosed : Text.breakOn? stop behind with
      | none =>
        rw [stripBetween_of_open h hclosed]
        rfl
      | some q =>
        obtain ⟨inner, rest⟩ := q
        have hsplit : t = before ++ start ++ inner ++ stop ++ rest := by
          rw [ht, Text.eq_append_of_breakOn? hclosed]
          simp only [List.append_assoc]
        have hrest := Text.suffixFrom_append (before ++ start ++ inner ++ stop) rest
        have hlt : rest.length < t.length := by
          have hpos := List.length_pos_iff.mpr (not_or.mp hne).1
          rw [hsplit]
          simp only [List.length_append]
          omega
        rw [← hsplit] at hrest
        simp only [Text.width_append] at hrest
        simp only [Option.map_some, hbefore, hrest, Guarded.ok_bind, dif_pos hlt, ih _ hlt rest rfl,
          stripBetween_of_closed h hclosed hne]
        rfl

/-- **What stands between markers is removed from the buffer** as it is from the text. -/
theorem stripBetween_eq (start stop t : Text) :
    stripBetween start stop t = .ok (Filter.stripBetween start stop t) := by
  rw [stripBetween]
  by_cases hne : start = [] ∨ stop = []
  · have hempty : (start.isEmpty || stop.isEmpty) = true := by
      rw [Bool.or_eq_true, List.isEmpty_iff, List.isEmpty_iff]
      exact hne
    rw [if_pos hempty, stripBetween_of_empty hne]
    rfl
  · have hempty : ¬ (start.isEmpty || stop.isEmpty) = true := by
      rw [Bool.or_eq_true, List.isEmpty_iff, List.isEmpty_iff]
      exact hne
    rw [if_neg hempty, stripStretches_eq hne]

theorem applyFilter_eq (filter : Filter) (t : Text) : applyFilter filter t = .ok (filter.apply t) := by
  cases filter with
  | between start stop => exact stripBetween_eq start stop t
  | pattern p => rfl
  | literal needle => rfl

theorem applyFilters_eq (filters : List Filter) (t : Text) :
    applyFilters filters t = .ok (Filter.applyAll filters t) := by
  induction filters generalizing t with
  | nil => rfl
  | cons filter filters ih =>
    rw [applyFilters, List.foldlM_cons, applyFilter_eq, Guarded.ok_bind]
    exact ih _

private theorem trimEnd_flatMap_line (lines : List Text) :
    Text.trimEnd (lines.flatMap Text.line) = Text.trimEnd (['\n'].intercalate lines) := by
  cases lines with
  | nil => rfl
  | cons first lines =>
    have hjoin : (first :: lines).flatMap Text.line =
        ['\n'].intercalate (first :: lines) ++ ['\n'] := by
      induction lines generalizing first with
      | nil => simp [Text.line]
      | cons second lines ih =>
        rw [List.flatMap_cons, ih, Text.line, List.intercalate_cons_cons, List.append_assoc _ _ ['\n']]
    rw [hjoin, Text.trimEnd_append_singleton _ (by decide)]

theorem normalize_eq (t : Text) : normalize t = .ok (Hyperfiction.normalize t) := by
  have hend : Text.trimEnd ((dropRepeatedBlanks ((Text.splitOn '\n' (Text.trim t)).map
      Text.trimEnd)).flatMap Text.line) = Hyperfiction.normalize t :=
    (trimEnd_flatMap_line _).trans (endsPlain_normalize t).trimEnd_eq
  obtain ⟨u, hu, -⟩ := Text.exists_trimEnd ((dropRepeatedBlanks ((Text.splitOn '\n' (Text.trim t)).map
    Text.trimEnd)).flatMap Text.line)
  rw [hend] at hu
  simp only [normalize, hend]
  exact Text.slice_eq_ok_iff.mpr ⟨[], u, hu, rfl, (Nat.zero_add _).symm⟩

end InPlace

end Hyperfiction

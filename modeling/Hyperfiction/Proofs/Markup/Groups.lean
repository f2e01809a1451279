import Hyperfiction.Markup.Layout
import Hyperfiction.Proofs.Markup.Openers
import Hyperfiction.Proofs.Markup.Walk
import Hyperfiction.Proofs.Text.Blanks

/-!
# Groups

A group is found at the first brace that is closed (`Group.find?_eq_some_iff`), and is set as one line of
the words in it. Groups in it are set first, so a line has no brace (`Group.not_mem_line`), and it leads to
the depth that its group leads to. Hence a brace that is not closed stays so when groups behind it are set
(`Group.noGroup_collapseGroups`), and there is no group in what is left: this is what the walk over the
groups of a text does (`Group.collapse_walk`).
-/

namespace Hyperfiction

/-! ### Groups as items of a text -/

/-- Finds groups. -/
def Group.finder : Finder Text where
  source := fun inner => '{' :: inner ++ ['}']
  find? := findGroup?
  eq_append := by
    intro t b inner u h
    rw [eq_append_of_findGroup? h]
    simp
  source_ne_nil := fun _ => List.cons_ne_nil _ _

/-- A group set as one line. -/
def Group.line (inner : Text) : Text := [' '].intercalate (Text.words (collapseGroups inner))

/-- Groups are set by writing a line for each that is found. -/
theorem collapseGroups_eq_render (t : Text) :
    collapseGroups t =
      Cuts.render Group.line (Group.finder.cuts t).items (Group.finder.cuts t).tail := by
  induction hn : t.length using Nat.strongRecOn generalizing t with
  | ind n ih =>
    subst hn
    rw [collapseGroups]
    split
    · rename_i h
      rw [Group.finder.cuts_of_find?_eq_none h]
      rfl
    · rename_i before inner u h
      have hrest := ih u.length (Group.finder.length_lt h) u rfl
      rw [Group.finder.cuts_of_find?_eq_some h, hrest]
      rfl

/-! ### The first group -/

private theorem findGroup?_of_closed {t inner u : Text} (h : Bracket.curly.closing? 0 t = some (inner, u)) :
    findGroup? ('{' :: t) = some ([], inner, u) := by
  rw [findGroup?, if_pos rfl, h]

private theorem findGroup?_of_not_closed {c : Char} {t : Text}
    (h : c = '{' → Bracket.curly.closing? 0 t = none) :
    findGroup? (c :: t) = (findGroup? t).map fun p => (c :: p.1, p.2) := by
  have hnone : (if c = '{' then Bracket.curly.closing? 0 t else none) = none := by
    split
    · rename_i hc
      exact h hc
    · rfl
  rw [findGroup?, hnone]

/-- A text has **no group** when none of its braces is closed. -/
def NoGroup (t : Text) : Prop := Bracket.curly.AtOpeners (fun y => Bracket.curly.closing? 0 y = none) t

theorem findGroup?_eq_none_iff {t : Text} : findGroup? t = none ↔ NoGroup t := by
  induction t with
  | nil => exact iff_of_true rfl Bracket.atOpeners_nil
  | cons c t ih =>
    rw [NoGroup, Bracket.atOpeners_cons_iff]
    by_cases h : c = '{' → Bracket.curly.closing? 0 t = none
    · rw [findGroup?_of_not_closed h, Option.map_eq_none_iff, ih]
      exact (and_iff_right h).symm
    · obtain ⟨rfl, hclosed⟩ := Classical.not_imp.mp h
      obtain ⟨p, hp⟩ := Option.ne_none_iff_exists'.mp hclosed
      rw [findGroup?_of_closed hp]
      exact iff_of_false nofun fun hnone => h hnone.1

theorem collapseGroups_of_noGroup {t : Text} (h : NoGroup t) : collapseGroups t = t := by
  rw [collapseGroups_eq_render, Group.finder.cuts_of_find?_eq_none (findGroup?_eq_none_iff.mpr h)]
  rfl

/-- The first group of a text is set as a line, and what stands behind it has its groups set. -/
theorem collapseGroups_of_eq_some {t b inner u : Text} (h : findGroup? t = some (b, inner, u)) :
    collapseGroups t = b ++ (Group.line inner ++ collapseGroups u) := by
  rw [collapseGroups_eq_render, Group.finder.cuts_of_find?_eq_some h, collapseGroups_eq_render u]
  exact List.append_assoc _ _ _

namespace Group

/-- The group as written. -/
abbrev source : Text → Text := finder.source

/-- A group is the **first** one between two texts when it closes the braces that it opens, and none of those
before it is closed. -/
structure IsFirst (before inner behind : Text) : Prop where
  before : Bracket.curly.AtOpeners
    (fun y => Bracket.curly.closing? 0 (y ++ (source inner ++ behind)) = none) before
  inner : Bracket.curly.Balanced inner

private theorem isFirst_of_find? {t b inner u : Text} (h : findGroup? t = some (b, inner, u)) :
    IsFirst b inner u := by
  induction t generalizing b with
  | nil => cases h
  | cons c t ih =>
    by_cases hc : c = '{' → Bracket.curly.closing? 0 t = none
    · rw [findGroup?_of_not_closed hc, Option.map_eq_some_iff] at h
      obtain ⟨⟨b, found⟩, hfind, hfound⟩ := h
      obtain ⟨rfl, rfl⟩ := Prod.mk.inj hfound
      obtain ⟨hbefore, hinner⟩ := ih hfind
      refine ⟨Bracket.atOpeners_cons_iff.mpr ⟨?_, hbefore⟩, hinner⟩
      rwa [finder.eq_append hfind] at hc
    · obtain ⟨rfl, hclosed⟩ := Classical.not_imp.mp hc
      obtain ⟨p, hp⟩ := Option.ne_none_iff_exists'.mp hclosed
      rw [findGroup?_of_closed hp, Option.some.injEq, Prod.mk.injEq, Prod.mk.injEq] at h
      obtain ⟨rfl, rfl, rfl⟩ := h
      exact ⟨Bracket.atOpeners_nil, (Bracket.closing?_eq_some_iff.mp hp).2⟩

/-- **A group is found exactly where it is the first.** -/
theorem find?_eq_some_iff {t b inner u : Text} :
    finder.find? t = some (b, inner, u) ↔ IsFirst b inner u ∧ t = b ++ (source inner ++ u) := by
  refine ⟨fun h => ⟨isFirst_of_find? h, finder.eq_append h⟩, ?_⟩
  rintro ⟨⟨hbefore, hinner⟩, rfl⟩
  induction b with
  | nil =>
    have hsource : source inner ++ u = '{' :: (inner ++ '}' :: u) := by simp [source, finder]
    rw [List.nil_append, hsource]
    exact findGroup?_of_closed (Bracket.closing?_of_depth? hinner u)
  | cons c b ih =>
    obtain ⟨hc, hbefore⟩ := Bracket.atOpeners_cons_iff.mp hbefore
    exact (findGroup?_of_not_closed hc).trans (congrArg (Option.map _) (ih hbefore))

private theorem depth?_source_append {inner : Text} (h : Bracket.curly.Balanced inner) (n : Nat) (u : Text) :
    Bracket.curly.depth? n (source inner ++ u) = Bracket.curly.depth? n u := by
  have hsource : source inner = Bracket.curly.opener :: inner ++ [Bracket.curly.closer] := rfl
  rw [Bracket.depth?_append, hsource, h.enclosed.depth?_eq, Option.bind_some]

/-! ### Groups that are set -/

/-- **Induction over groups**: a text has none, or a first one, in which there may be others, and what stands
behind it. -/
theorem induction {P : Text → Text → Prop} (stops : ∀ {t}, NoGroup t → P t t)
    (goesOn : ∀ {b inner u}, IsFirst b inner u → P inner (collapseGroups inner) → P u (collapseGroups u) →
      P (b ++ (source inner ++ u)) (b ++ (line inner ++ collapseGroups u))) (t : Text) :
    P t (collapseGroups t) := by
  induction hn : t.length using Nat.strongRecOn generalizing t with
  | ind n ih =>
    subst hn
    rw [collapseGroups]
    split
    · rename_i h
      exact stops (findGroup?_eq_none_iff.mp h)
    · rename_i b inner u h
      obtain ⟨hfirst, rfl⟩ := find?_eq_some_iff.mp h
      have hlen : (b ++ (source inner ++ u)).length = b.length + (inner.length + 1 + 1 + u.length) := by
        simp only [source, finder, List.length_append, List.length_cons, List.length_nil]
      rw [List.append_assoc]
      exact goesOn hfirst (ih inner.length (by omega) inner rfl) (ih u.length (by omega) u rfl)

/-- Is the character a brace? -/
def isBrace (c : Char) : Bool := c == '{' || c == '}'

/-- A line has the characters of its group that are no blanks, with the groups in it set. -/
private theorem filter_line {p : Char → Bool} (hp : ∀ c, Text.isBlank c → p c = false) (inner : Text) :
    (line inner).filter p = (collapseGroups inner).filter p := by
  have hblank : Text.isBlank ' ' := by decide
  have hwords (ws : List Text) : (ws.flatMap fun w => w.filter p) = ws.flatten.filter p := by
    rw [List.filter_flatten, List.flatMap]
  rw [line, (Text.ignoresBlanks_filter hp).intercalate hblank, hwords, Text.flatten_words, List.filter_filter]
  refine List.filter_congr fun c _ => ?_
  cases hc : Text.isBlank c with
  | true => rw [hp c hc, Bool.false_and]
  | false => rw [Bool.not_false, Bool.and_true]

private theorem isBrace_of_blank {c : Char} (h : Text.isBlank c) : isBrace c = false := by
  cases hc : isBrace c with
  | false => rfl
  | true =>
    rw [isBrace, Bool.or_eq_true, beq_iff_eq, beq_iff_eq] at hc
    rcases hc with rfl | rfl <;> exact absurd h (by decide)

/-- A text without braces, told by what is left of it. -/
private theorem filter_isBrace_eq_nil_iff {t : Text} : t.filter isBrace = [] ↔ '{' ∉ t ∧ '}' ∉ t := by
  simp only [List.filter_eq_nil_iff, isBrace, Bool.or_eq_true, beq_iff_eq, not_or]
  exact ⟨fun h => ⟨fun hm => (h _ hm).1 rfl, fun hm => (h _ hm).2 rfl⟩, fun h c hc =>
    ⟨fun heq => h.1 (heq ▸ hc), fun heq => h.2 (heq ▸ hc)⟩⟩

/-- **Balanced text** has no brace when its groups are set. -/
private theorem filter_isBrace_collapseGroups (t : Text) :
    Bracket.curly.Balanced t → (collapseGroups t).filter isBrace = [] := by
  induction t using induction with
  | stops hnone =>
    intro hbalanced
    have hopen := Bracket.opener_not_mem hbalanced.atOpeners hnone fun _ => Option.isSome_iff_ne_none.mp
    exact filter_isBrace_eq_nil_iff.mpr
      ⟨hopen, Bracket.closer_not_mem (by rw [hbalanced]; rfl) hopen⟩
  | @goesOn b inner u hfirst hinner hbehind =>
    intro hbalanced
    have hopen : '{' ∉ b :=
      Bracket.opener_not_mem (Bracket.atOpeners_append_iff.mp hbalanced.atOpeners).1 hfirst.before
        fun _ => Option.isSome_iff_ne_none.mp
    rw [Bracket.Balanced, Bracket.depth?_append] at hbalanced
    have hclose : '}' ∉ b := by
      refine Bracket.closer_not_mem (b := .curly) ?_ hopen
      cases hb : Bracket.curly.depth? 0 b with
      | none => simp [hb] at hbalanced
      | some n => rfl
    rw [Bracket.depth?_of_not_mem hopen hclose, Option.bind_some,
      depth?_source_append hfirst.inner] at hbalanced
    rw [List.filter_append, List.filter_append, filter_line fun _ => isBrace_of_blank, hinner hfirst.inner,
      hbehind hbalanced, filter_isBrace_eq_nil_iff.mpr ⟨hopen, hclose⟩]
    rfl

/-- Balanced text has no brace when its groups are set. -/
theorem not_mem_collapseGroups {t : Text} (h : Bracket.curly.Balanced t) :
    '{' ∉ collapseGroups t ∧ '}' ∉ collapseGroups t :=
  filter_isBrace_eq_nil_iff.mp (filter_isBrace_collapseGroups t h)

/-- **A line has no brace.** -/
theorem not_mem_line {inner : Text} (h : Bracket.curly.Balanced inner) :
    '{' ∉ line inner ∧ '}' ∉ line inner := by
  rw [← filter_isBrace_eq_nil_iff, filter_line fun _ => isBrace_of_blank]
  exact filter_isBrace_collapseGroups inner h

/-- Setting groups leaves braces balanced as they were. -/
theorem depth?_collapseGroups (t : Text) (n : Nat) :
    Bracket.curly.depth? n (collapseGroups t) = Bracket.curly.depth? n t := by
  induction t using induction generalizing n with
  | stops _ => rfl
  | goesOn hfirst _ hbehind =>
    obtain ⟨hopen, hclose⟩ := not_mem_line hfirst.inner
    rw [Bracket.depth?_append, Bracket.depth?_append]
    simp only [depth?_source_append hfirst.inner, Bracket.depth?_append,
      Bracket.depth?_of_not_mem (b := .curly) hopen hclose, Option.bind_some, hbehind]

/-- **No group is left**: what becomes of the groups behind a brace does not close it. -/
theorem noGroup_collapseGroups (t : Text) : NoGroup (collapseGroups t) := by
  induction t using induction with
  | stops hnone => exact hnone
  | @goesOn b inner u hfirst _ hbehind =>
    obtain ⟨hopen, hclose⟩ := not_mem_line hfirst.inner
    have hdepth (n : Nat) : Bracket.curly.depth? n (source inner ++ u) =
        Bracket.curly.depth? n (line inner ++ collapseGroups u) := by
      rw [depth?_source_append hfirst.inner, Bracket.depth?_append,
        Bracket.depth?_of_not_mem (b := .curly) hopen hclose, Option.bind_some, depth?_collapseGroups]
    refine Bracket.atOpeners_append_iff.mpr ⟨hfirst.before.imp fun y => ?_,
      Bracket.atOpeners_append_iff.mpr ⟨Bracket.atOpeners_of_not_mem hopen, hbehind⟩⟩
    exact (Bracket.closing?_append_eq_none_congr hdepth 0 y).mp

/-- Is the character neither a blank nor a brace? -/
def isPlain (c : Char) : Bool := !Text.isBlank c && !isBrace c

private theorem isPlain_of_blank {c : Char} (h : Text.isBlank c) : isPlain c = false := by
  rw [isPlain, h, Bool.not_true, Bool.false_and]

/-- **Only braces and blanks change.** -/
theorem filter_isPlain_collapseGroups (t : Text) : (collapseGroups t).filter isPlain = t.filter isPlain := by
  have hsource (inner : Text) : (source inner).filter isPlain = inner.filter isPlain := by
    rw [show source inner = '{' :: inner ++ ['}'] from rfl, List.filter_append]
    simp [isPlain, isBrace]
  induction t using induction with
  | stops _ => rfl
  | goesOn _ hinner hbehind =>
    simp only [List.filter_append, filter_line fun _ => isPlain_of_blank, hsource, hinner, hbehind]

/-- The walk over the groups of a text. -/
def Walk : Text → Cuts Text → Prop := Cuts.Walk source IsFirst

theorem Walk.balanced {t : Text} {cs : Cuts Text} (h : Walk t cs) :
    ∀ inner ∈ cs.found, Bracket.curly.Balanced inner := by
  induction h with
  | stops _ => exact nofun
  | goesOn hfirst _ ih => exact List.forall_mem_cons.mpr ⟨hfirst.inner, ih⟩

/-- **Groups are set along the one walk over a text.** What stands between them, braces that are not closed
among it, is left; each group becomes a line without braces, which has what else it had in order. No brace
is closed in what this gives, so that it stays as it is. -/
theorem collapse_walk (t : Text) :
    (∃! cs, Walk t cs) ∧
      (∀ cs, Walk t cs →
        Cuts.render source cs.items cs.tail = t ∧
          collapseGroups t = Cuts.render line cs.items cs.tail ∧
          ∀ inner ∈ cs.found, Text.IsLine (line inner) ∧ ('{' ∉ line inner ∧ '}' ∉ line inner) ∧
            (line inner).filter isPlain = inner.filter isPlain) ∧
      NoGroup (collapseGroups t) ∧ collapseGroups (collapseGroups t) = collapseGroups t := by
  refine ⟨finder.existsUnique_walk find?_eq_some_iff t, fun cs hwalk => ⟨hwalk.render_eq, ?_, ?_⟩,
    noGroup_collapseGroups t, collapseGroups_of_noGroup (noGroup_collapseGroups t)⟩
  · obtain rfl := (finder.cuts_eq_iff find?_eq_some_iff).mpr hwalk
    exact collapseGroups_eq_render t
  · intro inner hinner
    refine ⟨Text.isLine_words _, not_mem_line (hwalk.balanced inner hinner), ?_⟩
    rw [filter_line fun _ => isPlain_of_blank, filter_isPlain_collapseGroups]

end Group

end Hyperfiction

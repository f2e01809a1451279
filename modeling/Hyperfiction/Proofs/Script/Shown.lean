import Hyperfiction.Proofs.Script.Replaced
import Hyperfiction.Proofs.Script.Written

/-!
# Links in what is shown

Links are taken out of the settled text of a passage, and then its groups are set, assignments that are left
over taken out, prints and inline variables written. No link comes of it where like square brackets are kept
apart by texts that stay (`Script.Stays`) and no value has square brackets: each of these stages leaves links as
they are (`Script.noLink_collapseGroups`, `Script.noLink_stripSets`, `Script.resolvePrints_keeps`,
`Script.noLink_substitute`), and so does the layout. So a script with these properties shows no link
(`Compiler.noLink_of_script`).
-/

namespace Hyperfiction

open Invocation Act
open Text (LineEnd lineFrom endFrom)

namespace Script

/-! ### What keeps brackets apart -/

/-- A text **stays** between two square brackets whatever groups are set and variables are written around it. -/
inductive Stays (groups : Prop) : Bool → Text → Prop where
  /-- A character that is in no variable. -/
  | char {loose : Bool} {x : Text} {c : Char} : c ∈ x → Inline.Stays true c → (groups → Group.isPlain c) →
    Stays groups loose x
  /-- Right behind a bracket a name has no `$` in front. -/
  | front {x : Text} {c : Char} : c ≠ '$' → (groups → Group.isPlain c) → Stays groups false (c :: x)
  /-- A blank in a text; those at its ends may be taken away where groups are set. -/
  | blank {loose : Bool} {s t : Text} {b c d : Char} : Text.isBlank b → c ∈ s → Group.isPlain c → d ∈ t →
    Group.isPlain d → Stays groups loose (s ++ b :: t)

namespace Stays

variable {groups : Prop} {loose : Bool} {x y : Text}

/-- What stays where something may vanish in front stays where nothing may. -/
theorem mono (h : Stays groups true x) : Stays groups false x := by
  cases h with
  | char hmem hc hg => exact .char hmem hc hg
  | blank hb hs hc ht hd => exact .blank hb hs hc ht hd

private theorem stays_of_isBlank {b : Char} (hb : Text.isBlank b) : Inline.Stays true b := by
  refine ⟨by rintro rfl; exact absurd hb (by decide), fun _ hinline => ?_⟩
  have hname : isNameChar b := by
    simp only [isInlineChar, isNameChar, Bool.or_eq_true] at hinline ⊢
    exact hinline.imp_left .inl
  rw [isBlank_of_isNameChar hname] at hb
  cases hb

/-- What stays is not emptied where groups are set. -/
theorem ne_nil_of_group (h : Stays groups loose x) (hg : groups) (hr : Replaces Group.Stays loose x y) :
    y ≠ [] := by
  have hmem {c : Char} (hc : Group.isPlain c) (hmem : c ∈ x) : y ≠ [] :=
    List.ne_nil_of_mem (hr.mem (fun _ => hc) hmem)
  cases h with
  | char hx _ hc => exact hmem (hc hg) hx
  | front _ hc => exact hmem (hc hg) List.mem_cons_self
  | blank _ hs hc _ _ => exact hmem hc (List.mem_append_left _ hs)

/-- What stays is not emptied where variables are written. -/
theorem ne_nil_of_inline (h : Stays groups loose x) (hr : Replaces Inline.Stays loose x y) : y ≠ [] := by
  have hmem {c : Char} (hc : Inline.Stays true c) (hmem : c ∈ x) : y ≠ [] := by
    refine List.ne_nil_of_mem (hr.mem (fun loose => ?_) hmem)
    cases loose with
    | true => exact hc
    | false => exact Inline.stays_mono c hc
  cases h with
  | char hx hc _ => exact hmem hc hx
  | front hc _ =>
    cases hr with
    | stays _ => exact List.cons_ne_nil _ _
    | goes hgone _ _ => exact absurd ⟨hc, by simp⟩ hgone
  | blank hb _ _ _ _ => exact hmem (stays_of_isBlank hb) (List.mem_append_right _ List.mem_cons_self)

theorem ne_nil (h : Stays groups loose x) : x ≠ [] := h.ne_nil_of_inline (.refl loose x)

private theorem isBlank_of_isPlain {c : Char} (hc : Group.isPlain c) : Text.isBlank c = false := by
  rw [Group.isPlain, Bool.and_eq_true, Bool.not_eq_true'] at hc
  exact hc.1

/-- What stays does so on a line. -/
theorem lineFrom (h : Stays groups loose x) (hg : groups) {e : LineEnd} (he : e = .gap → loose = true) :
    Stays groups loose (Text.lineFrom e x) := by
  cases h with
  | char hx hc hplain =>
    exact .char (Text.mem_lineFrom (isBlank_of_isPlain (hplain hg)) hx) hc hplain
  | @front x c hc hplain =>
    -- Right behind a bracket no space is held back.
    have hpending : e.pending = [] := by
      cases e with
      | gap => exact absurd (he rfl) (by decide)
      | start | word => rfl
    rw [Text.lineFrom_cons (isBlank_of_isPlain (hplain hg)), hpending]
    exact .front hc hplain
  | @blank _ s t b c d hb hs hc ht hd =>
    have hend : (endFrom e s).blank = .gap :=
      Text.blank_endFrom (isBlank_of_isPlain hc) hs
    have hline : d ∈ Text.lineFrom .gap t := Text.mem_lineFrom (isBlank_of_isPlain hd) ht
    rw [Text.lineFrom_append, Text.lineFrom_of_blank hb, hend]
    rcases Text.lineFrom_gap t with ⟨-, hnil⟩ | ⟨u, hu⟩
    · rw [hnil] at hline
      cases hline
    · rw [hu] at hline ⊢
      refine .blank (by decide) (Text.mem_lineFrom (isBlank_of_isPlain hc) hs) hc ?_ hd
      refine (List.mem_cons.mp hline).resolve_left ?_
      rintro rfl
      exact absurd hd (by decide)

/-- A brace does not stay. -/
theorem not_brace (hg : groups) {c : Char} (hc : c = '{' ∨ c = '}') : ¬ Stays groups loose [c] := by
  have hnot : ¬ Group.isPlain c := by rcases hc with rfl | rfl <;> decide
  intro h
  generalize hx : [c] = x at h
  cases h with
  | char hmem _ hplain =>
    subst hx
    exact hnot (List.mem_singleton.mp hmem ▸ hplain hg)
  | front _ hplain =>
    obtain ⟨rfl, -⟩ := List.cons.inj hx
    exact hnot (hplain hg)
  | @blank _ s t b d _ _ hs hd _ _ =>
    have hmem : d ∈ [c] := hx ▸ List.mem_append_left (b :: t) hs
    exact hnot (List.mem_singleton.mp hmem ▸ hd)

end Stays

/-! ### Scripts that show no link -/

/-- The rules of scripts whose links are **all offered**: what stays keeps brackets apart, and assignments have no
brackets. What hooks print is quiet as long as the variables in `N` are tame, and assignments keep them so. -/
def offersLinks (w : Setting) (groups : Prop) (N : Text → Prop) : Rules where
  groups := groups
  solid := Stays groups
  solid_mono _ := Stays.mono
  whole := False
  shows _ := True
  prints m := m.WritesTame w groups N
  sets args := args.NoSquare ∧ Assignment.KeepsTame w.words groups N args
  asks _ := True

/-- What keeps brackets apart stays. -/
structure Rules.KeepApart (R : Rules) : Prop where
  stays : ∀ b x, R.solid b x → Stays R.groups b x
  whole : ¬ R.whole

section Stages

variable {R : Rules} (hR : R.KeepApart) {w : Setting} {p q : Spot} {s t : Text}
  (hp : p.bracket = some '[' → p.loose = true)

/-- Pieces keep links as they are, by texts that stay. -/
theorem Piece.keepsApart {x y : Text} (hR : R.KeepApart) (h : Piece R false p x y q) :
    Keeps (Stays R.groups) p x y q :=
  h.keeps hR.stays fun hw => absurd hw hR.whole

theorem Piece.keepsLinks {x y : Text} (hR : R.KeepApart) (h : Piece R false p x y q) : KeepsLinks p x y q :=
  (h.keepsApart hR).mono fun _ _ => Stays.ne_nil

include hR hp in
/-- **Setting groups** leaves links as they are. -/
theorem noLink_collapseGroups (h : Path (Piece R false) p s t q) :
    Link.find? s = none ↔ Link.find? (collapseGroups t) = none := by
  by_cases hg : R.groups
  · have hpath : Path KeepsLinks p s (collapseGroups t) q :=
      h.replace (fun _ _ _ _ hpiece => hpiece.keepsApart hR) (fun _ => id) Group.stays_square
        (fun _ _ _ hx hr => hx.ne_nil_of_group hg hr) (Group.replaces_collapseGroups t _)
    exact hpath.noLink_iff (fun _ _ _ _ => id) hp
  · rw [collapseGroups_eq hg (h.symm fun _ _ _ _ => Piece.symm)]
    exact h.noLink_iff (fun _ _ _ _ hpiece => hpiece.keepsLinks hR) hp

include hR hp in
/-- **Taking out assignments** that are left over leaves links as they are. -/
theorem noLink_stripSets (h : Path (Piece R false) p s t q) :
    Link.find? s = none ↔ Link.find? (stripSets t) = none := by
  have hpath : Path KeepsLinks p (id s) (stripSets t) q := by
    refine h.image rfl stripSets_nil fun p x y q hpiece => ?_
    refine ⟨?_, fun _ => rfl, hpiece.symm.stripSets_append⟩
    rcases hpiece.stripSets_eq with ⟨-, -, hy⟩ | ⟨hcross, hx, -, hy⟩
    · rw [hy]
      exact hpiece.keepsLinks hR
    · rw [hy]
      exact .free hx .nil (hcross.imp_right fun ⟨hw, _⟩ => absurd hw hR.whole)
  exact hpath.noLink_iff (fun _ _ _ _ => id) hp

/-- **Writing prints** leaves what keeps brackets apart, if no value has square brackets. -/
theorem resolvePrints_keeps (hR : R.KeepApart) (w : Setting)
    (h : Path (fun p x y q => Piece R false p x y q ∧ NoHead setNames x) p s t q) :
    Gives (fun t => Path (Keeps (Stays R.groups)) p s t q) (resolvePrints w s) := by
  -- One run beside itself, in which no variable has square brackets.
  have hpass : Related (fun r₁ r₂ : Run => r₁ = r₂ ∧ r₁.store.NoSquare)
      (fun s' _ => Path (Keeps (Stays R.groups)) p s s' q) (resolvePrints w s) (resolvePrints w t) := by
    rw [resolvePrints_eq_pass, resolvePrints_eq_pass]
    refine pass_prints_related (S := fun p s s' _ => Path (Keeps (Stays R.groups)) p s s' q)
      (fun _ _ _ _ h => ⟨h.1, .inr h.2⟩) (.nil q)
      (fun _ _ _ _ _ _ _ h hrest => .cons (h.1.keepsApart hR).left hrest) (fun p p' m _ hm _ hcross => ?_) h _
    rintro r _ ⟨rfl, hr⟩
    obtain ⟨hx, hr'⟩ := printMacro_noSquare w hm.whole.noSquare_source r hr
    refine ⟨fun _ _ _ hrest => .cons (.free hm.whole.noSquare_source hx ?_) hrest, rfl, hr'⟩
    exact hcross.imp_right fun ⟨hw, _⟩ => absurd hw hR.whole
  intro r hr
  obtain ⟨hpath, -, hr'⟩ := hpass r r ⟨rfl, hr⟩
  exact ⟨hpath, hr'⟩

include hp in
/-- **Writing variables** leaves links as they are, if no value has square brackets. -/
theorem noLink_substitute {groups : Prop} {σ : Snapshot} (hσ : σ.NoSquare)
    (h : Path (Keeps (Stays groups)) p s t q) :
    Link.find? s = none ↔ Link.find? (substitute σ t) = none := by
  have hpath : Path KeepsLinks p s (substitute σ t) q :=
    h.replace (fun _ _ _ _ => id) Inline.stays_mono Inline.stays_square
      (fun _ _ _ hx hr => hx.ne_nil_of_inline hr) (replaces_substitute hσ t _)
  exact hpath.noLink_iff (fun _ _ _ _ => id) hp

/-- **What is written for a text has no link**, if its brackets are kept apart and no value has any. -/
theorem written_noLink (hR : R.KeepApart) (hlined : R.Lined) (w : Setting)
    (h : Path (Piece R false) Spot.start s s q) :
    Gives (fun t => Link.find? t = none) (written w s) := by
  have hstart : Spot.start.bracket = some '[' → Spot.start.loose = true := fun _ => rfl
  obtain ⟨q', -, hlinks⟩ := h.strip (strips_piece fun b x hx => (hR.stays b x hx).ne_nil) rfl hstart
    (Spot.Eases.refl _) rfl
  have hgroups := collapseGroups_related hlined hlinks
  have hsets := stripSets_related (fun hw => absurd hw hR.whole) hgroups
  have hnone : Link.find? (stripSets (collapseGroups (Link.strip s))) = none :=
    (noLink_stripSets hR hstart hgroups).mp
      ((noLink_collapseGroups hR hstart hlinks).mp (Link.find?_strip s))
  rw [written]
  refine (resolvePrints_keeps hR w hsets).bind fun printed hprinted r hr => ?_
  exact ⟨(noLink_substitute hstart hr hprinted).mp hnone, hr⟩

end Stages

/-! ### Two runs that are one -/

/-- One run beside itself, in which some variables are tame and none has square brackets. -/
def Plainly (groups : Prop) (N : Text → Prop) (r₁ r₂ : Run) : Prop :=
  r₁ = r₂ ∧ r₁.store.Tame groups N ∧ r₁.store.NoSquare

variable {w : Setting} {groups : Prop} {N : Text → Prop}

/-- Assignments without brackets that keep variables tame keep a run so. -/
theorem runText_plainly {args : Text} (h : (offersLinks w groups N).sets args) :
    Related (Plainly groups N) Eq (Assignment.runText w.words args) (Assignment.runText w.words args) := by
  rintro r _ ⟨rfl, htame, hr⟩
  exact ⟨rfl, rfl, h.2 r htame, (Assignment.runText_noSquare w.words h.1 r hr).2⟩

/-- **A run keeps its variables tame and without brackets** by the rules of scripts that show no link. -/
theorem respects_offersLinks : (offersLinks w groups N).Respects w (Plainly groups N) where
  asks c _ := by
    rintro r _ ⟨rfl, hr⟩
    have hmade : Act.Made w.words (fun _ => True) (fun _ => False) (Condition.textHolds w c) :=
      Condition.textHolds_made w fun _ _ => trivial
    refine ⟨rfl, rfl, ?_⟩
    rw [hmade.store_eq]
    exact hr
  sets _ h := runText_plainly h
  prints m _ h := by
    rintro r _ ⟨rfl, hr⟩
    refine ⟨⟨h r hr.1, h r hr.1⟩, rfl, ?_⟩
    rw [printMacro_store]
    exact hr

end Script

open Script in
/-- **No link is shown** by a script within the limits: where like square brackets are kept apart by texts that
stay, and neither the values of the variables nor the arguments of macros have square brackets, the text of the
passage without filters has no link. What is printed in a hook has to be quiet, which is why the variables of a
class `N` are tame and stay so. -/
theorem Compiler.noLink_of_script {limits : Limits} {w : Setting} {p : PassageRecord} {groups : Prop}
    {N : Text → Prop} {s : Snapshot}
    (hsets : ∀ m ∈ outerSets p.body 0, (offersLinks w groups N).sets m.item.args)
    (hbody : Script (offersLinks w groups N) w.limits.maxReductions w.limits.maxDepth w.limits.maxReductions
      Spot.start (afterSets p.body) fun _ => True)
    (hs : s.NoSquare) (htame : s.Tame groups N) (used : ℕ) :
    Link.find? ((⟨[], limits⟩ : Compiler).compile w p s used).1.content = none ∧
      Link.choices ((⟨[], limits⟩ : Compiler).compile w p s used).1.content = [] := by
  let R : Rules := (offersLinks w groups N).behindLinks (Stays groups) fun _ => Stays.mono
  have hR : R.KeepApart := ⟨fun _ _ => id, id⟩
  have hlined : R.Lined := ⟨fun hg _ _ _ he hx => hx.lineFrom hg he,
    fun hg _ _ hc hx => absurd hx (Stays.not_brace hg hc), fun _ _ => id, fun _ _ => id⟩
  obtain ⟨⟨q, -, hpath⟩, -, -, hr⟩ := settled_related respects_offersLinks
    (fun m hm => runText_plainly (hsets m hm)) hbody ⟨s, used⟩ ⟨s, used⟩ ⟨rfl, htame, hs⟩
  have hpath : Path (Script.Piece R false) Spot.start _ _ q :=
    hpath.mono fun _ _ _ _ => Script.Piece.behindLinks fun _ _ => id
  have hfind : Link.find? ((⟨[], limits⟩ : Compiler).compile w p s used).1.content = none :=
    (Link.noLink_normalize _).mpr (written_noLink hR hlined w hpath _ hr).1
  exact ⟨hfind, by rw [Link.choices, Link.finder.found_cuts_of_eq_none hfind]; rfl⟩

open Script in
/-- A link is offered, and what stands around it is shown without one: brackets in a group, with a print and an
assignment that is left over, an inline variable, and a hook that prints between brackets. -/
theorem Compiler.noLink_of_script_bracketed :
    let inner : Text := "say: [(print: $v)]".toList
    let body : Text :=
      "(set: $x to true)[[Go->Cave]] { [see  [(print: $v) (set: $y to 1)]] } $v (IF: $x)\n[".toList ++
      inner ++ "](else:)[no]".toList
    let w : Setting := ⟨[], Table.empty, fun _ => 0, ⟨3, 2⟩⟩
    let s : Snapshot := Table.empty.insert "v".toList (.text "Ann".toList)
    let passage := ((⟨[], w.limits⟩ : Compiler).compile w ⟨"start".toList, [], body⟩ s 0).1
    passage.choices = [⟨"Go".toList, "Cave".toList⟩] ∧ passage.content = "[see [Ann ]] Ann say: [Ann]".toList ∧
      Link.choices passage.content = [] := by
  intro inner body w s passage
  let R : Rules := offersLinks w True (· = "v".toList)
  have hv : Text.IsVariable "v".toList := by decide +kernel
  have hs : s.NoSquare := by
    have hempty : Snapshot.NoSquare Table.empty := fun x v hx => by
      rw [Table.get?_empty] at hx
      cases hx
    exact hempty.insert _ (show Text.NoSquare _ by decide)
  have htame : s.Tame True (· = "v".toList) := by
    rintro x rfl u hu
    rw [Table.get?_insert, if_pos rfl] at hu
    obtain rfl := Option.some.inj hu
    exact show Quiet True "Ann".toList by decide +kernel
  have hprint : R.IsPrint (Doc.printCall "v".toList) :=
    ⟨Doc.whole_printCall hv, show NoBrace True _ by decide +kernel, trivial⟩
  have hnone : NoHead Conditional.names (Doc.printCall "v".toList).source := by decide +kernel
  have hprinted {room left : ℕ} {p : Spot} {t : Text} {ends : Spot → Prop}
      (h : Script R 3 room left p.thin t ends) :
      Script R 3 room left p ((Doc.printCall "v".toList).source ++ t) ends :=
    .piece (.print hprint (.inl rfl) (.inr ⟨writesTame_printCall w True rfl hv, rfl⟩)) hnone h
  have htext {room left : ℕ} {p : Spot} {t : Text} {ends : Spot → Prop} (x : Text)
      (hx : Quiet True x ∧ NoHead Conditional.names x) (h : Script R 3 room left p.thin t ends) :
      Script R 3 room left p (x ++ t) ends :=
    .text hx.1 hx.2 (.inl rfl) h
  have hsolid {room left : ℕ} {p : Spot} {t : Text} {ends : Spot → Prop} {x : Text}
      (hstays : Stays True p.loose x) (hx : Quiet True x ∧ NoHead Conditional.names x)
      (h : Script R 3 room left p.solid t ends) : Script R 3 room left p (x ++ t) ends :=
    .text hx.1 hx.2 (.inr ⟨hstays, hstays, rfl⟩) h
  have hinner {p : Spot} : Script R 3 1 3 p.within inner fun q => q.depth = 0 := by
    have heq : inner = "say: ".toList ++ (['['] ++ ((Doc.printCall "v".toList).source ++ ([']'] ++ []))) := by
      decide +kernel
    have hcolon (b : Bool) : Stays True b "say: ".toList :=
      .char (c := ':') (by decide) ⟨by decide, fun _ => by decide⟩ fun _ => by decide
    rw [heq]
    refine hsolid (hcolon _) (by decide +kernel) (Script.opens (Spot.allows_of_none rfl) ?_)
    exact hprinted (Script.closes 0 rfl (Spot.allows_of_ne rfl (by decide)) (.done rfl))
  have hbody : Script R 3 2 3 Spot.start (afterSets body) fun _ => True := by
    have heq : afterSets body = ['['] ++ (['['] ++ ("Go->Cave".toList ++ ([']'] ++ ([']'] ++ (" ".toList ++
        (['{'] ++ (" ".toList ++ (['['] ++ ("see  ".toList ++ (['['] ++ ((Doc.printCall "v".toList).source ++
        (" ".toList ++ ((⟨"set".toList, " $y to 1".toList⟩ : Invocation).source ++ ([']'] ++ ([']'] ++
        (" ".toList ++ (['}'] ++ (" $v ".toList ++ ((Conditional.chain
          ⟨⟨[], some ⟨"IF".toList, " $x".toList⟩, ⟨"\n".toList, inner⟩⟩,
            [⟨[], some ⟨"else".toList, []⟩, ⟨[], "no".toList⟩⟩]⟩).source ++ []))))))))))))))))))) := by
      decide +kernel
    have hset : NoBrace True ⟨"set".toList, " $y to 1".toList⟩ := by decide +kernel
    -- Right behind a bracket a text stays.
    have hfront : Stays True false "see  ".toList := .front (by decide) fun _ => by decide
    rw [heq]
    refine Script.opens (Spot.allows_of_none rfl) (Script.opens (Spot.allows_of_tight rfl) ?_)
    refine htext _ (by decide +kernel) (Script.closes ⊤ rfl (Spot.allows_of_ne rfl (by decide)) ?_)
    refine Script.closes ⊤ rfl (Spot.allows_of_tight rfl) ?_
    refine htext _ (by decide +kernel) (.brace trivial (.inl rfl) (.inl rfl) (htext _ (by decide +kernel) ?_))
    refine Script.opens (Spot.allows_of_ne rfl (by decide)) ?_
    refine hsolid hfront (by decide +kernel) (Script.opens (Spot.allows_of_none rfl) ?_)
    refine hprinted (htext _ (by decide +kernel) ?_)
    refine .piece (.kept ⟨by decide +kernel, hset⟩ (by simp) (.inl rfl) (.inl rfl))
      (by decide +kernel) ?_
    refine Script.closes ⊤ rfl (Spot.allows_of_ne rfl (by decide)) ?_
    refine Script.closes ⊤ rfl (Spot.allows_of_tight rfl) (htext _ (by decide +kernel) ?_)
    refine .brace trivial (.inr rfl) (.inl rfl) (htext _ (by decide +kernel) ?_)
    refine .item (fun q => q.depth = 0) (by simp) (by decide +kernel) (fun _ _ => trivial) ?_ (fun _ => id)
      (.done trivial) fun _ _ => .done trivial
    intro b hb
    rcases List.mem_cons.mp hb with rfl | hb
    · exact hinner
    · obtain rfl := List.mem_singleton.mp hb
      exact htext (t := []) "no".toList (by decide +kernel) (.done rfl)
  have hsets : ∀ m ∈ outerSets body 0, R.sets m.item.args := by
    have hargs : (outerSets body 0).map (·.item.args) = [" $x to true".toList] := by decide +kernel
    intro m hm
    have hmem : m.item.args ∈ (outerSets body 0).map (·.item.args) := List.mem_map_of_mem hm
    rw [hargs, List.mem_singleton] at hmem
    rw [hmem]
    refine ⟨show Text.NoSquare " $x to true".toList by decide, Assignment.keepsTame_of_not_mem ?_⟩
    decide +kernel
  refine ⟨by decide +kernel, by decide +kernel, ?_⟩
  exact (noLink_of_script (p := ⟨"start".toList, [], body⟩) hsets hbody hs htame 0).2

/-- Each of the stages behind the links may show one: braces and an assignment that are taken out bring brackets
together, an assignment takes away the brackets that kept a link from being read, and a variable is written
with a link in its value. -/
theorem Compiler.shown_links :
    let shown : Text → Snapshot → List Choice := fun body snapshot =>
      let c : Compiler := {}
      Link.choices (c.compile (c.setting [] Table.empty fun _ => 0) ⟨[], [], body⟩ snapshot 0).1.content
    let v : Snapshot := Table.empty.insert "v".toList (.text "[[a]]".toList)
    shown "[{[a]}]".toList Table.empty = [⟨['a'], ['a']⟩] ∧
      shown "[(set: $x to 1)[a]]".toList Table.empty = [⟨['a'], ['a']⟩] ∧
      shown "[(set: $x to \"[[[\")][[a]]".toList Table.empty = [⟨['a'], ['a']⟩] ∧
      shown "(print: $v)".toList v = [⟨['a'], ['a']⟩] ∧ shown "$v".toList v = [⟨['a'], ['a']⟩] := by
  decide +kernel

end Hyperfiction

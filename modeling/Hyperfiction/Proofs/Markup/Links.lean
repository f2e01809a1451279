import Mathlib.Data.List.Infix
import Hyperfiction.Markup.Link
import Hyperfiction.Proofs.Markup.Found
import Hyperfiction.Proofs.Text.Occurrence

/-!
# Texts with plain links

What a passage becomes is its text with pieces taken out, and its links are read only then. A bracket may
come to stand beside another one, half a link may be gone, the name of a macro may be completed. A
**tidy** text rules this out: all its links are plain (`Link.Plain`), no macro of a later branch stands
right behind a square bracket, and no name behind a round bracket ends where something may be taken out.
Tidy texts may be joined (`Tidy.append`), cut where a macro or a hook begins or ends (`Tidy.of_begins`,
`Tidy.of_hook`), and all links found in one are links that its suffixes begin with (`Tidy.found`,
`Tidy.exists_found`).
-/

namespace Hyperfiction

/-- A suffix of two texts is one of the second, or begins in the first. -/
theorem suffix_append_cases {s t v : Text} (h : v <:+ s ++ t) :
    v <:+ t ∨ ∃ w, w ≠ [] ∧ w <:+ s ∧ v = w ++ t := by
  induction s with
  | nil => exact .inl h
  | cons c s ih =>
    rcases List.suffix_cons_iff.mp h with rfl | h
    · exact .inr ⟨c :: s, by simp, List.suffix_rfl, rfl⟩
    · exact (ih h).imp_right fun ⟨w, hne, hw, hv⟩ => ⟨w, hne, hw.trans (List.suffix_cons c s), hv⟩

/-! ### Heads at the front of a text -/

namespace Invocation

/-- A head of one of the macros stands at the front of the text. -/
def Begins (names : List Text) (t : Text) : Prop := (head? t).any fun h => isNamed names h.1

instance (names : List Text) (t : Text) : Decidable (Begins names t) :=
  inferInstanceAs (Decidable (_ = true))

/-- A text begins a macro if the name in its head is one of the names. -/
theorem begins_iff {names : List Text} {t : Text} :
    Begins names t ↔ ∃ name u, head? t = some (name, u) ∧ isNamed names name := by
  simp [Begins, Option.any_eq_true]

theorem Begins.head?_eq {names : List Text} {t : Text} (h : Begins names t) : t.head? = some '(' := by
  obtain ⟨name, u, hhead, -⟩ := begins_iff.mp h
  simp [eq_append_of_head? hhead]

/-- A head at the front stays whatever follows. -/
theorem Begins.append {names : List Text} {t : Text} (h : Begins names t) (u : Text) :
    Begins names (t ++ u) := by
  obtain ⟨name, v, hhead, hn⟩ := begins_iff.mp h
  exact begins_iff.mpr ⟨name, v ++ u, head?_append_of_some hhead u, hn⟩

/-- A head that does not reach across a joint is at the front already. -/
theorem Begins.of_append {names : List Text} {t u : Text} (h : Begins names (t ++ u))
    (ha : Apart t u) (hne : t ≠ []) : Begins names t := by
  obtain ⟨c, t, rfl⟩ := List.exists_cons_of_ne_nil hne
  obtain ⟨name, v, hhead, hn⟩ := begins_iff.mp h
  rw [head?_append ha, Option.map_eq_some_iff] at hhead
  obtain ⟨p, hp, hpv⟩ := hhead
  obtain ⟨rfl, -⟩ := Prod.mk.inj hpv
  exact begins_iff.mpr ⟨p.1, p.2, hp, hn⟩

theorem Begins.mono {names more : List Text} {t : Text} (hsub : names ⊆ more)
    (h : Begins names t) : Begins more t := by
  obtain ⟨name, u, hhead, hn⟩ := begins_iff.mp h
  refine begins_iff.mpr ⟨name, u, hhead, ?_⟩
  simp only [isNamed, List.contains_eq_mem, decide_eq_true_eq] at hn ⊢
  exact hsub hn

theorem NoHead.not_begins {names : List Text} {t : Text} (h : NoHead names t) : ¬ Begins names t := by
  intro hb
  obtain ⟨name, u, hhead, hn⟩ := begins_iff.mp hb
  exact absurd hn (by simp [h.isNamed_eq_false hhead])

end Invocation

namespace Link

open Invocation

/-! ### Plain links -/

/-- The names of the macros that are taken out of a text: assignments, and those of chains and guards. -/
def macroNames : List Text := setNames ++ Conditional.names ++ Orphan.names

/-- The inside of a link is **plain** when none of its square brackets can be taken for one of the link,
it closes those it opens, and it begins none of the macros that are taken out of texts. -/
structure Plain (inner : Text) : Prop where
  opens : Text.breakOn? (opening false) ('[' :: inner) = none
  closes : Text.breakOn? (closing false) (inner ++ [']']) = none
  balanced : Bracket.square.Balanced inner
  noHead : NoHead macroNames inner

instance (inner : Text) : Decidable (Plain inner) :=
  decidable_of_iff (Text.breakOn? (opening false) ('[' :: inner) = none ∧
      Text.breakOn? (closing false) (inner ++ [']']) = none ∧ Bracket.square.Balanced inner ∧
      NoHead macroNames inner)
    ⟨fun ⟨ho, hc, hb, hn⟩ => ⟨ho, hc, hb, hn⟩, fun ⟨ho, hc, hb, hn⟩ => ⟨ho, hc, hb, hn⟩⟩

/-- Double brackets are opened where a link begins and nowhere later in it. -/
private theorem Plain.not_opening {inner w u : Text} (h : Plain inner) (hw : w <:+ '[' :: inner)
    (hne : w ≠ []) : ¬ opening false <+: w ++ ']' :: u := by
  intro hopen
  match w, hne with
  | [c], _ =>
    obtain ⟨v, hv⟩ := hopen
    simp [opening] at hv
  | c :: d :: w, _ =>
    refine Text.breakOn?_eq_none_iff.mp h.opens _ hw ?_
    exact List.prefix_of_prefix_length_le hopen ⟨']' :: u, rfl⟩ (by simp [opening])

/-- No closing sign of a link begins in its plain inside. -/
private theorem Plain.not_closing {inner w u : Text} (h : Plain inner) (hw : w <:+ inner)
    (hne : w ≠ []) : ¬ closing false <+: w ++ ']' :: u := by
  intro hclose
  obtain ⟨x, rfl⟩ := hw
  have hsuffix : w ++ [']'] <:+ x ++ w ++ [']'] := ⟨x, by simp⟩
  refine Text.breakOn?_eq_none_iff.mp h.closes _ hsuffix ?_
  refine List.prefix_of_prefix_length_le hclose ⟨u, by simp⟩ ?_
  have := List.length_pos_iff.mpr hne
  simp [closing]
  omega

/-- Double brackets stand in a link at its front, and behind the first of three brackets. -/
private theorem Plain.eq_of_opening {l : Link} (h : Plain l.inner) {w u : Text} (hw : w <:+ l.source)
    (hne : w ≠ []) (hopen : opening false <+: w ++ u) :
    w = l.source ∨ l.triple = true ∧ w = (⟨false, l.inner⟩ : Link).source ++ [']'] := by
  obtain ⟨triple, inner⟩ := l
  have hnot : ¬ w <:+ '[' :: inner ++ closing triple := by
    intro hw
    rcases suffix_append_cases hw with hw | ⟨v, hv', hv, rfl⟩
    · obtain ⟨c, w, rfl⟩ := List.exists_cons_of_ne_nil hne
      have hc : c = ']' := by
        have hmem : c ∈ closing triple := hw.subset List.mem_cons_self
        cases triple <;> simpa [closing] using hmem
      obtain ⟨v, hv⟩ := hopen
      simp [opening, hc] at hv
    · cases triple with
      | false => exact h.not_opening hv hv' (u := ']' :: u) (by simpa [closing] using hopen)
      | true => exact h.not_opening hv hv' (u := ']' :: ']' :: u) (by simpa [closing] using hopen)
  cases triple with
  | false =>
    rcases List.suffix_cons_iff.mp hw with rfl | hw
    · exact .inl rfl
    · exact absurd hw hnot
  | true =>
    rcases List.suffix_cons_iff.mp hw with rfl | hw
    · exact .inl rfl
    · rcases List.suffix_cons_iff.mp hw with rfl | hw
      · exact .inr ⟨rfl, by simp [source, opening, closing]⟩
      · exact absurd hw hnot

theorem Plain.head?_ne {inner : Text} (h : Plain inner) : inner.head? ≠ some '[' := by
  intro hhead
  obtain ⟨v, rfl⟩ : ∃ v, inner = '[' :: v := by cases inner <;> simp_all
  exact h.not_opening (u := []) List.suffix_rfl (by simp) ⟨v ++ [']'], by simp [opening]⟩

/-- **A plain link is found** where its source stands. -/
theorem find?_source_append {l : Link} (h : Plain l.inner) (u : Text) :
    find? (l.source ++ u) = some ([], l, u) := by
  obtain ⟨triple, inner⟩ := l
  have hclose : ∀ b : Bool, Text.breakOn? (closing b) (inner ++ (closing b ++ u)) = some (inner, u) := by
    intro b
    refine Text.breakOn?_eq_some_iff.mpr ⟨rfl, fun w hw hne hclosing => ?_⟩
    cases b with
    | false => exact h.not_closing hw hne hclosing
    | true => exact h.not_closing hw hne (List.IsPrefix.trans ⟨[']'], rfl⟩ hclosing)
  cases triple with
  | false =>
    have hbreak : Text.breakOn? (opening false) (opening false ++ (inner ++ (closing false ++ u))) =
        some ([], inner ++ (closing false ++ u)) :=
      Text.breakOn?_eq_some_iff.mpr ⟨rfl, fun w hw hne => absurd (List.suffix_nil.mp hw) hne⟩
    have hafter : Text.after? (inner ++ (closing false ++ u)) ['['] = none := by
      cases inner with
      | nil => rfl
      | cons c inner =>
        have hc : c ≠ '[' := by simpa using h.head?_ne
        simp [Text.after?, hc]
    simp only [source, List.append_assoc, find?, hbreak, hafter, hclose]
    rfl
  | true =>
    have hbreak : Text.breakOn? (opening false) (opening true ++ (inner ++ (closing true ++ u))) =
        some ([], '[' :: (inner ++ (closing true ++ u))) :=
      Text.breakOn?_eq_some_iff.mpr ⟨rfl, fun w hw hne => absurd (List.suffix_nil.mp hw) hne⟩
    have hafter : Text.after? ('[' :: (inner ++ (closing true ++ u))) ['['] =
        some (inner ++ (closing true ++ u)) := Text.after?_eq_some.mpr rfl
    simp only [source, List.append_assoc, find?, hbreak, hafter, hclose]
    rfl

/-- A link stands in brackets that match. -/
private theorem Plain.exists_source {l : Link} (h : Plain l.inner) :
    ∃ t, l.source = '[' :: t ++ [']'] ∧ Bracket.square.Balanced t := by
  obtain ⟨triple, inner⟩ := l
  cases triple with
  | false => exact ⟨_, by simp [source, opening, closing, Bracket.opener, Bracket.closer],
      Bracket.Balanced.enclosed h.balanced⟩
  | true => exact ⟨_, by simp [source, opening, closing, Bracket.opener, Bracket.closer],
      Bracket.Balanced.enclosed (Bracket.Balanced.enclosed h.balanced)⟩

/-- No part at the front of a link closes all the brackets that it opens. -/
theorem Plain.depth?_ne {l : Link} (h : Plain l.inner) {w z : Text} (hsource : l.source = w ++ z)
    (hw : w ≠ []) (hz : z ≠ []) (n : Nat) : Bracket.square.depth? n w ≠ some 0 := by
  obtain ⟨t, ht, hbalanced⟩ := h.exists_source
  obtain ⟨c, w, rfl⟩ := List.exists_cons_of_ne_nil hw
  obtain ⟨z, d, rfl⟩ := List.eq_nil_or_concat z |>.resolve_left hz
  rw [ht] at hsource
  obtain ⟨rfl, hrest⟩ : '[' = c ∧ t ++ [']'] = w ++ z ++ [d] := by simpa using hsource
  obtain ⟨rfl, -⟩ := List.append_inj' hrest rfl
  -- Behind the first bracket the depth is one higher than in the brackets, where it is never below 0.
  unfold Bracket.Balanced at hbalanced
  rw [Bracket.depth?_append] at hbalanced
  obtain ⟨k, hk, -⟩ := Option.bind_eq_some_iff.mp hbalanced
  have hopen : Bracket.square.step? n '[' = some (n + 1) := by simp [Bracket.step?, Bracket.opener]
  have hdepth := Bracket.depth?_add hk (n + 1)
  rw [Nat.zero_add] at hdepth
  rw [Bracket.depth?_cons, hopen, Option.bind_some, hdepth]
  simp

theorem sealed_source (l : Link) : Sealed l.source := by
  obtain ⟨triple, inner⟩ := l
  cases triple with
  | false => simpa [source, closing] using
      sealed_append_singleton (by decide) (by decide) (opening false ++ inner ++ [']'])
  | true => simpa [source, closing] using
      sealed_append_singleton (by decide) (by decide) (opening true ++ inner ++ [']', ']'])

theorem Plain.noHead_source {l : Link} (h : Plain l.inner) : NoHead macroNames l.source := by
  have hopening : '(' ∉ opening l.triple := by cases l.triple <;> decide
  have hclosing : '(' ∉ closing l.triple := by cases l.triple <;> decide
  have hstops : Stops (closing l.triple) := by
    cases l.triple <;> exact ⟨']', _, rfl, by decide, by decide⟩
  have hlead : NoHead macroNames (opening l.triple ++ l.inner) :=
    (noHead_of_not_mem hopening).append (.inl (sealed_of_not_mem hopening)) h.noHead
  exact hlead.append (.inr hstops) (noHead_of_not_mem hclosing)

end Link

/-! ### Tidy texts -/

open Invocation

/-- Behind the characters of a name that the text begins with, it goes on with text that stays. -/
def Firm (t : Text) : Prop :=
  ∀ c u, t.dropWhile isNameChar = c :: u → c ≠ ']' ∧ ¬ Begins Link.macroNames (c :: u)

instance (t : Text) : Decidable (Firm t) :=
  match h : t.dropWhile isNameChar with
  | [] => .isTrue fun c u hu => by simp [h] at hu
  | c :: u => decidable_of_iff (c ≠ ']' ∧ ¬ Begins Link.macroNames (c :: u))
      ⟨fun hc d v hd => by obtain ⟨rfl, rfl⟩ := List.cons.inj (h.symm.trans hd); exact hc,
        fun hf => hf c u h⟩

/-- A text is **tidy** when nothing in it changes its meaning where pieces between macros and hooks are
taken out: it begins no printing macro, double brackets open links whose inside is as `ok` says, no macro
of a later branch stands right behind a square bracket, and what may be the front of a head is followed
by text that stays. -/
structure Tidy (ok : Text → Prop) (t : Text) : Prop where
  noPrint : NoHead printNames t
  link : ∀ v, v <:+ t → Link.opening false <+: v → ∃ l u, v = Link.source l ++ u ∧ ok l.inner
  noOrphan : ∀ v, '[' :: v <:+ t → ¬ Begins Orphan.names v
  firm : ∀ v, '(' :: v <:+ t → Firm v

/-- A text is **closed** when no head and no link begins in it and ends behind it. -/
structure Closed (t : Text) : Prop where
  isSealed : Sealed t
  getLast?_ne : t.getLast? ≠ some '['

theorem closed_nil : Closed [] := ⟨sealed_nil, by simp⟩

/-- A closed text may follow a sealed one, unless it is empty and a square bracket stands in front. -/
theorem Closed.append_of_sealed {s t : Text} (hs : Sealed s) (hne : s.getLast? = some '[' → t ≠ [])
    (ht : Closed t) : Closed (s ++ t) := by
  refine ⟨hs.append ht.isSealed, ?_⟩
  cases t with
  | nil => simpa using fun h => hne h rfl
  | cons c t => simpa [List.getLast?_append] using ht.getLast?_ne

theorem Closed.of_append {s t : Text} (h : Closed (s ++ t)) : Closed t := by
  refine ⟨h.isSealed.of_append, ?_⟩
  cases t with
  | nil => simp
  | cons c t => simpa [List.getLast?_append] using h.getLast?_ne

/-- A text is **blunt** when it begins with no opening bracket. -/
def Blunt (t : Text) : Prop := t.head? ≠ some '[' ∧ t.head? ≠ some '('

instance (t : Text) : Decidable (Blunt t) := inferInstanceAs (Decidable (_ ∧ _))

theorem blunt_nil : Blunt [] := by decide

/-- A blunt text may stand behind a square bracket: it opens no link with it, and begins no macro. -/
theorem Blunt.not_begins {names : List Text} {t : Text} (h : Blunt t) : ¬ Begins names t :=
  fun hbegins => h.2 hbegins.head?_eq

/-- In a blunt text something stands in front of a macro, and it stays blunt whatever follows. -/
theorem Blunt.of_begins {names : List Text} {s v : Text} (h : Blunt (s ++ v)) (hv : Begins names v)
    (w : Text) : Blunt (s ++ w) := by
  cases s with
  | nil => exact absurd hv h.not_begins
  | cons c s => exact h

private theorem getLast?_of_suffix {s : Text} {c : Char} (h : [c] <:+ s) : s.getLast? = some c := by
  obtain ⟨x, rfl⟩ := h
  exact List.getLast?_concat

/-- Behind the name at its front a text goes on as it does before another one. -/
private theorem dropWhile_append_of_mem {w : Text} (h : ∃ d ∈ w, ¬ isNameChar d) :
    ∃ c x, w.dropWhile isNameChar = c :: x ∧
      ∀ t : Text, (w ++ t).dropWhile isNameChar = c :: x ++ t := by
  obtain ⟨d, hd, hn⟩ := h
  cases hw : w.dropWhile isNameChar with
  | nil => exact absurd (List.dropWhile_eq_nil_iff.mp hw d hd) hn
  | cons c x => exact ⟨c, x, rfl, fun t => by simp [List.dropWhile_append, hw]⟩

namespace Tidy

variable {ok : Text → Prop}

theorem of_suffix {t v : Text} (h : Tidy ok t) (hv : v <:+ t) : Tidy ok v where
  noPrint := by
    obtain ⟨u, rfl⟩ := hv
    exact h.noPrint.of_append
  link w hw := h.link w (hw.trans hv)
  noOrphan w hw := h.noOrphan w (hw.trans hv)
  firm w hw := h.firm w (hw.trans hv)

theorem of_append {s t : Text} (h : Tidy ok (s ++ t)) : Tidy ok t := h.of_suffix ⟨s, rfl⟩

/-- **Tidy texts may be joined** behind a sealed one, unless a square bracket at its end meets a bracket. -/
theorem append {s t : Text} (hs : Tidy ok s) (hsealed : Sealed s)
    (hmeet : s.getLast? = some '[' → Blunt t) (ht : Tidy ok t) : Tidy ok (s ++ t) := by
  refine ⟨hs.noPrint.append (.inl hsealed) ht.noPrint, fun v hv hopen => ?_, fun v hv => ?_,
    fun v hv => ?_⟩
  · rcases suffix_append_cases hv with hv | ⟨w, hne, hw, rfl⟩
    · exact ht.link v hv hopen
    · obtain ⟨l, u, rfl, hl⟩ : ∃ l u, w = Link.source l ++ u ∧ ok l.inner := by
        refine hs.link w hw ?_
        match w, hne with
        | [c], _ =>
          -- One bracket is the last character of the first text, and the other one begins the second.
          obtain ⟨x, hx⟩ := hopen
          obtain ⟨rfl, rfl⟩ : '[' = c ∧ '[' :: x = t := by simpa [Link.opening] using hx
          exact absurd rfl (hmeet (getLast?_of_suffix hw)).1
        | c :: d :: w, _ =>
          exact List.prefix_of_prefix_length_le hopen ⟨t, rfl⟩ (by simp [Link.opening])
      exact ⟨l, u ++ t, by simp, hl⟩
  · rcases suffix_append_cases hv with hv | ⟨w, hne, hw, hvw⟩
    · exact ht.noOrphan v hv
    · obtain ⟨c, w, rfl⟩ := List.exists_cons_of_ne_nil hne
      obtain ⟨rfl, rfl⟩ := List.cons.inj hvw
      intro hbegins
      by_cases hnil : w = []
      · subst hnil
        exact (hmeet (getLast?_of_suffix hw)).not_begins hbegins
      · obtain ⟨x, rfl⟩ := hw
        exact hs.noOrphan w ⟨x, rfl⟩ (hbegins.of_append (.inl hsealed.of_append.of_cons) hnil)
  · rcases suffix_append_cases hv with hv | ⟨w, hne, hw, hvw⟩
    · exact ht.firm v hv
    · obtain ⟨c, w, rfl⟩ := List.exists_cons_of_ne_nil hne
      obtain ⟨rfl, rfl⟩ := List.cons.inj hvw
      obtain ⟨x, rfl⟩ := hw
      have hparen : Sealed ('(' :: w) := hsealed.of_append
      obtain ⟨c, y, hdrop, happ⟩ := dropWhile_append_of_mem hparen.exists_mem
      intro c' u hcu
      obtain ⟨rfl, rfl⟩ := List.cons.inj ((happ t).symm.trans hcu)
      obtain ⟨hc, hnot⟩ := hs.firm w ⟨x, rfl⟩ _ _ hdrop
      have hrest : Sealed (c :: y) := by
        rw [← hdrop]
        rw [← List.takeWhile_append_dropWhile (p := isNameChar) (l := w)] at hparen
        exact hparen.of_cons.of_append
      exact ⟨hc, fun hb => hnot (Begins.of_append (t := c :: y) hb (.inl hrest) (by simp))⟩

/-- Where a text is cut in front of something that is taken out, no link is cut in two. -/
private theorem of_cut {s v : Text} (h : Tidy ok (s ++ v))
    (hv : v.head? = some ']' ∨ Begins Link.macroNames v)
    (hlink : ∀ w l z x, w <:+ s → w ≠ [] → z ≠ [] → ok l.inner → Link.source l = w ++ z → v ≠ z ++ x) :
    Tidy ok s ∧ Sealed s := by
  have hsuffix {w : Text} (hw : w <:+ s) : w ++ v <:+ s ++ v := by
    obtain ⟨x, rfl⟩ := hw
    exact ⟨x, by simp⟩
  -- A name behind a round bracket that reached the cut would be followed by what is taken out.
  have hname : ∀ w, '(' :: w <:+ s → ∃ d ∈ w, ¬ isNameChar d := by
    intro w hw
    by_contra hnone
    have hall : ∀ d ∈ w, isNameChar d := fun d hd => by
      by_contra hn
      exact hnone ⟨d, hd, hn⟩
    have hhead : ∃ c u, v = c :: u ∧ isNameChar c = false := by
      have hfirst : v.head? = some ']' ∨ v.head? = some '(' := hv.imp_right Begins.head?_eq
      cases v with
      | nil => simp at hfirst
      | cons c u =>
        have hc : c = ']' ∨ c = '(' := by simpa using hfirst
        exact ⟨c, u, rfl, by rcases hc with rfl | rfl <;> decide⟩
    obtain ⟨c, u, rfl, hc⟩ := hhead
    have hdrop : (w ++ c :: u).dropWhile isNameChar = c :: u := by
      simp [List.dropWhile_append_of_pos hall, hc]
    obtain ⟨hne, hnot⟩ := h.firm _ (hsuffix hw) c u hdrop
    rcases hv with hv | hv
    · exact hne (by simpa using hv)
    · exact hnot hv
  refine ⟨⟨h.noPrint.of_append_left, fun w hw hopen => ?_, fun w hw hb => ?_, fun w hw c u hcu => ?_⟩,
    fun u w hs => hname w ⟨u, hs.symm⟩⟩
  · obtain ⟨l, x, heq, hl⟩ := h.link _ (hsuffix hw) (hopen.trans ⟨v, rfl⟩)
    rcases List.append_eq_append_iff.mp heq with ⟨z, hsource, hz⟩ | ⟨u, rfl, -⟩
    · have hne : w ≠ [] := by
        rintro rfl
        simp [Link.opening] at hopen
      by_cases hz' : z = []
      · exact ⟨l, [], by simp [hsource, hz'], hl⟩
      · exact absurd hz (hlink w l z x hw hne hz' hl hsource)
    · exact ⟨l, u, rfl, hl⟩
  · exact h.noOrphan _ (hsuffix hw) (hb.append v)
  · obtain ⟨c', x, hdrop, happ⟩ := dropWhile_append_of_mem (hname w hw)
    obtain ⟨rfl, rfl⟩ := List.cons.inj (hdrop.symm.trans hcu)
    obtain ⟨hc, hnot⟩ := h.firm _ (hsuffix hw) _ _ (happ v)
    exact ⟨hc, fun hb => hnot (hb.append v)⟩

/-- **A tidy text is cut in front of a macro**: what stands there is tidy and sealed. -/
theorem of_begins (hok : ∀ inner, ok inner → Link.Plain inner) {s v : Text} (h : Tidy ok (s ++ v))
    (hv : Begins Link.macroNames v) : Tidy ok s ∧ Sealed s := by
  refine h.of_cut (.inr hv) fun w l z x _ _ hz hl hsource => ?_
  rintro rfl
  -- The macro would begin in the link, whose inside begins none.
  have hlink := (hok _ hl).noHead_source
  have hsealed := Link.sealed_source l
  rw [hsource] at hlink hsealed
  exact hlink.of_append.not_begins (hv.of_append (.inl hsealed.of_append) hz)

/-- **A hook of a tidy text** has a tidy body, which is closed. -/
theorem of_hook (hok : ∀ inner, ok inner → Link.Plain inner) {body v : Text}
    (h : Tidy ok (body ++ ']' :: v)) (hbalanced : Bracket.square.Balanced body) :
    Tidy ok body ∧ Closed body := by
  have hdepth : ∀ w, w <:+ body → ∃ n, Bracket.square.depth? n w = some 0 := by
    rintro w ⟨x, rfl⟩
    unfold Bracket.Balanced at hbalanced
    rw [Bracket.depth?_append] at hbalanced
    obtain ⟨n, -, hn⟩ := Option.bind_eq_some_iff.mp hbalanced
    exact ⟨n, hn⟩
  obtain ⟨htidy, hsealed⟩ := h.of_cut (.inl rfl) fun w l z x hw hne hz hl hsource _ => by
    obtain ⟨n, hn⟩ := hdepth w hw
    exact (hok _ hl).depth?_ne hsource hne hz n hn
  refine ⟨htidy, hsealed, fun hlast => ?_⟩
  obtain ⟨n, hn⟩ := hdepth ['['] (by
    obtain ⟨x, hx⟩ := List.getLast?_eq_some_iff.mp hlast
    exact ⟨x, hx.symm⟩)
  simp [Bracket.depth?, Bracket.step?, Bracket.opener] at hn

/-! ### The links of a tidy text -/

private theorem opening_prefix_source (l : Link) : Link.opening false <+: l.source := by
  cases h : l.triple with
  | false => exact ⟨l.inner ++ Link.closing false, by simp [Link.source, h]⟩
  | true => exact ⟨'[' :: (l.inner ++ Link.closing true), by simp [Link.source, Link.opening, h]⟩

/-- The search for links ends at the first double bracket: there is none, or a link begins there. -/
private theorem find?_cases (hok : ∀ inner, ok inner → Link.Plain inner) {t : Text} (h : Tidy ok t) :
    (Link.finder.find? t = none ∧ ∀ v, v <:+ t → ¬ Link.opening false <+: v) ∨
      ∃ b l u, Link.finder.find? t = some (b, l, u) ∧ ok l.inner ∧
        ∀ w, w <:+ b → w ≠ [] → ¬ Link.opening false <+: w ++ (l.source ++ u) := by
  cases hbreak : Text.breakOn? (Link.opening false) t with
  | none =>
    left
    refine ⟨?_, Text.breakOn?_eq_none_iff.mp hbreak⟩
    change Link.find? t = none
    simp [Link.find?, hbreak]
  | some p =>
    right
    obtain ⟨b, x⟩ := p
    obtain ⟨rfl, hfirst⟩ := Text.breakOn?_eq_some_iff.mp hbreak
    obtain ⟨l, u, hlink, hl⟩ := h.link (Link.opening false ++ x) ⟨b, rfl⟩ ⟨x, rfl⟩
    have hfront : Text.breakOn? (Link.opening false) (Link.opening false ++ x) = some ([], x) :=
      Text.breakOn?_eq_some_iff.mpr ⟨rfl, fun w hw hne => absurd (List.suffix_nil.mp hw) hne⟩
    have hfind := Link.find?_source_append (hok _ hl) u
    rw [← hlink] at hfind
    refine ⟨b, l, u, ?_, hl, by rwa [hlink] at hfirst⟩
    change Link.find? _ = _
    simp only [Link.find?, hbreak]
    simp only [Link.find?, hfront] at hfind
    split at hfind <;> simp_all

/-- **Each link that is found** in a tidy text has an inside as expected. -/
theorem found (hok : ∀ inner, ok inner → Link.Plain inner) {t : Text} (h : Tidy ok t) {l : Link}
    (hl : l ∈ (Link.finder.cuts t).found) : ok l.inner := by
  rcases h.find?_cases hok with ⟨hnone, -⟩ | ⟨b, l', u, hfind, hl', -⟩
  · rw [Link.finder.cuts_of_find?_eq_none hnone] at hl
    simp [Cuts.found] at hl
  · have := Link.finder.length_lt hfind
    rw [Link.finder.cuts_of_find?_eq_some hfind, Cuts.found, List.map_cons, List.mem_cons] at hl
    rcases hl with rfl | hl
    · exact hl'
    · rw [Link.finder.eq_append hfind] at h
      exact found hok h.of_append.of_append hl
termination_by t.length

/-- **The inside of each link of a tidy text is found**, also of one that begins with the second bracket
of a link with three. -/
theorem exists_found (hok : ∀ inner, ok inner → Link.Plain inner) {t : Text} (h : Tidy ok t)
    {l : Link} {x : Text} (hl : Link.Plain l.inner) (hsuffix : l.source ++ x <:+ t) :
    ∃ l' ∈ (Link.finder.cuts t).found, l'.inner = l.inner := by
  have hopen : Link.opening false <+: l.source ++ x := (opening_prefix_source l).trans ⟨x, rfl⟩
  rcases h.find?_cases hok with ⟨-, hnone⟩ | ⟨b, l', u, hfind, hl', hfirst⟩
  · exact absurd hopen (hnone _ hsuffix)
  · have := Link.finder.length_lt hfind
    have ht := Link.finder.eq_append hfind
    rw [Link.finder.cuts_of_find?_eq_some hfind, Cuts.found, List.map_cons]
    rw [ht] at hsuffix h
    rcases suffix_append_cases hsuffix with hsuffix | ⟨w, hne, hw, heq⟩
    · rcases suffix_append_cases hsuffix with hsuffix | ⟨w, hne, hw, heq⟩
      · obtain ⟨k, hk, hinner⟩ := exists_found hok h.of_append.of_append hl hsuffix
        exact ⟨k, List.mem_cons_of_mem _ hk, hinner⟩
      · -- The two links are read from the same text, or the found one with a bracket in front.
        refine ⟨l', List.mem_cons_self, ?_⟩
        have hread := Link.find?_source_append hl x
        rcases (hok _ hl').eq_of_opening hw hne (heq ▸ hopen) with rfl | ⟨-, rfl⟩
        · rw [heq, Link.find?_source_append (hok _ hl')] at hread
          obtain ⟨rfl, -⟩ := by simpa using hread
          rfl
        · rw [heq, List.append_assoc,
            Link.find?_source_append (l := ⟨false, l'.inner⟩) (hok _ hl')] at hread
          obtain ⟨rfl, -⟩ := by simpa using hread
          rfl
    · exact absurd (heq ▸ hopen) (hfirst w hw hne)
termination_by t.length

/-- Where double brackets open a link, it is the one that is found there. -/
private theorem exists_plain_iff {v : Text} :
    (∃ l u, v = Link.source l ++ u ∧ Link.Plain l.inner) ↔
      (Link.find? v).any fun p => p.1.isEmpty ∧ Link.Plain p.2.1.inner := by
  rw [Option.any_eq_true]
  constructor
  · rintro ⟨l, u, rfl, hl⟩
    exact ⟨_, Link.find?_source_append hl u, by simpa using hl⟩
  · rintro ⟨⟨b, l, u⟩, hfind, hp⟩
    obtain ⟨hb, hl⟩ : b = [] ∧ Link.Plain l.inner := by simpa using hp
    exact ⟨l, u, by simpa [hb] using Link.eq_append_of_find? hfind, hl⟩

/-- Whether a text is tidy can be computed, suffix by suffix. -/
instance decidable (t : Text) : Decidable (Tidy Link.Plain t) :=
  decidable_of_iff (NoHead printNames t ∧ ∀ v ∈ t.tails,
      (Link.opening false <+: v →
        (Link.find? v).any fun p => p.1.isEmpty ∧ Link.Plain p.2.1.inner) ∧
      (v.head? = some '[' → ¬ Begins Orphan.names v.tail) ∧ (v.head? = some '(' → Firm v.tail)) <| by
    simp only [List.mem_tails]
    constructor
    · rintro ⟨hprint, h⟩
      exact ⟨hprint, fun v hv ho => exists_plain_iff.mpr ((h v hv).1 ho),
        fun v hv => (h _ hv).2.1 rfl, fun v hv => (h _ hv).2.2 rfl⟩
    · intro h
      refine ⟨h.noPrint, fun v hv => ⟨fun ho => exists_plain_iff.mp (h.link v hv ho), fun hc => ?_,
        fun hc => ?_⟩⟩
      · obtain ⟨w, rfl⟩ := List.head?_eq_some_iff.mp hc
        exact h.noOrphan w hv
      · obtain ⟨w, rfl⟩ := List.head?_eq_some_iff.mp hc
        exact h.firm w hv

end Tidy

end Hyperfiction

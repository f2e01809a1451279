import Mathlib.Data.List.TakeWhile
import Hyperfiction.Markup.Sweep
import Hyperfiction.Proofs.Markup.Reading

/-!
# Searching behind a text

A search for macro heads goes from left to right, so a text without a head of the macros looked for may
be passed over. The one thing that can go wrong is a head that the text begins and what follows it
completes, such as `(se` before `t:`. Two texts stand **apart** when this is ruled out: by a character
of no name behind each open bracket of the first, which then is **sealed**, or by a character in front
of the second. Then `findHead?_append` holds, and with it the same law for the macros of a pass
(`find?_append`) and for chains and guards (`Conditional.find?_append`).
-/

namespace Hyperfiction

namespace Invocation

/-- Some character behind each open bracket of the text is in no name. -/
def Sealed (t : Text) : Prop := ∀ u v, t = u ++ '(' :: v → ∃ c ∈ v, ¬ isNameChar c

/-- The text begins with a character that neither goes on with the name of a head nor ends it. -/
def Stops (t : Text) : Prop := ∃ c u, t = c :: u ∧ ¬ isNameChar c ∧ c ≠ ':'

/-- No head begins in the first text and ends in the second. -/
def Apart (t u : Text) : Prop := Sealed t ∨ Stops u

/-- No head of one of the macros begins in the text. -/
def NoHead (names : List Text) (t : Text) : Prop := findHead? names t = none

instance (names : List Text) (t : Text) : Decidable (NoHead names t) :=
  inferInstanceAs (Decidable (findHead? names t = none))

/-! ### Sealed texts -/

theorem sealed_nil : Sealed [] := by
  intro u v h
  simp at h

theorem sealed_of_not_mem {t : Text} (h : '(' ∉ t) : Sealed t := by
  rintro u v rfl
  simp at h

/-- A closing bracket seals all that stands before it. -/
theorem sealed_append_singleton {c : Char} (hc : ¬ isNameChar c) (ho : c ≠ '(') (t : Text) :
    Sealed (t ++ [c]) := by
  intro u v h
  rcases List.eq_nil_or_concat v with rfl | ⟨v', d, rfl⟩
  · have hlast := congrArg List.getLast? h
    simp only [List.getLast?_append, List.getLast?_singleton, Option.some_or,
      Option.some.injEq] at hlast
    exact absurd hlast ho
  · have hsplit : u ++ '(' :: v'.concat d = (u ++ '(' :: v') ++ [d] := by simp
    have hlast := congrArg List.getLast? (h.trans hsplit)
    simp only [List.getLast?_append, List.getLast?_singleton, Option.some_or,
      Option.some.injEq] at hlast
    exact ⟨c, by simp [hlast], hc⟩

theorem sealed_source (m : Invocation) : Sealed m.source :=
  sealed_append_singleton (by decide) (by decide) ('(' :: m.name ++ ':' :: m.args)

theorem Sealed.of_cons {c : Char} {t : Text} (h : Sealed (c :: t)) : Sealed t := by
  intro u v ht
  exact h (c :: u) v (by simp [ht])

theorem Sealed.cons {c : Char} {t : Text} (hc : c = '(' → ∃ d ∈ t, ¬ isNameChar d)
    (h : Sealed t) : Sealed (c :: t) := by
  intro u v ht
  cases u with
  | nil =>
    obtain ⟨rfl, rfl⟩ := List.cons.inj ht
    exact hc rfl
  | cons d u => exact h u v (List.cons.inj ht).2

theorem Sealed.exists_mem {t : Text} (h : Sealed ('(' :: t)) : ∃ d ∈ t, ¬ isNameChar d :=
  h [] t rfl

/-- Whether a text is sealed is told bracket by bracket. -/
instance decidableSealed : DecidablePred Sealed
  | [] => .isTrue sealed_nil
  | c :: t =>
    have : Decidable (Sealed t) := decidableSealed t
    have hany : (t.any fun d => !isNameChar d) ↔ ∃ d ∈ t, ¬ isNameChar d := by simp
    decidable_of_iff ((c = '(' → t.any fun d => !isNameChar d) ∧ Sealed t)
      ⟨fun h => h.2.cons fun hc => hany.mp (h.1 hc),
        fun h => ⟨fun hc => hany.mpr (Sealed.exists_mem (hc ▸ h)), h.of_cons⟩⟩

theorem Sealed.of_append {s t : Text} (h : Sealed (s ++ t)) : Sealed t := by
  intro u v ht
  exact h (s ++ u) v (by simp [ht])

theorem Sealed.append {s t : Text} (hs : Sealed s) (ht : Sealed t) : Sealed (s ++ t) := by
  induction s with
  | nil => exact ht
  | cons c s ih =>
    refine (ih hs.of_cons).cons fun hc => ?_
    subst hc
    obtain ⟨d, hd, hn⟩ := hs.exists_mem
    exact ⟨d, List.mem_append_left t hd, hn⟩

theorem Apart.of_cons {c : Char} {t u : Text} (h : Apart (c :: t) u) : Apart t u :=
  h.imp Sealed.of_cons id

theorem Apart.of_append {s t u : Text} (h : Apart (s ++ t) u) : Apart t u :=
  h.imp Sealed.of_append id

/-- An open bracket in front of the second text keeps it apart from every text. -/
theorem apart_paren (t u : Text) : Apart t ('(' :: u) :=
  .inr ⟨'(', u, rfl, by decide, by decide⟩

/-! ### Heads -/

theorem head?_cons_of_ne {c : Char} (h : c ≠ '(') (t : Text) : head? (c :: t) = none := by
  cases hv : head? (c :: t) with
  | none => rfl
  | some p => exact absurd (List.cons.inj (eq_append_of_head? hv)).1 h

/-- A name ends in a text at the first character that is in no name. -/
private theorem exists_name_append {t : Text} (h : ∃ d ∈ t, ¬ isNameChar d) :
    ∃ name e rest, t = name ++ e :: rest ∧ (∀ x ∈ name, isNameChar x) ∧ isNameChar e = false := by
  obtain ⟨d, hd, hn⟩ := h
  cases hr : t.dropWhile isNameChar with
  | nil => exact absurd (List.dropWhile_eq_nil_iff.mp hr d hd) hn
  | cons e rest =>
    have hfirst := List.head_dropWhile_not isNameChar (by simp [hr] : t.dropWhile isNameChar ≠ [])
    refine ⟨t.takeWhile isNameChar, e, rest, ?_, fun x hx => List.mem_takeWhile_imp hx, ?_⟩
    · rw [← hr, List.takeWhile_append_dropWhile]
    · simpa [hr] using hfirst

/-- A head whose name ends in a text does not depend on what follows the text. -/
theorem head?_append_of_mem {t : Text} (h : ∃ d ∈ t, ¬ isNameChar d) (u : Text) :
    head? ('(' :: t ++ u) = (head? ('(' :: t)).map fun p => (p.1, p.2 ++ u) := by
  obtain ⟨name, e, rest, rfl, hname, he⟩ := exists_name_append h
  have htake : ∀ v, (name ++ e :: v).takeWhile isNameChar = name := fun v => by
    rw [List.takeWhile_append_of_pos hname]
    simp [he]
  have hdrop : ∀ v, (name ++ e :: v).dropWhile isNameChar = e :: v := fun v => by
    rw [List.dropWhile_append_of_pos hname]
    simp [he]
  simp only [List.cons_append, List.append_assoc, head?, htake, hdrop]
  split <;> simp

/-- A head that a text begins and does not end is none, if what follows stops it. -/
private theorem head?_append_of_stops {t u : Text} (h : ∀ d ∈ t, isNameChar d) (hu : Stops u) :
    head? ('(' :: t ++ u) = none ∧ head? ('(' :: t) = none := by
  obtain ⟨e, v, rfl, hname, hcolon⟩ := hu
  have hdrop : t.dropWhile isNameChar = [] := List.dropWhile_eq_nil_iff.mpr h
  constructor
  · simp [head?, List.takeWhile_append_of_pos h, List.dropWhile_append_of_pos h, hname, hcolon]
  · simp [head?, hdrop]

/-- A head does not depend on what stands apart from the text. -/
theorem head?_append {c : Char} {t u : Text} (h : Apart (c :: t) u) :
    head? (c :: t ++ u) = (head? (c :: t)).map fun p => (p.1, p.2 ++ u) := by
  by_cases hc : c = '('
  · subst hc
    -- Either the name ends in the text itself, or the second text has to stop it.
    by_cases hex : ∃ d ∈ t, ¬ isNameChar d
    · exact head?_append_of_mem hex u
    · have hall : ∀ d ∈ t, isNameChar d := fun d hd => by
        by_contra hn
        exact hex ⟨d, hd, hn⟩
      rcases h with hs | hu
      · exact absurd hs.exists_mem hex
      · obtain ⟨h₁, h₂⟩ := head?_append_of_stops hall hu
        rw [h₁, h₂]
        rfl
  · rw [List.cons_append, head?_cons_of_ne hc, head?_cons_of_ne hc]
    rfl

theorem noHead_nil (names : List Text) : NoHead names [] := rfl

/-- No head begins at the first character, and none behind it. -/
theorem noHead_cons_iff {names : List Text} {c : Char} {t : Text} :
    NoHead names (c :: t) ↔
      ((head? (c :: t)).any fun h => isNamed names h.1) = false ∧ NoHead names t := by
  simp only [NoHead, findHead?]
  cases (head? (c :: t)).any fun h => isNamed names h.1 <;> simp

/-- A head does not depend on what follows a joint that it does not reach across. -/
private theorem any_head?_append {names : List Text} {c : Char} {t u : Text}
    (h : Apart (c :: t) u) :
    ((head? (c :: (t ++ u))).any fun h => isNamed names h.1) =
      (head? (c :: t)).any fun h => isNamed names h.1 := by
  rw [← List.cons_append, head?_append h]
  cases head? (c :: t) <;> rfl

/-- **A text without a head of the macros is passed over.** -/
theorem findHead?_append {names : List Text} {t u : Text} (ha : Apart t u) (h : NoHead names t) :
    findHead? names (t ++ u) = (findHead? names u).map fun p => (t ++ p.1, p.2) := by
  induction t with
  | nil => simp
  | cons c t ih =>
    obtain ⟨hhead, hrest⟩ := noHead_cons_iff.mp h
    rw [List.cons_append, findHead?, any_head?_append ha, hhead, ih ha.of_cons hrest]
    simp [Function.comp_def]

/-- A head of the macros in a text is found there, whatever stands apart from it. -/
theorem findHead?_append_of_some {names : List Text} {t b u v : Text} (ha : Apart t u)
    (h : findHead? names t = some (b, v)) : findHead? names (t ++ u) = some (b, v ++ u) := by
  induction t generalizing b with
  | nil => simp [findHead?] at h
  | cons c t ih =>
    rw [findHead?] at h
    rw [List.cons_append, findHead?, any_head?_append ha]
    split at h
    · rename_i hany
      obtain ⟨rfl, rfl⟩ := by simpa using h
      rw [if_pos hany]
      rfl
    · rename_i hany
      simp only [Option.map_eq_some_iff, Prod.mk.injEq, Prod.exists] at h
      obtain ⟨b', v', hb, rfl, rfl⟩ := h
      rw [if_neg hany, ih ha.of_cons hb]
      rfl

/-- **No head begins in two texts** in which none begins, if none reaches across. -/
theorem NoHead.append {names : List Text} {s t : Text} (ha : Apart s t) (hs : NoHead names s)
    (ht : NoHead names t) : NoHead names (s ++ t) := by
  unfold NoHead
  rw [findHead?_append ha hs, ht]
  rfl

theorem noHead_of_not_mem {names : List Text} {t : Text} (h : '(' ∉ t) : NoHead names t := by
  induction t with
  | nil => rfl
  | cons c t ih =>
    simp only [List.mem_cons, not_or] at h
    refine noHead_cons_iff.mpr ⟨?_, ih h.2⟩
    rw [head?_cons_of_ne (Ne.symm h.1)]
    rfl

theorem NoHead.of_append {names : List Text} {s t : Text} (h : NoHead names (s ++ t)) :
    NoHead names t := by
  induction s with
  | nil => exact h
  | cons c s ih => exact ih (noHead_cons_iff.mp h).2

theorem NoHead.isNamed_eq_false {names : List Text} {t name u : Text} (h : NoHead names t)
    (hhead : head? t = some (name, u)) : isNamed names name = false := by
  cases t with
  | nil => simp [head?] at hhead
  | cons c t =>
    have hany := (noHead_cons_iff.mp h).1
    rwa [hhead, Option.any_some] at hany

/-- Fewer macros have fewer heads. -/
theorem NoHead.mono {names more : List Text} {t : Text} (hsub : names ⊆ more)
    (h : NoHead more t) : NoHead names t := by
  induction t with
  | nil => rfl
  | cons c t ih =>
    obtain ⟨hhead, hrest⟩ := noHead_cons_iff.mp h
    refine noHead_cons_iff.mpr ⟨?_, ih hrest⟩
    cases hp : head? (c :: t) with
    | none => rfl
    | some p =>
      have hmore : isNamed more p.1 = false := by simpa [hp] using hhead
      have hnamed : isNamed names p.1 = false := by
        simp only [isNamed, List.contains_eq_mem, decide_eq_false_iff_not] at hmore ⊢
        exact fun hmem => hmore (hsub hmem)
      simpa using hnamed

/-- The head of an invocation of one of the macros is found at its bracket. -/
theorem findHead?_source_append {names : List Text} {m : Invocation} (hm : IsName m.name)
    (hn : isNamed names m.name) (u : Text) :
    findHead? names (m.source ++ u) = some ([], m.source ++ u) := by
  have hhead := head?_source_append hm u
  have hsource : m.source ++ u = '(' :: (m.name ++ ':' :: (m.args ++ ')' :: u)) := by simp [source]
  rw [hsource] at hhead ⊢
  rw [findHead?, hhead]
  simp [hn]

theorem not_mem_of_isName {name : Text} (h : IsName name) : '(' ∉ name := by
  intro hmem
  have hc : isNameChar '(' = true := h.2 _ hmem
  exact absurd hc (by decide)

/-- An invocation of another macro holds no head if its arguments hold none. -/
theorem noHead_source {names : List Text} {m : Invocation} (hm : IsName m.name)
    (hn : isNamed names m.name = false) (ha : NoHead names m.args) : NoHead names m.source := by
  have hargs : NoHead names (m.args ++ [')']) :=
    ha.append (.inr ⟨')', [], rfl, by decide, by decide⟩) (noHead_of_not_mem (by decide))
  -- Behind the bracket of `m` there is no other bracket before the arguments.
  have hlead : '(' ∉ m.name ++ [':'] := by simp [not_mem_of_isName hm]
  have hrest : NoHead names (m.name ++ [':'] ++ (m.args ++ [')'])) :=
    (noHead_of_not_mem hlead).append (.inl (sealed_of_not_mem hlead)) hargs
  have hsource : m.source = '(' :: (m.name ++ [':'] ++ (m.args ++ [')'])) := by simp [source]
  have hhead := head?_source_append hm []
  rw [List.append_nil, hsource] at hhead
  rw [hsource]
  refine noHead_cons_iff.mpr ⟨?_, hrest⟩
  rw [hhead]
  simpa using hn

theorem head?_of_read? {t u : Text} {m : Invocation} (h : read? t = some (m, u)) :
    ∃ v, head? t = some (m.name, v) := by
  simp only [read?] at h
  split at h
  · simp at h
  · rename_i name v hv
    simp only [Option.map_eq_some_iff, Prod.mk.injEq, Prod.exists] at h
    obtain ⟨args, rest, -, rfl, -⟩ := h
    exact ⟨v, hv⟩

/-! ### Macros, chains and guards -/

/-- The macros of a pass are found behind a text that holds no head of them. -/
theorem find?_append {names : List Text} {t u : Text} (ha : Apart t u) (h : NoHead names t) :
    find? names (t ++ u) = (find? names u).map fun p => (t ++ p.1, p.2) := by
  unfold find?
  rw [findHead?_append ha h]
  cases hu : findHead? names u with
  | none => rfl
  | some p => cases hr : read? p.2 <;> simp [hr]

theorem find?_eq_none {names : List Text} {t : Text} (h : NoHead names t) :
    find? names t = none := by
  unfold find?
  rw [h]

/-- A readable macro of a pass is found at the front of a text. -/
theorem find?_source_append {names : List Text} {m : Invocation} (hm : m.Readable)
    (hn : isNamed names m.name) (u : Text) : find? names (m.source ++ u) = some ([], m, u) := by
  unfold find?
  rw [findHead?_source_append hm.isName hn]
  simp [read?_source_append hm]

end Invocation

namespace Chain

open Invocation

/-- No chain goes on in a text without square brackets and orphans, nor behind it if none goes on
there. -/
theorem EndsAt.append {t u : Text} (ha : Apart t u) (h : NoHead Orphan.names t) (ho : '[' ∉ t)
    (hu : EndsAt u) : EndsAt (t ++ u) := by
  have hsplit := List.takeWhile_append_dropWhile (p := Text.isGap) (l := t)
  have hgap : ∀ c ∈ t.takeWhile Text.isGap, Text.isGap c := fun c hc => List.mem_takeWhile_imp hc
  cases hrest : t.dropWhile Text.isGap with
  | nil =>
    rw [hrest, List.append_nil] at hsplit
    exact hu.gap_append fun c hc => hgap c (by rwa [hsplit])
  | cons c rest =>
    rw [hrest] at hsplit
    have hc : Text.isGap c = false := by
      have := List.head_dropWhile_not Text.isGap (by simp [hrest] : t.dropWhile Text.isGap ≠ [])
      simpa [hrest] using this
    -- Behind the gap stands a character of the text, and a macro there has its head in the text.
    rw [← hsplit] at h ha ho
    rw [← hsplit, List.append_assoc]
    refine EndsAt.gap_append hgap (endsAt_cons hc (fun hsq => ho (by simp [hsq])) fun m v hm => ?_)
    obtain ⟨w, hw⟩ := head?_of_read? hm
    have happ : head? (c :: rest ++ u) = _ := head?_append ha.of_append
    rw [show head? (c :: rest ++ u) = some (m.name, w) from hw, eq_comm] at happ
    simp only [Option.map_eq_some_iff, Prod.mk.injEq, Prod.exists] at happ
    obtain ⟨name, v', hhead, rfl, -⟩ := happ
    have hnamed := h.of_append.isNamed_eq_false hhead
    simpa [isNamed, Orphan.names] using hnamed

/-- A macro of another kind does not continue a chain. -/
theorem endsAt_source {m : Invocation} (hm : m.Readable) (hn : isNamed Orphan.names m.name = false)
    (u : Text) : EndsAt (m.source ++ u) := by
  obtain ⟨t, ht⟩ : ∃ t, m.source ++ u = '(' :: t := ⟨_, rfl⟩
  rw [ht]
  refine endsAt_cons (by decide) (by decide) fun m' v hm' => ?_
  rw [← ht, Invocation.read?_source_append hm] at hm'
  obtain ⟨rfl, -⟩ := by simpa using hm'
  simpa [isNamed, Orphan.names] using hn

end Chain

namespace Conditional

open Invocation

/-- **The search passes over** a text in which no head begins. -/
theorem find?_append {t u : Text} (ha : Apart t u) (h : NoHead names t) :
    find? (t ++ u) = (find? u).map fun p => (t ++ p.1, p.2) := by
  unfold find?
  rw [findHead?_append ha h]
  cases findHead? names u <;> rfl

theorem find?_eq_none {t : Text} (h : NoHead names t) : find? t = none := by
  unfold find?
  rw [h]
  rfl

/-- A conditional begins with the name of a chain or of a guard. -/
private theorem isNamed_names {name : Text} :
    isNamed names name = (isNamed ifNames name || isNamed guardNames name) := by
  simp [names, isNamed]

/-- A chain whose macro is readable is found at the front of a text that it is read from. -/
theorem find?_chain {c : Chain} {t u : Text} {m : Invocation} (hm : IsName m.name)
    (hn : isNamed ifNames m.name) (ht : m.source <+: t) (hc : Chain.read? t = some (c, u)) :
    find? t = some ([], chain c, u) := by
  obtain ⟨v, rfl⟩ := ht
  have hguard : isNamed guardNames m.name = false := by
    have hname : m.name.map Char.toLower = "if".toList := by
      simpa [isNamed, ifNames] using hn
    simp only [isNamed, hname]
    decide
  have hnames : isNamed names m.name := by simp [isNamed_names, hn]
  simp only [find?, findHead?_source_append hm hnames, Option.map_some, ofHead,
    head?_source_append hm, Option.any_some, hguard, hc]
  rfl

/-- A guard whose macro is readable is found at the front of a text that it is read from. -/
theorem find?_guard {g : Guard} {t u : Text} {m : Invocation} (hm : IsName m.name)
    (hn : isNamed guardNames m.name) (ht : m.source <+: t) (hg : Guard.read? t = some (g, u)) :
    find? t = some ([], guard g, u) := by
  obtain ⟨v, rfl⟩ := ht
  have hnames : isNamed names m.name := by simp [isNamed_names, hn]
  simp only [find?, findHead?_source_append hm hnames, Option.map_some, ofHead,
    head?_source_append hm, Option.any_some, hn, hg]
  rfl

end Conditional

end Hyperfiction

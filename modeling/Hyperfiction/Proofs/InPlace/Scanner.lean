import Hyperfiction.Proofs.InPlace.Closers
import Hyperfiction.Proofs.Markup.Found

/-!
# Markup scanned in a buffer

The scanner reads markup off a buffer by its bytes and answers with positions; what it takes of the text it
cuts out between two of them. Each reader here does the steps of the scanner one for one, with every range
checked, and is equal to the reader of the same name at a position of a text (`InPlace.closing?_eq`,
`InPlace.macro?_eq`, `InPlace.findMacro?_eq`), for every text and every position, also one inside a
character or past the end. So no range is ever refused.
-/

namespace Hyperfiction

/-! ### Widths -/

theorem Invocation.width_source (m : Invocation) :
    Text.width m.source = Text.width m.name + Text.width m.args + 3 := by
  simp (disch := decide) [Invocation.source, Text.utf8Size_of_lt]
  omega

theorem Hook.width_source (k : Hook) :
    Text.width k.source = Text.width k.gap + Text.width k.body + 2 := by
  simp (disch := decide) [Hook.source, Text.utf8Size_of_lt]
  omega

/-! ### Markup at a boundary -/

namespace Position

theorem hook?_append (s u : Text) :
    hook? (s ++ u) (Text.width s) =
      (Hook.body? u).map fun p => ⟨p.1, ⟨Text.width s, Text.width s + Text.width p.1 + 2⟩⟩ := by
  simp only [hook?, Text.dropTo?_append, Option.bind_eq_bind, Option.bind_some]
  cases Hook.body? u <;> rfl

theorem head?_append (s u : Text) :
    head? (s ++ u) (Text.width s) =
      (Invocation.head? u).map fun p => (p.1, Text.width s + Text.width p.1 + 2) := by
  simp only [head?, Text.dropTo?_append, Option.bind_eq_bind, Option.bind_some]
  cases Invocation.head? u <;> rfl

theorem macro?_append (s u : Text) :
    macro? (s ++ u) (Text.width s) =
      (Invocation.read? u).map fun p =>
        ⟨p.1, ⟨Text.width s, Text.width s + Text.width p.1.source⟩⟩ := by
  simp only [macro?, Text.dropTo?_append, Option.bind_eq_bind, Option.bind_some]
  cases Invocation.read? u <;> rfl

end Position

namespace InPlace

/-! ### The steps of the scanner -/

/-- The position behind the closer of the bracket that opens at a position. -/
def closing? (t : Text) (start : Nat) (b : Bracket) : Option Nat :=
  match t.dropTo? start with
  | some rest =>
    if Text.startsWith rest [b.opener] then
      b.closingFrom 1 (start + 1) (t.bytes.drop (start + 1))
    else none
  | none => none

/-- The hook at a position, without gap. -/
def hook? (t : Text) (start : Nat) : Option Span :=
  if t.bytes[start]? = some '['.toUInt8 then
    (closing? t start .square).map fun stop => ⟨start, stop⟩
  else none

/-- The body of a hook. -/
def hookBody (t : Text) (hook : Span) : Guarded Text := do
  t.slice (hook.start + 1) (← Guarded.minus hook.stop 1)

/-- The name of the macro head at a position, and the position behind its colon. -/
def head? (t : Text) (start : Nat) : Guarded (Option (Text × Nat)) :=
  if t.bytes[start]? = some '('.toUInt8 then
    let first := start + 1
    let name := (t.bytes.drop first).takeWhile (Text.onByte Invocation.isNameChar)
    let stop := first + name.length
    if stop = first ∨ t.bytes[stop]? ≠ some ':'.toUInt8 then pure none
    else do
      let name ← t.slice first stop
      return some (name, stop + 1)
  else pure none

/-- The macro at a position. -/
def macro? (t : Text) (start : Nat) : Guarded (Option (Located Invocation)) := do
  match ← head? t start with
  | none => return none
  | some (name, first) =>
    match closing? t start .round with
    | none => return none
    | some stop =>
      let args ← t.slice first (← Guarded.minus stop 1)
      return some ⟨⟨name, args⟩, ⟨start, stop⟩⟩

/-- What a test says at the first of the bytes that are a character and of which it says something. -/
def seek {β : Type} (d : Char) (test : Nat → Guarded (Option β)) :
    Nat → List UInt8 → Guarded (Option β)
  | _, [] => pure none
  | i, x :: xs =>
    if x = d.toUInt8 then do
      match ← test i with
      | some found => return some found
      | none => seek d test (i + 1) xs
    else seek d test (i + 1) xs

/-- The position of the first head of one of the macros, from a position on. -/
def findHead? (t : Text) (start : Nat) (names : List Text) : Guarded (Option Nat) :=
  seek '(' (fun i => do
    return (← head? t i).bind fun h => if Invocation.isNamed names h.1 then some i else none)
    start (t.bytes.drop start)

/-- The first macro of some names, from a position on. -/
def findMacro? (t : Text) (start : Nat) (names : List Text) :
    Guarded (Option (Located Invocation)) := do
  match ← findHead? t start names with
  | none => return none
  | some i => macro? t i

/-- The depth of square brackets behind a byte. -/
def squareStep (depth : Nat) (x : UInt8) : Nat :=
  if x = '['.toUInt8 then depth + 1 else if x = ']'.toUInt8 then depth - 1 else depth

/-- The depth of square brackets at a position, counted from the start of the text. -/
def bracketDepth (t : Text) (position : Nat) : Guarded Nat := do
  let before ← Guarded.part t.bytes 0 (min position t.bytes.length)
  return before.foldl squareStep 0

/-- The first position from a position on that is not in a gap. -/
def skipGap (t : Text) (start : Nat) : Nat :=
  start + ((t.bytes.drop start).takeWhile (Text.onByte Text.isGap)).length

/-- The hook behind a gap at a position. -/
def attached? (t : Text) (behind : Nat) : Guarded (Option Span) := do
  let start := skipGap t behind
  let rest ← t.suffixFrom start
  if Hook.opensLink rest then return none
  return hook? t start

/-! ### Single brackets -/

theorem startsWith_cons (c : Char) (t : Text) : Text.startsWith (c :: t) [c] := by
  rw [Text.startsWith, Option.isSome_iff_exists]
  exact ⟨t, Text.after?_eq_some.mpr rfl⟩

/-- A position is a boundary, at which the text falls in two, or nothing begins there. -/
theorem boundary_cases (t : Text) (n : Nat) :
    t.dropTo? n = none ∨ ∃ s u, t = s ++ u ∧ n = Text.width s := by
  cases h : t.dropTo? n with
  | none => exact .inl rfl
  | some u =>
    obtain ⟨s, ht, hn⟩ := Text.dropTo?_eq_some_iff.mp h
    exact .inr ⟨s, u, ht, hn⟩

theorem closing?_eq (t : Text) (start : Nat) (b : Bracket) :
    closing? t start b = Position.closing? t start [b.opener] := by
  by_cases h : t.StandsAt start [b.opener]
  · rw [Position.closing?_of_standsAt h]
    obtain ⟨s, u, rfl, rfl⟩ := Text.standsAt_iff.mp h
    have hwidth : Text.width [b.opener] = 1 := Text.utf8Size_of_lt b.opener_lt
    rw [closing?, Text.dropTo?_append, hwidth]
    exact if_pos (startsWith_cons b.opener u)
  · rw [Position.closing?_of_not_standsAt h]
    rcases boundary_cases t start with hnone | ⟨s, u, rfl, rfl⟩
    · rw [closing?, hnone]
    · rw [closing?, Text.dropTo?_append]
      refine if_neg fun hstarts => h ?_
      obtain ⟨v, hv⟩ := Option.isSome_iff_exists.mp hstarts
      exact Text.standsAt_iff.mpr ⟨s, v, by rw [Text.after?_eq_some.mp hv], rfl⟩

/-- Behind an opener the closing bracket is found in place. -/
theorem closing?_append {b : Bracket} (s u : Text) :
    closing? (s ++ b.opener :: u) (Text.width s) b =
      (b.closing? 0 u).map fun p => Text.width s + Text.width p.1 + 2 := by
  have hfound : Position.closing? (s ++ ([b.opener] ++ u)) (Text.width s) [b.opener] = _ :=
    Position.closing?_append s u
  have hwidth : Text.width [b.opener] = 1 := Text.utf8Size_of_lt b.opener_lt
  rw [List.singleton_append, hwidth] at hfound
  rw [closing?_eq, hfound]
  congr 1
  funext p
  omega

/-- An ASCII byte is the character that stands there. -/
theorem byte_append_iff {d : Char} (hd : d.toNat < 128) (s u : Text) :
    (s ++ u).bytes[Text.width s]? = some d.toUInt8 ↔ u.head? = some d := by
  rw [Text.getElem?_bytes_eq_some_iff_dropTo? hd, Text.dropTo?_append, List.head?_eq_some_iff]
  simp only [Option.some.injEq]

theorem byte_ne_of_dropTo? {d : Char} (hd : d.toNat < 128) {t : Text} {n : Nat}
    (h : t.dropTo? n = none) : t.bytes[n]? ≠ some d.toUInt8 := by
  intro hbyte
  obtain ⟨u, hu⟩ := (Text.getElem?_bytes_eq_some_iff_dropTo? hd).mp hbyte
  rw [h] at hu
  cases hu

theorem hook?_append (s u : Text) :
    hook? (s ++ u) (Text.width s) =
      (Hook.body? u).map fun p => ⟨Text.width s, Text.width s + Text.width p.1 + 2⟩ := by
  rw [hook?]
  cases u with
  | nil =>
    rw [if_neg fun h => ?_]
    · rfl
    · cases (byte_append_iff (by decide) s []).mp h
  | cons c u =>
    by_cases hc : c = '['
    · subst hc
      have hclosing : closing? (s ++ '[' :: u) (Text.width s) .square = _ :=
        closing?_append (b := .square) s u
      rw [if_pos ((byte_append_iff (by decide) s _).mpr rfl), hclosing]
      simp only [Hook.body?, if_true, Option.map_map, Function.comp_def]
    · rw [if_neg fun h => hc ?_]
      · simp only [Hook.body?, hc, if_false, Option.map_none]
      · exact Option.some.inj ((byte_append_iff (by decide) s _).mp h)

theorem hook?_eq (t : Text) (start : Nat) :
    hook? t start = (Position.hook? t start).map Located.span := by
  rcases boundary_cases t start with h | ⟨s, u, rfl, rfl⟩
  · rw [hook?, if_neg (byte_ne_of_dropTo? (by decide) h), Position.hook?, h]
    rfl
  · rw [hook?_append, Position.hook?_append, Option.map_map]
    rfl

/-! ### Macros -/

private theorem lt_of_isNameChar (c : Char) (h : Invocation.isNameChar c) : c.toNat < 128 := by
  simp only [Invocation.isNameChar, Bool.or_eq_true, beq_iff_eq] at h
  rcases h with (h | rfl) | rfl
  · exact Text.lt_of_isAlphanum h
  · decide
  · decide

theorem head?_append (s u : Text) :
    head? (s ++ u) (Text.width s) =
      .ok ((Invocation.head? u).map fun p => (p.1, Text.width s + Text.width p.1 + 2)) := by
  rw [head?]
  cases u with
  | nil =>
    rw [if_neg fun h => ?_]
    · rfl
    · cases (byte_append_iff (by decide) s []).mp h
  | cons c u =>
    by_cases hc : c = '('
    · subst hc
      rw [if_pos ((byte_append_iff (by decide) s _).mpr rfl)]
      -- The text is cut at the bracket and at the end of the name.
      have hfirst : Text.width s + 1 = Text.width (s ++ ['(']) := by
        rw [Text.width_append]; rfl
      have hname : ((s ++ '(' :: u).bytes.drop (Text.width s + 1)).takeWhile
          (Text.onByte Invocation.isNameChar) =
            Text.bytes (u.takeWhile Invocation.isNameChar) := by
        rw [List.append_cons s, hfirst, Text.drop_bytes_append, Text.takeWhile_bytes lt_of_isNameChar]
      have hsplit : s ++ '(' :: u = s ++ ['('] ++ (u.takeWhile Invocation.isNameChar ++
          u.dropWhile Invocation.isNameChar) := by
        rw [List.takeWhile_append_dropWhile, ← List.append_cons]
      have hslice := Text.slice_append (s ++ ['(']) (u.takeWhile Invocation.isNameChar)
        (u.dropWhile Invocation.isNameChar)
      have hcolon := byte_append_iff (d := ':') (by decide)
        (s ++ ['('] ++ u.takeWhile Invocation.isNameChar) (u.dropWhile Invocation.isNameChar)
      rw [List.append_assoc, Text.width_append, ← hfirst, ← hsplit] at hcolon
      rw [← hfirst, ← hsplit] at hslice
      simp only [hname, Text.length_bytes, Invocation.head?, hslice, ne_eq, hcolon]
      generalize u.takeWhile Invocation.isNameChar = name
      cases u.dropWhile Invocation.isNameChar with
      | nil => simp
      | cons d rest =>
        have hempty : Text.width s + 1 + Text.width name = Text.width s + 1 ↔ name = [] := by
          rw [Nat.add_eq_left, Text.width_eq_zero_iff]
        by_cases hd : d = ':' ∧ name ≠ []
        · have hnext : Text.width s + 1 + Text.width name + 1 =
              Text.width s + Text.width name + 2 := by omega
          rw [if_neg (by rw [hempty]; simp [hd]), hnext]
          simp [hd]
        · have hnone : name = [] ∨ ¬ (d :: rest).head? = some ':' := by
            rw [List.head?_cons, Option.some.injEq]
            exact Decidable.or_iff_not_imp_left.mpr fun hne hcolon => hd ⟨hcolon, hne⟩
          rw [if_pos (by rwa [hempty])]
          simp [hd]
    · rw [if_neg fun h => hc ?_]
      · rw [Invocation.head?_cons_of_ne hc]; rfl
      · exact Option.some.inj ((byte_append_iff (by decide) s _).mp h)

theorem head?_eq (t : Text) (start : Nat) : head? t start = .ok (Position.head? t start) := by
  rcases boundary_cases t start with h | ⟨s, u, rfl, rfl⟩
  · rw [head?, if_neg (byte_ne_of_dropTo? (by decide) h), Position.head?, h]
    rfl
  · rw [head?_append, Position.head?_append]

theorem macro?_append (s u : Text) :
    macro? (s ++ u) (Text.width s) =
      .ok ((Invocation.read? u).map fun p =>
        ⟨p.1, ⟨Text.width s, Text.width s + Text.width p.1.source⟩⟩) := by
  rw [macro?, head?_append, Guarded.ok_bind]
  cases hhead : Invocation.head? u with
  | none =>
    rw [Invocation.read?, hhead]
    rfl
  | some p =>
    obtain ⟨name, v⟩ := p
    have hu := Invocation.eq_append_of_head? hhead
    have hround : u = '(' :: (name ++ [':'] ++ v) := by rw [hu]; simp
    have hclosing : closing? (s ++ u) (Text.width s) .round =
        ((Bracket.round.closing? 0 v).map fun p => (name ++ [':'] ++ p.1, p.2)).map
          fun p => Text.width s + Text.width p.1 + 2 := by
      rw [hround, ← Bracket.closing?_append (Invocation.depth?_name (Invocation.isName_of_head? hhead))]
      exact closing?_append (b := .round) s _
    rw [Invocation.read?, hhead]
    simp only [Option.map_some, hclosing]
    cases hclose : Bracket.round.closing? 0 v with
    | none => rfl
    | some q =>
      obtain ⟨args, rest⟩ := q
      have hv : v = args ++ ')' :: rest := Bracket.eq_append_of_closing? hclose
      have hargs := Text.slice_append (s ++ ('(' :: name ++ [':'])) args (')' :: rest)
      have hfirst : Text.width (s ++ ('(' :: name ++ [':'])) =
          Text.width s + Text.width name + 2 := by
        simp (disch := decide) [Text.utf8Size_of_lt]
        omega
      have htext : s ++ ('(' :: name ++ [':']) ++ (args ++ ')' :: rest) = s ++ u := by
        rw [hu, hv]; simp
      have hstop : Text.width s + Text.width (name ++ [':'] ++ args) + 2 =
          Text.width s + Text.width name + 2 + Text.width args + 1 := by
        simp (disch := decide) [Text.utf8Size_of_lt]
        omega
      have hspan : Text.width s + Text.width (Invocation.source ⟨name, args⟩) =
          Text.width s + Text.width name + 2 + Text.width args + 1 := by
        simp only [Invocation.width_source]
        omega
      rw [hfirst, htext] at hargs
      simp only [Option.map_some]
      rw [hstop, hspan, Guarded.minus_eq_ok (by omega), Guarded.ok_bind, Nat.add_sub_cancel, hargs]
      rfl

theorem macro?_eq (t : Text) (start : Nat) : macro? t start = .ok (Position.macro? t start) := by
  rcases boundary_cases t start with h | ⟨s, u, rfl, rfl⟩
  · rw [macro?, head?_eq, Position.head?, Position.macro?, h]
    rfl
  · rw [macro?_append, Position.macro?_append]

/-! ### Searches -/

/-- The search passes over bytes beyond ASCII. -/
theorem seek_high {β : Type} {d : Char} (hd : d.toNat < 128) (test : Nat → Guarded (Option β))
    (i : Nat) {bs : List UInt8} (h : ∀ x ∈ bs, 128 ≤ x.toNat) (xs : List UInt8) :
    seek d test i (bs ++ xs) = seek d test (i + bs.length) xs := by
  induction bs generalizing i with
  | nil => rfl
  | cons x bs ih =>
    have hx : x ≠ d.toUInt8 := by
      rintro rfl
      have hlow := h _ List.mem_cons_self
      rw [Text.toNat_toUInt8 hd] at hlow
      omega
    rw [List.cons_append, seek, if_neg hx, ih (i + 1) fun y hy => h y (List.mem_cons_of_mem _ hy),
      List.length_cons, Nat.add_assoc, Nat.add_comm 1]

/-- A search for the first character `d` behind which `pick` finds something: what stands before it, and
what is found. -/
structure Seeks {γ : Type} (d : Char) (pick : Text → Option γ) (find : Text → Option (Text × γ)) :
    Prop where
  nil : find [] = none
  here : ∀ {u : Text} {g : γ}, pick u = some g → find (d :: u) = some ([], g)
  behind : ∀ {c : Char} {u : Text}, (c = d → pick u = none) →
    find (c :: u) = (find u).map fun p => (c :: p.1, p.2)

/-- Seeking byte by byte finds what seeking character by character finds. -/
theorem seek_append {β γ : Type} {d : Char} (hd : d.toNat < 128) {pick : Text → Option γ}
    {find : Text → Option (Text × γ)} (hseeks : Seeks d pick find)
    {test : Nat → Guarded (Option β)} (place : Nat → γ → β) {t : Text}
    (htest : ∀ s u, t = s ++ d :: u → test (Text.width s) = .ok ((pick u).map (place (Text.width s))))
    {s u : Text} (ht : t = s ++ u) :
    seek d test (Text.width s) u.bytes =
      .ok ((find u).map fun p => place (Text.width s + Text.width p.1) p.2) := by
  induction u generalizing s with
  | nil =>
    rw [hseeks.nil]
    rfl
  | cons c u ih =>
    have hstep : seek d test (Text.width s + c.utf8Size) (Text.bytes u) =
        .ok (((find u).map fun p => (c :: p.1, p.2)).map
          fun p => place (Text.width s + Text.width p.1) p.2) := by
      have h := ih (ht.trans (List.append_cons s c u))
      rw [Text.width_append, Text.width_cons, Text.width_nil, Nat.add_zero] at h
      rw [h, Option.map_map]
      congr 2
      funext p
      simp only [Function.comp_def, Text.width_cons, Nat.add_assoc]
    rw [Text.bytes_cons]
    rcases Nat.lt_or_ge c.toNat 128 with hc | hc
    · rw [Text.utf8Size_of_lt hc] at hstep
      rw [Text.encode_of_lt hc, List.singleton_append, seek]
      by_cases hcd : c = d
      · subst hcd
        rw [if_pos rfl, htest s u ht, Guarded.ok_bind, hstep]
        cases hpick : pick u with
        | none => rw [hseeks.behind fun _ => hpick]; rfl
        | some g => rw [hseeks.here hpick]; rfl
      · have hbyte : c.toUInt8 ≠ d.toUInt8 := fun h => hcd ((Text.toUInt8_inj hc hd).mp h)
        rw [if_neg hbyte, hstep, hseeks.behind fun h => absurd h hcd]
    · have hcd : c ≠ d := by rintro rfl; omega
      rw [seek_high hd _ _ (fun x hx => Text.le_of_mem_encode hc hx), String.length_utf8EncodeChar,
        hstep, hseeks.behind fun h => absurd h hcd]

private theorem seeks_findHead? (names : List Text) :
    Seeks '(' (fun u => if (Invocation.head? ('(' :: u)).any fun h => Invocation.isNamed names h.1
      then some ('(' :: u) else none) (Invocation.findHead? names) := by
  refine ⟨rfl, ?_, ?_⟩
  · intro u g h
    rw [Invocation.findHead?]
    split at h
    · rename_i hnamed
      rw [if_pos hnamed, ← Option.some.inj h]
    · cases h
  · intro c u h
    rw [Invocation.findHead?, if_neg]
    intro hnamed
    by_cases hc : c = '('
    · subst hc
      have h := h rfl
      rw [if_pos hnamed] at h
      cases h
    · rw [Invocation.head?_cons_of_ne hc] at hnamed
      cases hnamed

theorem findHead?_append (names : List Text) (s u : Text) :
    findHead? (s ++ u) (Text.width s) names =
      .ok ((Invocation.findHead? names u).map fun p => Text.width s + Text.width p.1) := by
  rw [findHead?, Text.drop_bytes_append]
  refine seek_append (by decide) (seeks_findHead? names) (fun i _ => i) (fun s' v hv => ?_) rfl
  rw [hv, head?_append, Guarded.ok_bind]
  cases Invocation.head? ('(' :: v) with
  | none => rfl
  | some p =>
    simp only [Option.map_some, Option.bind_some, Option.any_some]
    split <;> rfl

/-- **The first head from a position on** is found in place. -/
theorem findHead?_eq (t : Text) (start : Nat) (names : List Text) :
    findHead? t start (names.map fun n => n.map Char.toLower) =
      .ok (Position.findHead? t start names) := by
  obtain ⟨bs, hbytes, hhigh, hwidth⟩ := Text.exists_drop_bytes t start
  rw [findHead?, hbytes, seek_high (by decide) _ _ hhigh, Position.findHead?]
  rcases Nat.lt_or_ge (Text.width t) start with hlt | hle
  · have hnil : t.dropPast start = [] := by
      have hdrop : t.bytes.drop start = [] :=
        List.drop_of_length_le (by rw [Text.length_bytes]; omega)
      rw [hbytes, List.append_eq_nil_iff] at hdrop
      rw [← Text.width_eq_zero_iff, ← Text.length_bytes, hdrop.2]
      rfl
    rw [hnil]
    rfl
  · have ht := Text.takePast_append_dropPast t start
    have hstart : start + bs.length = Text.width (t.takePast start) := by
      have hsum := congrArg Text.width ht
      rw [Text.width_append] at hsum
      have := hwidth hle
      omega
    have hfound := findHead?_append (names.map fun n => n.map Char.toLower)
      (t.takePast start) (t.dropPast start)
    rw [findHead?, Text.drop_bytes_append] at hfound
    have hsub : Text.width t - Text.width (t.dropPast start) = Text.width (t.takePast start) := by
      have := hwidth hle
      omega
    rw [ht, ← hstart] at hfound
    rw [hfound, hsub, ← hstart]
    cases Invocation.findHead? (names.map fun n => n.map Char.toLower) (t.dropPast start) <;> rfl

/-- **The first macro from a position on** is found in place. -/
theorem findMacro?_eq (t : Text) (start : Nat) (names : List Text) :
    findMacro? t start (names.map fun n => n.map Char.toLower) =
      .ok (Position.findMacro? t start names) := by
  rw [findMacro?, findHead?_eq, Guarded.ok_bind, Position.findMacro?]
  cases Position.findHead? t start names with
  | none => rfl
  | some i => exact macro?_eq t i

theorem findMacro?_append (names : List Text) (s u : Text) :
    findMacro? (s ++ u) (Text.width s) names =
      .ok ((Invocation.find? names u).map fun p =>
        ⟨p.2.1, ⟨Text.width s + Text.width p.1,
          Text.width s + Text.width p.1 + Text.width p.2.1.source⟩⟩) := by
  rw [findMacro?, findHead?_append, Guarded.ok_bind, Invocation.find?]
  cases hhead : Invocation.findHead? names u with
  | none => rfl
  | some p =>
    obtain ⟨before, v⟩ := p
    have hmacro := macro?_append (s ++ before) v
    rw [List.append_assoc, ← Invocation.eq_append_of_findHead? hhead, Text.width_append] at hmacro
    simp only [Option.map_some, hmacro, Option.map_map, Function.comp_def]

/-! ### Depths and gaps -/

private theorem foldl_squareStep_of_le (n : Nat) {bs : List UInt8} (h : ∀ x ∈ bs, 128 ≤ x.toNat) :
    bs.foldl squareStep n = n := by
  induction bs with
  | nil => rfl
  | cons x bs ih =>
    have hx := h x List.mem_cons_self
    have hopen : x ≠ '['.toUInt8 := by rintro rfl; exact absurd hx (by decide)
    have hclose : x ≠ ']'.toUInt8 := by rintro rfl; exact absurd hx (by decide)
    rw [List.foldl_cons, squareStep, if_neg hopen, if_neg hclose]
    exact ih fun y hy => h y (List.mem_cons_of_mem _ hy)

/-- Bytes count the depth of square brackets as characters do. -/
private theorem foldl_squareStep (n : Nat) (t : Text) :
    t.bytes.foldl squareStep n = Bracket.square.depthAfter n t := by
  induction t generalizing n with
  | nil => rfl
  | cons c t ih =>
    have hchar : (String.utf8EncodeChar c).foldl squareStep n = (Bracket.square.step? n c).getD 0 := by
      rcases Nat.lt_or_ge c.toNat 128 with hc | hc
      · rw [Text.encode_of_lt hc, List.foldl_cons, List.foldl_nil, squareStep, Bracket.step?]
        simp only [Text.toUInt8_inj hc (show '['.toNat < 128 by decide),
          Text.toUInt8_inj hc (show ']'.toNat < 128 by decide), Bracket.opener, Bracket.closer]
        by_cases hopen : c = '['
        · simp [hopen]
        · by_cases hclose : c = ']'
          · cases n <;> simp [hclose]
          · simp [hopen, hclose]
      · have hopen : c ≠ '[' := by rintro rfl; exact absurd hc (by decide)
        have hclose : c ≠ ']' := by rintro rfl; exact absurd hc (by decide)
        rw [foldl_squareStep_of_le n fun x hx => Text.le_of_mem_encode hc hx, Bracket.step?]
        simp only [Bracket.opener, Bracket.closer, hopen, hclose, if_false, Option.getD_some]
    rw [Text.bytes_cons, List.foldl_append, hchar, ih]
    rfl

/-- The depth of brackets in front of a position. -/
theorem bracketDepth_append (s u : Text) :
    bracketDepth (s ++ u) (Text.width s) = .ok (Bracket.square.depthAfter 0 s) := by
  have hle : Text.width s ≤ (s ++ u).bytes.length := by
    rw [Text.length_bytes, Text.width_append]
    omega
  have hpart := Guarded.part_append [] s.bytes u.bytes
  rw [List.nil_append, List.length_nil, Nat.zero_add, Text.length_bytes, ← Text.bytes_append] at hpart
  rw [bracketDepth, Nat.min_eq_left hle, hpart, Guarded.ok_bind, foldl_squareStep]
  rfl

private theorem lt_of_isGap (c : Char) (h : Text.isGap c) : c.toNat < 128 := by
  simp only [Text.isGap, Bool.or_eq_true, beq_iff_eq] at h
  rcases h with (((rfl | rfl) | rfl) | rfl) | rfl <;> decide

theorem skipGap_append (s u : Text) :
    skipGap (s ++ u) (Text.width s) = Text.width s + Text.width (u.takeWhile Text.isGap) := by
  rw [skipGap, Text.drop_bytes_append, Text.takeWhile_bytes lt_of_isGap, Text.length_bytes]

/-! ### Attached hooks -/

theorem attached?_append (s u : Text) :
    attached? (s ++ u) (Text.width s) =
      .ok ((Hook.attached? u).map fun p =>
        ⟨Text.width s + Text.width p.1.gap, Text.width s + Text.width p.1.source⟩) := by
  have htext : s ++ u.takeWhile Text.isGap ++ u.dropWhile Text.isGap = s ++ u := by
    rw [List.append_assoc, List.takeWhile_append_dropWhile]
  have hrest := Text.suffixFrom_append (s ++ u.takeWhile Text.isGap) (u.dropWhile Text.isGap)
  have hhook := hook?_append (s ++ u.takeWhile Text.isGap) (u.dropWhile Text.isGap)
  rw [htext, Text.width_append] at hrest hhook
  rw [attached?, skipGap_append, hrest, Guarded.ok_bind, hhook, Hook.attached?]
  split
  · rfl
  · cases Hook.body? (u.dropWhile Text.isGap) with
    | none => rfl
    | some p =>
      simp only [Option.map_some, Guarded.pure_eq_ok, Hook.width_source, Nat.add_assoc]

end InPlace

end Hyperfiction

import Hyperfiction.Assignment.Parser
import Hyperfiction.Proofs.InPlace.Conditions

/-!
# Assignments read in a buffer

The text of a `(set:)` is cut at the places where a `$name to` begins. The value of an assignment reaches
from behind its `to` to before the comma of the next one; its tokens are moved to the start of the text
that they cover, and read there. `InPlace.Parted` says how the places cut the tokens, so that every place
that is counted up or down from one of them is a place of a token.
-/

namespace Hyperfiction

theorem Guarded.item_of_getElem? {α : Type} {xs : List α} {i : Nat} {x : α} (h : xs[i]? = some x) :
    item xs i = .ok x := by
  rw [item, h]

namespace InPlace

/-! ### The steps -/

/-- Is the token the `to` of an assignment? -/
def isTo : Option Token.Kind → Bool
  | some .to => true
  | _ => false

/-- Does a `$name` at a place begin an assignment: is a comma before it, or nothing, and a `to` behind
it? -/
def beginsSegment (tokens : List TokenAt) : Nat → Guarded Bool
  | 0 => pure (isTo (kindAt? tokens 1))
  | i + 1 => do
    let before ← Guarded.item tokens (← Guarded.minus (i + 1) 1)
    return Assignment.isComma before.kind && isTo (kindAt? tokens (i + 2))

/-- Does an assignment begin with a token at a place? -/
def beginsAt (tokens : List TokenAt) (depth : Int) (i : Nat) : Token.Kind → Guarded Bool
  | .var _ => if depth = 0 then beginsSegment tokens i else pure false
  | _ => pure false

/-- The places where assignments begin, from a place on. -/
def startsFrom (tokens : List TokenAt) : Int → Nat → List Token.Kind → Guarded (List Nat)
  | _, _, [] => pure []
  | depth, i, k :: kinds => do
    let begins ← beginsAt tokens depth i k
    let more ← startsFrom tokens (depth + k.nesting) (i + 1) kinds
    return if begins then i :: more else more

/-- The tokens with their spans counted from a position. -/
def rebase (tokens : List TokenAt) (position : Nat) : Guarded (List TokenAt) :=
  tokens.mapM fun k => do
    return ⟨k.kind, ⟨← Guarded.minus k.span.start position, ← Guarded.minus k.span.stop position⟩⟩

/-- The right side that tokens make, of which `raw` is the text. -/
def rightSide (raw : Text) (tokens : List TokenAt) : Guarded RightSide := do
  let parsed ← operand raw tokens
  return (parsed.bind RightSide.ofExpr?).getD (.text (RightSide.unquoted (Text.trim raw)))

/-- The value that the tokens of a command between two places write; none is written by no token. -/
def valueAt (command : Text) (tokens : List TokenAt) (start stop : Nat) :
    Guarded (Option RightSide) := do
  let part ← Guarded.part tokens start stop
  if part.isEmpty then return none
  let first ← Guarded.item part 0
  let last ← Guarded.item part (← Guarded.minus part.length 1)
  let raw ← command.slice first.span.start last.span.stop
  return some (← rightSide raw (← rebase part first.span.start))

/-- The place behind the value of an assignment before others. -/
def stopBefore (tokens : List TokenAt) : List Nat → Guarded Nat
  | [] => pure tokens.length
  | next :: _ => Guarded.minus next 1

/-- The assignments that begin at places. -/
def assignmentsAt (command : Text) (tokens : List TokenAt) : List Nat → Guarded (List Assignment)
  | [] => pure []
  | start :: starts => do
    let stop ← stopBefore tokens starts
    match (← Guarded.item tokens start).kind with
    | .var name =>
      let value ← valueAt command tokens (start + 2) stop
      let more ← assignmentsAt command tokens starts
      return (value.map fun v => ⟨name, v⟩).toList ++ more
    | _ => assignmentsAt command tokens starts

/-- The assignments that a text writes. -/
def assignmentsOf (command : Text) : Guarded (List Assignment) := do
  let found ← tokens command
  let starts ← startsFrom found 0 0 (found.map TokenAt.kind)
  if starts.head? = some 0 then assignmentsAt command found starts else return []

variable {src : Text} {tokens : List TokenAt} {ks : List Token}

/-! ### Values -/

private theorem rebase_list (position n : Nat) (ks : List Token) :
    rebase (TokenAt.list (position + n) ks) position = .ok (TokenAt.list n ks) := by
  induction ks generalizing n with
  | nil => rfl
  | cons k ks ih =>
    have hmore := ih (n + Text.width k.gap + Text.width k.source)
    rw [rebase, ← Nat.add_assoc, ← Nat.add_assoc] at hmore
    rw [rebase, TokenAt.list_cons, List.mapM_cons, hmore, Guarded.minus_eq_ok (by simp only; omega),
      Guarded.minus_eq_ok (by simp only; omega), TokenAt.list_cons]
    simp only [Guarded.ok_bind, Guarded.pure_eq_ok, Nat.add_assoc, Nat.add_sub_cancel_left]

/-- The first and the last token of a run bound its text, and counted from there they are those of the
text. -/
private theorem Reads.moved {k : Token} {rest : List Token} (h : Reads src tokens (k :: rest)) :
    ∃ first last found, Guarded.item tokens 0 = .ok first ∧
      Guarded.item tokens (tokens.length - 1) = .ok last ∧
      src.slice first.span.start last.span.stop = .ok (Token.covered (k :: rest)) ∧
      rebase tokens first.span.start = .ok found ∧
      Reads (Token.covered (k :: rest)) found (k :: rest) := by
  have hlength := h.length
  obtain ⟨s, b, rfl, rfl⟩ := h
  obtain ⟨last, hlast⟩ : ∃ last,
      (TokenAt.list (Text.width s) (Token.flush (k :: rest))).getLast? = some last := by
    rw [Token.flush, TokenAt.list_cons, List.getLast?_cons]
    exact ⟨_, rfl⟩
  have hstop := TokenAt.stop_of_getLast? hlast
  rw [written_flush] at hstop
  rw [List.getLast?_eq_getElem?] at hlast
  have hstart : Text.width s + Text.width [] = Text.width s := rfl
  refine ⟨⟨k.kind, ⟨Text.width s, _⟩⟩, last, TokenAt.list 0 (Token.flush (k :: rest)), rfl,
    Guarded.item_of_getElem? hlast, ?_, ?_, ⟨[], [], ?_, rfl⟩⟩
  · rw [hstop]
    exact Text.slice_append s _ b
  · exact rebase_list (Text.width s) 0 _
  · rw [List.append_nil, List.nil_append]

/-- The tokens of a value are read as its right side. -/
theorem valueAt_eq (h : Reads src tokens ks) {pre value post : List Token}
    (hks : ks = pre ++ (value ++ post)) :
    valueAt src tokens pre.length (pre.length + value.length) =
      .ok (if value.isEmpty then none else some (RightSide.ofTokens value)) := by
  obtain ⟨part, hpart, hreads⟩ := h.part hks
  have hlength := hreads.length
  rw [valueAt, hpart, Guarded.ok_bind]
  cases value with
  | nil =>
    obtain rfl : part = [] := List.length_eq_zero_iff.mp hlength
    rfl
  | cons k rest =>
    have hempty : part.isEmpty = false := by
      rw [List.isEmpty_eq_false_iff, ← List.length_pos_iff, hlength]
      exact Nat.succ_pos _
    obtain ⟨first, last, found, hfirst, hlast, hslice, hrebase, hfound⟩ := hreads.moved
    have hminus : Guarded.minus part.length 1 = .ok (part.length - 1) :=
      Guarded.minus_eq_ok (by rw [hlength]; exact Nat.succ_pos _)
    rw [hempty, hfirst, hminus]
    simp only [Guarded.ok_bind, hlast, hslice, hrebase, rightSide, operand_eq hfound]
    rfl

/-! ### The places of assignments -/

/-- Tokens that are cut into a value and the assignments behind it. -/
inductive Parted : List Token → List Token → List (Text × List Token) → Prop
  | last (value : List Token) : Parted value value []
  | next {value more rest : List Token} {segments : List (Text × List Token)} {comma var behind : Token}
      {name : Text} (hcomma : comma.kind = .comma) (hvar : var.kind = .var name) (hto : behind.kind = .to)
      (h : Parted rest more segments) :
      Parted (value ++ comma :: var :: behind :: rest) value ((name, more) :: segments)

/-- The places of assignments of which the first begins at a place. -/
def places (i : Nat) : List (Text × List Token) → List Nat
  | [] => []
  | s :: segments => i :: places (i + s.2.length + 3) segments

theorem Parted.cons {k : Token} {rest value : List Token} {segments : List (Text × List Token)}
    (h : Parted rest value segments) : Parted (k :: rest) (k :: value) segments := by
  cases h with
  | last => exact .last (k :: rest)
  | next hcomma hvar hto h =>
    rw [← List.cons_append]
    exact Parted.next hcomma hvar hto h

/-- A comma at top level and a target behind it begin a segment. -/
theorem segments_of_target? {depth : Int} {k : Token} {rest more : List Token} {name : Text}
    (hcomma : depth = 0 ∧ Assignment.isComma k.kind) (h : Assignment.target? rest = some (name, more)) :
    Assignment.segments depth (k :: rest) =
      ([], (name, (Assignment.segments depth more).1) :: (Assignment.segments depth more).2) := by
  rw [Assignment.segments]
  split
  · rename_i name' more' heq
    rw [if_pos hcomma, h] at heq
    obtain ⟨rfl, rfl⟩ := Prod.mk.inj (Option.some.inj heq)
    rfl
  · rename_i heq
    rw [if_pos hcomma, h] at heq
    cases heq

theorem segments_of_none {depth : Int} {k : Token} {rest : List Token}
    (h : depth = 0 → Assignment.isComma k.kind → Assignment.target? rest = none) :
    Assignment.segments depth (k :: rest) =
      (k :: (Assignment.segments (depth + k.kind.nesting) rest).1,
        (Assignment.segments (depth + k.kind.nesting) rest).2) := by
  rw [Assignment.segments]
  split
  · rename_i heq
    split at heq
    · rename_i hcomma
      rw [h hcomma.1 hcomma.2] at heq
      cases heq
    · cases heq
  · rfl

/-- A target is a variable with `to` behind it. -/
theorem target?_eq_some_iff {name : Text} {more : List Token} :
    Assignment.target? ks = some (name, more) ↔
      ∃ var behind, ks = var :: behind :: more ∧ var.kind = .var name ∧ behind.kind = .to := by
  constructor
  · intro h
    rw [Assignment.target?.eq_def] at h
    split at h
    · obtain ⟨rfl, rfl⟩ := Prod.mk.inj (Option.some.inj h)
      exact ⟨_, _, rfl, rfl, rfl⟩
    · cases h
  · rintro ⟨⟨gap, kind, source⟩, ⟨gap', kind', source'⟩, rfl, hvar, hto⟩
    obtain rfl : kind = .var name := hvar
    obtain rfl : kind' = .to := hto
    rfl

theorem isComma_iff {k : Token.Kind} : Assignment.isComma k ↔ k = .comma := by
  constructor
  · intro h
    cases k <;> first | rfl | cases h
  · rintro rfl
    rfl

theorem isTo_iff {k : Option Token.Kind} : isTo k ↔ k = some .to := by
  constructor
  · intro h
    rw [isTo.eq_def] at h
    split at h
    · rfl
    · cases h
  · rintro rfl
    rfl

/-- A token is a comma before an assignment, or it is none. -/
theorem comma_cases (depth : Int) (k : Token) (rest : List Token) :
    (∃ name more, (depth = 0 ∧ Assignment.isComma k.kind) ∧
        Assignment.target? rest = some (name, more)) ∨
      (depth = 0 → Assignment.isComma k.kind → Assignment.target? rest = none) := by
  by_cases hcomma : depth = 0 ∧ Assignment.isComma k.kind
  · cases h : Assignment.target? rest with
    | none => exact .inr fun _ _ => rfl
    | some p => exact .inl ⟨p.1, p.2, hcomma, rfl⟩
  · exact .inr fun hdepth hk => absurd ⟨hdepth, hk⟩ hcomma

/-- The segments are parts of the tokens. -/
theorem parted_segments (depth : Int) (rest : List Token) :
    Parted rest (Assignment.segments depth rest).1 (Assignment.segments depth rest).2 := by
  induction hn : rest.length using Nat.strongRecOn generalizing depth rest with
  | ind n ih =>
    subst hn
    cases rest with
    | nil =>
      rw [Assignment.segments]
      exact .last []
    | cons k rest =>
      rcases comma_cases depth k rest with ⟨name, more, hcomma, htarget⟩ | hnone
      · rw [segments_of_target? hcomma htarget]
        obtain ⟨var, behind, rfl, hvar, hto⟩ := target?_eq_some_iff.mp htarget
        have hk := isComma_iff.mp hcomma.2
        have hlt : more.length < (k :: var :: behind :: more).length := by
          simp only [List.length_cons]
          omega
        rw [← List.nil_append (k :: _)]
        exact .next hk hvar hto (ih _ hlt depth more rfl)
      · rw [segments_of_none hnone]
        exact (ih _ (Nat.lt_succ_self _) _ rest rfl).cons

private theorem beginsSegment_zero (h : Reads src tokens ks) {k : Token} {rest : List Token}
    (hks : ks = k :: rest) : beginsSegment tokens 0 = .ok (isTo (rest.head?.map Token.kind)) := by
  have hat : kindAt? tokens 1 = rest.head?.map Token.kind :=
    h.kindAt? (show ks = [k] ++ rest from hks)
  rw [beginsSegment, hat]
  rfl

private theorem beginsSegment_succ (h : Reads src tokens ks) {pre rest : List Token} {p k : Token}
    (hks : ks = pre ++ p :: k :: rest) :
    beginsSegment tokens (pre.length + 1) =
      .ok (Assignment.isComma p.kind && isTo (rest.head?.map Token.kind)) := by
  have hsplit : ks = (pre ++ [p, k]) ++ rest := by rw [hks, List.append_assoc]; rfl
  have hat := h.kindAt? hsplit
  rw [List.length_append] at hat
  have hbefore := h.kindAt? hks
  rw [List.head?_cons, Option.map_some, kindAt?, Option.map_eq_some_iff] at hbefore
  obtain ⟨before, hget, hkind⟩ := hbefore
  rw [beginsSegment, Guarded.minus_eq_ok (Nat.succ_pos _), Guarded.ok_bind, Nat.succ_sub_one,
    Guarded.item_of_getElem? hget, Guarded.ok_bind, hkind, ← hat]
  rfl

/-- Where no assignment is to be found, no `to` is behind a name. -/
private theorem isTo_of_target?_eq_none {k : Token} {rest : List Token} {name : Text}
    (h : Assignment.target? (k :: rest) = none) (hk : k.kind = .var name) :
    isTo (rest.head?.map Token.kind) = false := by
  rw [Bool.eq_false_iff]
  intro hto
  obtain ⟨behind, hhead, hbehind⟩ := Option.map_eq_some_iff.mp (isTo_iff.mp hto)
  obtain ⟨more, rfl⟩ := List.head?_eq_some_iff.mp hhead
  have hsome : Assignment.target? (k :: behind :: more) = some (name, more) :=
    target?_eq_some_iff.mpr ⟨k, behind, rfl, hk, hbehind⟩
  rw [h] at hsome
  cases hsome

/-- A token that begins no segment is passed over. -/
private theorem startsFrom_of_not {depth : Int} {i : Nat} {k : Token.Kind} {kinds : List Token.Kind}
    (h : ∀ name, k = .var name → depth = 0 → beginsSegment tokens i = .ok false) :
    startsFrom tokens depth i (k :: kinds) =
      startsFrom tokens (depth + k.nesting) (i + 1) kinds := by
  have hsame : beginsAt tokens depth i k = .ok false := by
    cases k
    case var name =>
      by_cases hdepth : depth = 0
      · exact (if_pos hdepth).trans (h name rfl hdepth)
      · exact if_neg hdepth
    all_goals rfl
  rw [startsFrom, hsame, Guarded.ok_bind]
  exact bind_pure _

/-- Where a segment begins its start is listed. -/
private theorem startsFrom_of_begins {i : Nat} {name : Text} {kinds : List Token.Kind}
    (h : beginsSegment tokens i = .ok true) :
    startsFrom tokens 0 i (.var name :: kinds) =
      (i :: ·) <$> startsFrom tokens 0 (i + 1) kinds := by
  rw [startsFrom, beginsAt, if_pos rfl, h, Guarded.ok_bind]
  exact bind_pure_comp _ _

/-- **The places of assignments** are those of the segments. -/
private theorem startsFrom_eq (h : Reads src tokens ks) {depth : Int} {pre rest : List Token}
    {p : Token} (hks : ks = pre ++ p :: rest)
    (hp : depth = 0 → Assignment.isComma p.kind → Assignment.target? rest = none) :
    startsFrom tokens depth (pre.length + 1) (rest.map Token.kind) =
      .ok (places (pre.length + 1 + (Assignment.segments depth rest).1.length + 1)
        (Assignment.segments depth rest).2) := by
  induction hn : rest.length using Nat.strongRecOn generalizing depth pre p rest with
  | ind n ih =>
    subst hn
    cases rest with
    | nil =>
      rw [Assignment.segments]
      rfl
    | cons k rest =>
      rcases comma_cases depth k rest with ⟨name, more, hcomma, htarget⟩ | hnone
      · rw [segments_of_target? hcomma htarget]
        obtain ⟨rfl, hk⟩ := hcomma
        obtain ⟨var, behind, rfl, hvar, hto⟩ := target?_eq_some_iff.mp htarget
        have hkcomma := isComma_iff.mp hk
        have hvarAt : ks = (pre ++ [p]) ++ k :: var :: behind :: more := by
          rw [hks, List.append_assoc]; rfl
        have hmoreAt : ks = (pre ++ [p, k, var]) ++ behind :: more := by
          rw [hks, List.append_assoc]; rfl
        have hbehind : (0 : Int) = 0 → Assignment.isComma behind.kind →
            Assignment.target? more = none := by
          rw [hto]; intro _ hcomma; cases hcomma
        have hbegins := beginsSegment_succ h hvarAt
        have hmore := ih more.length (by simp only [List.length_cons]; omega) hmoreAt hbehind rfl
        rw [List.length_append, List.length_singleton, hk, List.head?_cons, Option.map_some,
          hto] at hbegins
        rw [List.length_append, List.length_cons, List.length_cons, List.length_singleton] at hmore
        rw [List.map_cons, startsFrom_of_not (by rw [hkcomma]; intro _ h; cases h), List.map_cons,
          hkcomma, hvar]
        have hzero : (0 : Int) + Token.Kind.nesting .comma = 0 := rfl
        have hzero' : (0 : Int) + Token.Kind.nesting .to = 0 := rfl
        rw [hzero, startsFrom_of_begins hbegins, List.map_cons,
          startsFrom_of_not (by rw [hto]; intro _ h; cases h), hto, hzero', hmore]
        simp only [Guarded.map_ok, places, List.length_nil, Nat.add_zero]
        congr 3
        omega
      · have hmoreAt : ks = (pre ++ [p]) ++ k :: rest := by rw [hks, List.append_assoc]; rfl
        have hk : depth + k.kind.nesting = 0 → Assignment.isComma k.kind →
            Assignment.target? rest = none := by
          intro hdepth hcomma
          have hzero : k.kind.nesting = 0 := by rw [isComma_iff.mp hcomma]; rfl
          exact hnone (by omega) hcomma
        have hmore := ih rest.length (Nat.lt_succ_self _) hmoreAt hk rfl
        have hnot : ∀ name, k.kind = .var name → depth = 0 →
            beginsSegment tokens (pre.length + 1) = .ok false := by
          intro name hvar hdepth
          rw [beginsSegment_succ h hks]
          cases hcomma : Assignment.isComma p.kind with
          | false => rfl
          | true => rw [isTo_of_target?_eq_none (hp hdepth hcomma) hvar, Bool.and_false]
        rw [List.length_append, List.length_singleton] at hmore
        rw [segments_of_none hnone, List.map_cons, startsFrom_of_not hnot, hmore]
        have hplace : pre.length + 1 + 1 + (Assignment.segments (depth + k.kind.nesting) rest).1.length =
            pre.length + 1 + ((Assignment.segments (depth + k.kind.nesting) rest).1.length + 1) := by
          omega
        rw [hplace, List.length_cons]

private theorem beginsSegment_isOk (h : Reads src tokens ks) {pre rest : List Token} {k : Token}
    (hks : ks = pre ++ k :: rest) : ∃ begins, beginsSegment tokens pre.length = .ok begins := by
  rcases List.eq_nil_or_concat pre with rfl | ⟨before, p, rfl⟩
  · exact ⟨_, beginsSegment_zero h hks⟩
  · rw [List.concat_eq_append, List.append_assoc] at hks
    rw [List.concat_eq_append, List.length_append]
    exact ⟨_, beginsSegment_succ h hks⟩

/-- Wherever the search begins, it finds places that are not before. -/
private theorem exists_startsFrom (h : Reads src tokens ks) (depth : Int) {pre rest : List Token}
    (hks : ks = pre ++ rest) :
    ∃ starts, startsFrom tokens depth pre.length (rest.map Token.kind) = .ok starts ∧
      ∀ i ∈ starts, pre.length ≤ i := by
  induction rest generalizing depth pre with
  | nil => exact ⟨[], rfl, fun i hi => nomatch hi⟩
  | cons k rest ih =>
    obtain ⟨begins, hbegins⟩ : ∃ begins, beginsAt tokens depth pre.length k.kind = .ok begins := by
      cases k.kind
      case var name =>
        by_cases hdepth : depth = 0
        · rw [beginsAt, if_pos hdepth]
          exact beginsSegment_isOk h hks
        · exact ⟨false, if_neg hdepth⟩
      all_goals exact ⟨false, rfl⟩
    obtain ⟨more, hmore, hge⟩ := ih (depth + k.kind.nesting)
      (show ks = (pre ++ [k]) ++ rest by rw [hks, List.append_cons])
    rw [List.length_append, List.length_singleton] at hmore hge
    refine ⟨if begins then pre.length :: more else more, ?_, fun i hi => ?_⟩
    · rw [List.map_cons, startsFrom, hbegins, Guarded.ok_bind, hmore]
      rfl
    · split at hi
      · rcases List.mem_cons.mp hi with rfl | hi
        · exact Nat.le_refl _
        · exact Nat.le_of_succ_le (hge i hi)
      · exact Nat.le_of_succ_le (hge i hi)

/-! ### The same assignments -/

/-- An assignment of a segment; a target without a value is left out. -/
private def ofSegment (s : Text × List Token) : Option Assignment :=
  if s.2.isEmpty then none else some ⟨s.1, RightSide.ofTokens s.2⟩

private theorem filterMap_cons_eq (s : Text × List Token) (segments : List (Text × List Token)) :
    (s :: segments).filterMap ofSegment =
      ((if s.2.isEmpty then none else some (RightSide.ofTokens s.2)).map
        fun v => (⟨s.1, v⟩ : Assignment)).toList ++ segments.filterMap ofSegment := by
  rw [List.filterMap_cons, ofSegment]
  cases s.2.isEmpty <;> rfl

/-- **A segment is read as an assignment**, from its start to the next comma that begins another. -/
private theorem assignmentsAt_cons (h : Reads src tokens ks) {pre value post : List Token}
    {var behind : Token} {name : Text} {starts : List Nat} {more : List Assignment}
    (hks : ks = pre ++ var :: behind :: (value ++ post)) (hvar : var.kind = .var name)
    (hstop : stopBefore tokens starts = .ok (pre.length + 2 + value.length))
    (hmore : assignmentsAt src tokens starts = .ok more) :
    assignmentsAt src tokens (pre.length :: starts) =
      .ok (((if value.isEmpty then none else some (RightSide.ofTokens value)).map
        fun v => (⟨name, v⟩ : Assignment)).toList ++ more) := by
  have hat := h.kindAt? hks
  rw [List.head?_cons, Option.map_some, hvar, kindAt?, Option.map_eq_some_iff] at hat
  obtain ⟨found, hget, hkind⟩ := hat
  have hsplit : ks = (pre ++ [var, behind]) ++ (value ++ post) := by
    rw [hks, List.append_assoc]; rfl
  have hvalue : valueAt src tokens (pre.length + 2) (pre.length + 2 + value.length) =
      .ok (if value.isEmpty then none else some (RightSide.ofTokens value)) := by
    simpa only [List.length_append, List.length_cons, List.length_nil] using valueAt_eq h hsplit
  rw [assignmentsAt, hstop, Guarded.ok_bind, Guarded.item_of_getElem? hget, Guarded.ok_bind, hkind]
  dsimp only
  rw [hvalue, Guarded.ok_bind, hmore]
  rfl

/-- The assignments at the places of segments are those of the segments. -/
private theorem assignmentsAt_eq (h : Reads src tokens ks) {pre rest value : List Token}
    {segments : List (Text × List Token)} {var behind : Token} {name : Text}
    (hparted : Parted rest value segments) (hks : ks = pre ++ var :: behind :: rest)
    (hvar : var.kind = .var name) :
    assignmentsAt src tokens (places pre.length ((name, value) :: segments)) =
      .ok (((name, value) :: segments).filterMap ofSegment) := by
  rw [places, filterMap_cons_eq]
  induction hparted generalizing pre var behind name with
  | last value =>
    have hsplit : ks = pre ++ var :: behind :: (value ++ []) := by rw [hks, List.append_nil]
    have hstop : stopBefore tokens [] = .ok (pre.length + 2 + value.length) := by
      rw [stopBefore, h.length, hks, List.length_append, List.length_cons, List.length_cons]
      exact congrArg Except.ok (by omega)
    exact assignmentsAt_cons h hsplit hvar hstop rfl
  | @next value more rest segments comma var' behind' name' hcomma hvar' hto _ ih =>
    have hsplit : ks = (pre ++ var :: behind :: value ++ [comma]) ++ var' :: behind' :: rest := by
      rw [hks]
      simp only [List.append_assoc, List.cons_append, List.nil_append]
    have hplace : (pre ++ var :: behind :: value ++ [comma]).length = pre.length + value.length + 3 := by
      simp only [List.length_append, List.length_cons, List.length_nil]
      omega
    have hmore := ih hsplit hvar'
    have hstop (starts : List Nat) :
        stopBefore tokens ((pre.length + value.length + 3) :: starts) =
          .ok (pre.length + 2 + value.length) := by
      rw [stopBefore, Guarded.minus_eq_ok (by omega)]
      exact congrArg Except.ok (by omega)
    rw [hplace] at hmore
    rw [places, filterMap_cons_eq]
    exact assignmentsAt_cons h hks hvar (hstop _) hmore

/-- **The assignments of a text are read without a fault.** -/
theorem assignmentsOf_eq (t : Text) : assignmentsOf t = .ok (Assignment.ofText t) := by
  have h := reads_tokens t
  rw [assignmentsOf, tokens_eq, Guarded.ok_bind, h.kinds, Assignment.ofText]
  generalize TokenAt.list 0 (Token.read t) = found at h
  generalize Token.read t = ks at h
  cases htarget : Assignment.target? ks with
  | some p =>
    obtain ⟨name, rest⟩ := p
    obtain ⟨var, behind, rfl, hvar, hto⟩ := target?_eq_some_iff.mp htarget
    have hbehind : (0 : Int) = 0 → Assignment.isComma behind.kind →
        Assignment.target? rest = none := by
      rw [hto]; intro _ hcomma; cases hcomma
    have hbegins := beginsSegment_zero h rfl
    have hplaces : startsFrom found 0 2 (rest.map Token.kind) =
        .ok (places (2 + (Assignment.segments 0 rest).1.length + 1) (Assignment.segments 0 rest).2) :=
      startsFrom_eq h (show _ = [var] ++ behind :: rest from rfl) hbehind
    have hassignments := assignmentsAt_eq h (parted_segments 0 rest)
      (show _ = [] ++ var :: behind :: rest from rfl) hvar
    have hzero : (0 : Int) + Token.Kind.nesting .to = 0 := rfl
    have hplace : 2 + (Assignment.segments 0 rest).1.length + 1 =
        0 + (Assignment.segments 0 rest).1.length + 3 := by
      omega
    rw [List.head?_cons, Option.map_some, hto] at hbegins
    rw [places, List.length_nil] at hassignments
    rw [List.map_cons, hvar, startsFrom_of_begins hbegins, List.map_cons,
      startsFrom_of_not (by rw [hto]; intro _ h; cases h), hto, hzero, hplaces, hplace, Guarded.map_ok,
      Guarded.ok_bind, List.head?_cons, if_pos rfl, hassignments, Assignment.ofTokens, htarget]
    rfl
  | none =>
    rw [Assignment.ofTokens, htarget]
    cases ks with
    | nil => rfl
    | cons k rest =>
      have hnot : ∀ name, k.kind = .var name → (0 : Int) = 0 → beginsSegment found 0 = .ok false := by
        intro name hvar _
        rw [beginsSegment_zero h rfl, isTo_of_target?_eq_none htarget hvar]
      obtain ⟨starts, hstarts, hge⟩ := exists_startsFrom h (0 + k.kind.nesting)
        (show k :: rest = [k] ++ rest from rfl)
      have hhead : starts.head? ≠ some 0 := by
        intro hhead
        exact Nat.not_succ_le_zero _ (hge 0 (List.mem_of_head? hhead))
      rw [List.length_singleton] at hstarts
      rw [List.map_cons, startsFrom_of_not hnot, hstarts, Guarded.ok_bind, if_neg hhead]
      rfl

end InPlace

end Hyperfiction

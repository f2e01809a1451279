import Hyperfiction.Proofs.Expr.Enclosed
import Hyperfiction.Proofs.InPlace.Lexer

/-!
# Expressions read in a buffer

The parser goes through the tokens of a buffer by their places. It does not look for the end of
parentheses before it reads what stands in them, except in a call, whose arguments it bounds by the place
of the closing one; and it cuts the text of a query out between the first and the last of its tokens. That
this reads the expressions that `Hyperfiction.Expr.ofTokens?` reads rests on `Expr.isLocal_sumAt`: a reader
that goes on stops at the parenthesis where the other one was stopped.

`InPlace.Reads` says that tokens with spans are those of a run of tokens; every part of a run is such a run
again (`InPlace.Reads.part`).
-/

namespace Hyperfiction

/-- Tokens without the gap before the first. -/
def Token.flush : List Token → List Token
  | [] => []
  | k :: ks => { k with gap := [] } :: ks

namespace InPlace

/-! ### Runs of tokens -/

/-- The text from the start of the first token to the end of the last. -/
def sourceOf (src : Text) (tokens : List TokenAt) : Guarded Text :=
  match tokens.head?, tokens.getLast? with
  | some first, some last => src.slice first.span.start last.span.stop
  | _, _ => pure []

/-- What the token at a place is. -/
def kindAt? (tokens : List TokenAt) (i : Nat) : Option Token.Kind := tokens[i]?.map TokenAt.kind

/-- The tokens found are those of a run that stands in the text. -/
def Reads (src : Text) (tokens : List TokenAt) (ks : List Token) : Prop :=
  ∃ s b, src = s ++ (Token.covered ks ++ b) ∧ tokens = TokenAt.list (Text.width s) (Token.flush ks)

theorem written_flush (ks : List Token) : Token.written (Token.flush ks) = Token.covered ks := by
  cases ks <;> rfl

theorem TokenAt.list_append (start : Nat) (ks ls : List Token) :
    TokenAt.list start (ks ++ ls) =
      TokenAt.list start ks ++ TokenAt.list (start + Text.width (Token.written ks)) ls := by
  induction ks generalizing start with
  | nil => rfl
  | cons k ks ih =>
    rw [List.cons_append, TokenAt.list_cons, TokenAt.list_cons, ih, List.cons_append, Token.written,
      Text.width_append, Text.width_append]
    simp only [Nat.add_assoc]

theorem TokenAt.map_kind_list (start : Nat) (ks : List Token) :
    (TokenAt.list start ks).map TokenAt.kind = ks.map Token.kind := by
  induction ks generalizing start with
  | nil => rfl
  | cons k ks ih => rw [TokenAt.list_cons, List.map_cons, List.map_cons, ih]

theorem TokenAt.length_list (start : Nat) (ks : List Token) :
    (TokenAt.list start ks).length = ks.length := by
  rw [← List.length_map, TokenAt.map_kind_list, List.length_map]

/-- The last token ends where the text that the tokens cover ends. -/
theorem TokenAt.stop_of_getLast? {start : Nat} {ks : List Token} {last : TokenAt}
    (h : (TokenAt.list start ks).getLast? = some last) :
    last.span.stop = start + Text.width (Token.written ks) := by
  induction ks generalizing start with
  | nil => cases h
  | cons k ks ih =>
    rw [TokenAt.list_cons, List.getLast?_cons] at h
    rw [Token.written, Text.width_append, Text.width_append]
    cases hlast : (TokenAt.list (start + Text.width k.gap + Text.width k.source) ks).getLast? with
    | none =>
      have hnil := congrArg List.length (List.getLast?_eq_none_iff.mp hlast)
      rw [TokenAt.length_list, List.length_nil, List.length_eq_zero_iff] at hnil
      subst hnil
      obtain rfl := Option.some.inj h
      simp [Token.written, Nat.add_assoc]
    | some last' =>
      rw [hlast] at h
      obtain rfl := Option.some.inj h
      rw [ih hlast]
      simp only [Nat.add_assoc]

/-- The tokens of a run stand where the run stands. -/
theorem reads_list (s : Text) (ks : List Token) (b : Text) :
    Reads (s ++ (Token.written ks ++ b)) (TokenAt.list (Text.width s) ks) ks := by
  cases ks with
  | nil => exact ⟨s, b, rfl, rfl⟩
  | cons k ks =>
    refine ⟨s ++ k.gap, b, ?_, ?_⟩
    · simp only [Token.written, Token.covered, List.append_assoc]
    · simp only [Token.flush, TokenAt.list_cons, Text.width_append, Text.width_nil, Nat.add_zero]

theorem reads_nil (src : Text) : Reads src [] [] := reads_list [] [] src

/-- The tokens of a text are read off the text. -/
theorem reads_tokens (t : Text) : Reads t (TokenAt.list 0 (Token.read t)) (Token.read t) := by
  obtain ⟨b, ht, -⟩ := Token.exists_written_readBehind false t
  have h := reads_list [] (Token.read t) b
  rwa [List.nil_append, ← show t = Token.written (Token.read t) ++ b from ht, Text.width_nil] at h

namespace Reads

variable {src : Text} {tokens : List TokenAt} {ks : List Token}

/-- Tokens that are read in place have their kinds. -/
theorem kinds (h : Reads src tokens ks) : tokens.map TokenAt.kind = ks.map Token.kind := by
  obtain ⟨s, b, -, rfl⟩ := h
  rw [TokenAt.map_kind_list]
  cases ks <;> rfl

theorem length (h : Reads src tokens ks) : tokens.length = ks.length := by
  rw [← List.length_map, h.kinds, List.length_map]

theorem kinds_drop (h : Reads src tokens ks) {pre rest : List Token} (hks : ks = pre ++ rest) :
    (tokens.drop pre.length).map TokenAt.kind = rest.map Token.kind := by
  rw [List.map_drop, h.kinds, hks, ← List.map_drop, List.drop_left]

theorem kindAt?_add (h : Reads src tokens ks) {pre rest : List Token} (hks : ks = pre ++ rest)
    (j : Nat) : kindAt? tokens (pre.length + j) = rest[j]?.map Token.kind := by
  have hkinds := congrArg (·[j]?) (h.kinds_drop hks)
  simp only [List.getElem?_map, List.getElem?_drop] at hkinds
  exact hkinds

/-- The token at a place is the first of what is left there. -/
theorem kindAt? (h : Reads src tokens ks) {pre rest : List Token} (hks : ks = pre ++ rest) :
    kindAt? tokens pre.length = rest.head?.map Token.kind := by
  rw [List.head?_eq_getElem?]
  exact h.kindAt?_add hks 0

theorem sourceOf (h : Reads src tokens ks) : sourceOf src tokens = .ok (Token.covered ks) := by
  obtain ⟨s, b, rfl, rfl⟩ := h
  cases ks with
  | nil => rfl
  | cons k ks =>
    obtain ⟨last, hlast⟩ : ∃ last,
        (TokenAt.list (Text.width s) (Token.flush (k :: ks))).getLast? = some last := by
      rw [Token.flush, TokenAt.list_cons, List.getLast?_cons]
      exact ⟨_, rfl⟩
    have hstop := TokenAt.stop_of_getLast? hlast
    rw [written_flush] at hstop
    rw [InPlace.sourceOf, hlast, Token.flush, TokenAt.list_cons, List.head?_cons]
    simp only [Text.width_nil, Nat.add_zero, hstop]
    exact Text.slice_append s _ b

/-- A part of the tokens is granted, and it is the run at its places. -/
theorem part (h : Reads src tokens ks) {pre mid post : List Token} (hks : ks = pre ++ (mid ++ post)) :
    ∃ ls, Guarded.part tokens pre.length (pre.length + mid.length) = .ok ls ∧
      Reads src ls mid := by
  obtain ⟨s, b, rfl, rfl⟩ := h
  subst hks
  have hpart (start : Nat) (us ms vs : List Token) (hu : us.length = pre.length)
      (hm : ms.length = mid.length) :
      Guarded.part (TokenAt.list start (us ++ (ms ++ vs))) pre.length (pre.length + mid.length) =
        .ok (TokenAt.list (start + Text.width (Token.written us)) ms) := by
    have h := Guarded.part_append (TokenAt.list start us)
      (TokenAt.list (start + Text.width (Token.written us)) ms)
      (TokenAt.list (start + Text.width (Token.written us) + Text.width (Token.written ms)) vs)
    rwa [← TokenAt.list_append, ← TokenAt.list_append, TokenAt.length_list, TokenAt.length_list, hu,
      hm] at h
  cases pre with
  | nil =>
    cases mid with
    | nil => exact ⟨[], hpart _ [] [] _ rfl rfl, reads_nil _⟩
    | cons m mid =>
      refine ⟨_, hpart (Text.width s) [] (Token.flush (m :: mid)) post rfl rfl, ?_⟩
      refine ⟨s, Token.written post ++ b, ?_, rfl⟩
      simp only [List.nil_append, List.cons_append, Token.covered, Token.written_append,
        List.append_assoc]
  | cons p pre =>
    refine ⟨_, hpart (Text.width s) (Token.flush (p :: pre)) mid post rfl rfl, ?_⟩
    have hreads := reads_list (s ++ Token.covered (p :: pre)) mid (Token.written post ++ b)
    rw [Text.width_append, ← written_flush, List.append_assoc] at hreads
    simp only [List.cons_append, Token.covered, Token.written_append, List.append_assoc,
      written_flush] at hreads ⊢
    exact hreads

end Reads

/-! ### The steps of the parser -/

/-- Reads an expression at a place, and says which place is behind it. -/
abbrev Reader := Nat → Guarded (Option (Expr × Nat))

/-- Goes on reading operands behind `left`, as long as a token joins them. -/
def joinMore (tokens : List TokenAt) (operand : Reader)
    (join? : Token.Kind → Option (Expr → Expr → Expr)) (left : Expr) (i : Nat) :
    Guarded (Option (Expr × Nat)) :=
  match (kindAt? tokens i).bind join? with
  | none => pure (some (left, i))
  | some join => do
    match ← operand (i + 1) with
    | none => return none
    | some (right, next) =>
      if _h : i < next ∧ i < tokens.length then
        joinMore tokens operand join? (join left right) next
      else .error .stuck
termination_by tokens.length - i

/-- Reads operands that tokens join to the left. -/
def joined (tokens : List TokenAt) (operand : Reader)
    (join? : Token.Kind → Option (Expr → Expr → Expr)) : Reader := fun i => do
  match ← operand i with
  | none => return none
  | some (e, next) => joinMore tokens operand join? e next

/-- Reads an operand behind any number of minus signs. -/
def signed (tokens : List TokenAt) (operand : Reader) (i : Nat) : Guarded (Option (Expr × Nat)) :=
  if _h : i < tokens.length then
    match tokens[i].kind with
    | .minus => do return (← signed tokens operand (i + 1)).map fun p => (Expr.negated p.1, p.2)
    | _ => operand i
  else operand i
termination_by tokens.length - i

/-- The place of the parenthesis that closes `depth` open ones, among the tokens from a place on. -/
def matchingFrom : Nat → Nat → List Token.Kind → Option Nat
  | _, _, [] => none
  | depth, i, .leftParen :: ks => matchingFrom (depth + 1) (i + 1) ks
  | 0, _, .rightParen :: _ => none
  | 1, i, .rightParen :: _ => some i
  | depth + 2, i, .rightParen :: ks => matchingFrom (depth + 1) (i + 1) ks
  | depth, i, _ :: ks => matchingFrom depth (i + 1) ks

/-- The place of the parenthesis that matches the one at a place. -/
def matchingParen (tokens : List TokenAt) (first : Nat) : Option Nat :=
  matchingFrom 0 first ((tokens.drop first).map TokenAt.kind)

/-- The query that tokens ask. -/
def visitedQuery (src : Text) (tokens : List TokenAt) : Guarded (Option Query) :=
  match tokens.map TokenAt.kind with
  | [] => pure none
  | [.quoted name] => pure (some (.passage name))
  | [.word a, .word b, .word c, .contains, .quoted part] =>
    if a = "where".toList ∧ b = "its".toList ∧ c = "tags".toList then pure (some (.tag part))
    else do return some (.passage (Text.trim (← sourceOf src tokens)))
  | _ => do return some (.passage (Text.trim (← sourceOf src tokens)))

/-- Reads the arguments of a call up to its closing parenthesis. -/
def arguments (tokens : List TokenAt) (read : Reader) (close i : Nat) :
    Guarded (Option (List Expr)) := do
  match ← read i with
  | none => return none
  | some (e, next) =>
    match kindAt? tokens next with
    | some .comma =>
      if next + 1 = close then return some [e]
      else if _h : i ≤ next ∧ next < tokens.length then
        return (← arguments tokens read close (next + 1)).map (e :: ·)
      else .error .stuck
    | _ => return if next = close then some [e] else none
termination_by tokens.length - i

/-- Reads a call behind its name and colon. -/
def call? (src : Text) (tokens : List TokenAt) (read : Reader) (name : Text) (first : Nat) :
    Guarded (Option (Expr × Nat)) := do
  let name := name.map Char.toLower
  match matchingParen tokens (← Guarded.minus first 3) with
  | none => return none
  | some close =>
    if Expr.queryNames.contains name then
      let args ← Guarded.part tokens first close
      return (← visitedQuery src args).map fun query => (.visited query, close + 1)
    else if first < close then
      return (← arguments tokens read close first).map fun args => (.call name args, close + 1)
    else return if first = close then some (.call name [], close + 1) else none

/-- Reads an operand; `read` reads what stands in its parentheses. -/
def primary (src : Text) (tokens : List TokenAt) (read : Reader) : Reader := fun i =>
  match kindAt? tokens i with
  | some (.number x) => pure (some (.number x, i + 1))
  | some (.quoted t) => pure (some (.quoted t, i + 1))
  | some .yes => pure (some (.boolean true, i + 1))
  | some .no => pure (some (.boolean false, i + 1))
  | some .it => pure (some (.it, i + 1))
  | some (.var name) => pure (some (.var name, i + 1))
  | some (.word t) => pure (some (.word t, i + 1))
  | some .leftParen =>
    match kindAt? tokens (i + 1), kindAt? tokens (i + 2) with
    | some (.word name), some .colon => call? src tokens read name (i + 3)
    | _, _ => do
      match ← read (i + 1) with
      | none => return none
      | some (inner, next) =>
        match kindAt? tokens next with
        | some .rightParen => return some (inner, next + 1)
        | _ => return none
  | _ => pure none

/-- Reads a sum whose parentheses are nested less deep than a bound. -/
def sumAt (src : Text) (tokens : List TokenAt) : Nat → Reader
  | 0 => fun i => if i < tokens.length then .error .stuck else pure none
  | depth + 1 =>
    joined tokens (joined tokens (signed tokens (joined tokens
      (primary src tokens (sumAt src tokens depth)) Expr.possessed?)) Expr.product?) Expr.sum?

/-- The expression that is made of all the tokens. -/
def operand (src : Text) (tokens : List TokenAt) : Guarded (Option Expr) := do
  match ← sumAt src tokens tokens.length 0 with
  | none => return none
  | some (e, next) => return if next = tokens.length then some e else none

/-! ### The same expressions -/

/-- At every place with at most `n` tokens left the reader reads what the other one reads there. -/
def ReadsAs (ks : List Token) (n : Nat) (read : Reader) (R : Expr.Reader) : Prop :=
  ∀ pre rest, ks = pre ++ rest → rest.length ≤ n →
    read pre.length = .ok ((R rest).map fun p => (p.1, ks.length - p.2.length))

variable {src : Text} {tokens : List TokenAt} {ks : List Token} {n : Nat} {read : Reader}
  {R : Expr.Reader}

private theorem place_eq {pre used rest : List Token} (hks : ks = pre ++ (used ++ rest)) :
    ks.length - rest.length = (pre ++ used).length := by
  rw [hks, ← List.append_assoc, List.length_append, Nat.add_sub_cancel]

/-- **Operands are joined in place**, if each is read. -/
private theorem joinMore_eq (h : Reads src tokens ks) (hread : ReadsAs ks n read R) (hlocal : R.IsLocal)
    (join? : Token.Kind → Option (Expr → Expr → Expr)) (left : Expr) {pre rest : List Token}
    (hks : ks = pre ++ rest) (hn : rest.length ≤ n) :
    joinMore tokens read join? left pre.length =
      .ok ((Expr.joinMore R join? left rest).map fun p => (p.1, ks.length - p.2.length)) := by
  induction hm : rest.length using Nat.strongRecOn generalizing pre rest left with
  | ind m ih =>
    subst hm
    rw [joinMore, h.kindAt? hks]
    cases rest with
    | nil =>
      rw [Expr.joinMore, hks, List.append_nil]
      rfl
    | cons k rest =>
      rw [List.head?_cons, Option.map_some, Option.bind_some]
      cases hj : join? k.kind with
      | none =>
        have hplace := place_eq (show ks = pre ++ ([] ++ k :: rest) from hks)
        rw [List.append_nil] at hplace
        rw [Expr.joinMore_of_none hj, Option.map_some, hplace]
        rfl
      | some join =>
        rw [Expr.joinMore_of_some hlocal hj]
        have hnext := hread (pre ++ [k]) rest (by rw [hks, List.append_cons])
          (by rw [List.length_cons] at hn; omega)
        rw [List.length_append, List.length_singleton] at hnext
        simp only [hnext, Guarded.ok_bind]
        cases hR : R rest with
        | none => rfl
        | some p =>
          obtain ⟨right, rest'⟩ := p
          obtain ⟨used, rfl, -, -⟩ := hlocal.taken hR
          have hsplit : ks = pre ++ (k :: used ++ rest') := hks
          have hmore := ih rest'.length (by simp only [List.length_cons, List.length_append]; omega)
            (join left right) (hsplit.trans (List.append_assoc _ _ _).symm)
            (by simp only [List.length_cons, List.length_append] at hn; omega) rfl
          have hlength := h.length
          have hlt : pre.length < (pre ++ k :: used).length ∧ pre.length < tokens.length := by
            rw [h.length, hks]
            simp only [List.length_cons, List.length_append]
            omega
          simp only [Option.map_some, place_eq hsplit]
          rw [dif_pos hlt]
          exact hmore

private theorem joined_eq (h : Reads src tokens ks) (hread : ReadsAs ks n read R) (hlocal : R.IsLocal)
    (join? : Token.Kind → Option (Expr → Expr → Expr)) :
    ReadsAs ks n (joined tokens read join?) (Expr.joined R join?) := by
  intro pre rest hks hn
  rw [joined, hread pre rest hks hn, Guarded.ok_bind, Expr.joined]
  cases hR : R rest with
  | none => rfl
  | some p =>
    obtain ⟨e, rest'⟩ := p
    obtain ⟨used, rfl, -, -⟩ := hlocal.taken hR
    have hmore := joinMore_eq h hread hlocal join? e (hks.trans (List.append_assoc _ _ _).symm)
      (by rw [List.length_append] at hn; omega)
    simp only [Option.map_some, place_eq hks]
    exact hmore

private theorem signed_eq (h : Reads src tokens ks) (hread : ReadsAs ks n read R) :
    ReadsAs ks n (signed tokens read) (Expr.signed R) := by
  intro pre rest hks hn
  induction rest generalizing pre with
  | nil =>
    have hend : ¬ pre.length < tokens.length := by
      rw [h.length, hks, List.append_nil]
      omega
    rw [signed, dif_neg hend, Expr.signed]
    exact hread pre [] hks hn
  | cons k rest ih =>
    have hlt : pre.length < tokens.length := by
      rw [h.length, hks, List.length_append, List.length_cons]
      omega
    have hkind : tokens[pre.length].kind = k.kind := by
      have hat := h.kindAt? hks
      rw [InPlace.kindAt?, List.getElem?_eq_getElem hlt] at hat
      exact Option.some.inj hat
    have hnext := ih (pre ++ [k]) (by rw [hks, List.append_cons])
      (by rw [List.length_cons] at hn; omega)
    rw [List.length_append, List.length_singleton] at hnext
    have hhere := hread pre (k :: rest) hks hn
    rw [signed, dif_pos hlt, Expr.signed]
    simp only [hkind, hnext]
    cases hk : k.kind
    case minus =>
      simp only [Guarded.ok_bind, Guarded.pure_eq_ok, Option.map_map]
      rfl
    all_goals exact hhere

/-! ### Calls -/

private theorem matchingFrom_cons (m i : Nat) (k : Token.Kind) (ks : List Token.Kind) :
    matchingFrom (m + 1) i (k :: ks) =
      match k.step? m with
      | none => some i
      | some m' => matchingFrom (m' + 1) (i + 1) ks := by
  cases k <;> cases m <;> rfl

/-- The parenthesis that closes is found in place. -/
private theorem matchingFrom_eq (m i : Nat) (ls : List Token) :
    matchingFrom (m + 1) i (ls.map Token.kind) =
      (Token.closing? m ls).map fun p => i + p.1.length := by
  induction ls generalizing m i with
  | nil => rfl
  | cons k ls ih =>
    rw [List.map_cons, matchingFrom_cons, Token.closing?_cons]
    cases k.kind.step? m with
    | none => rfl
    | some m' =>
      simp only [ih, Option.map_map]
      congr 1
      funext p
      simp only [Function.comp_def, List.length_cons]
      omega

/-- The parenthesis that matches is as far away as what stands inside is long. -/
theorem matchingParen_eq (h : Reads src tokens ks) {pre rest : List Token} {k : Token}
    (hks : ks = pre ++ k :: rest) (hk : k.kind = .leftParen) :
    matchingParen tokens pre.length =
      (Token.closing? 0 rest).map fun p => pre.length + 1 + p.1.length := by
  rw [matchingParen, h.kinds_drop hks, List.map_cons, hk, ← matchingFrom_eq]
  rfl

theorem visitedQuery_eq (h : Reads src tokens ks) :
    visitedQuery src tokens = .ok (Query.ofTokens? ks) := by
  rw [visitedQuery, h.kinds, h.sourceOf]
  split
  · rename_i hkinds
    rw [Query.ofTokens?, hkinds]
    rfl
  · rename_i hkinds
    rw [Query.ofTokens?, hkinds]
    rfl
  · rename_i a b c part hkinds
    rw [Query.ofTokens?, hkinds]
    by_cases htags : a = "where".toList ∧ b = "its".toList ∧ c = "tags".toList
    · rw [if_pos htags]
      exact (congrArg Except.ok (if_pos htags)).symm
    · rw [if_neg htags]
      exact (congrArg Except.ok (if_neg htags)).symm
  · rename_i hnone hone htags
    rw [Query.ofTokens?]
    split
    · rename_i hkinds
      exact absurd hkinds hnone
    · rename_i hkinds
      exact absurd hkinds (hone _)
    · rename_i hkinds
      exact absurd hkinds (htags _ _ _ _)
    · rfl

/-- Behind one argument the arguments end, or go on behind a comma, or something else stands there. -/
private theorem arguments_of_some (h : Reads src tokens ks) (hread : ReadsAs ks n read R)
    (hlocal : R.IsLocal) {pre used more rest : List Token} {k : Token} {e : Expr}
    (hks : ks = pre ++ (used ++ more ++ k :: rest)) (hn : (used ++ more ++ k :: rest).length ≤ n)
    (hk : k.kind = .rightParen) (hbalanced : Token.Balanced (used ++ more))
    (hR : R (used ++ more) = some (e, more)) :
    arguments tokens read (pre.length + (used ++ more).length) pre.length =
      match more with
      | [] => .ok (some [e])
      | c :: more =>
        match c.kind with
        | .comma =>
          if more = [] then .ok (some [e])
          else do
            let es ← arguments tokens read (pre.length + (used ++ c :: more).length)
              (pre ++ used ++ [c]).length
            return es.map (e :: ·)
        | _ => .ok none := by
  rw [arguments, hread pre _ hks hn, hlocal.closed hbalanced k rest hk, hR, Guarded.ok_bind]
  rw [List.append_assoc] at hks
  have hat := h.kindAt? (hks.trans (List.append_assoc _ _ _).symm)
  simp only [Option.map_some, place_eq hks, hat]
  cases more with
  | nil =>
    rw [List.nil_append, List.head?_cons, Option.map_some, hk]
    simp only [List.append_nil, List.length_append, if_true]
    rfl
  | cons c more =>
    rw [List.cons_append, List.head?_cons, Option.map_some]
    dsimp only
    have hclose : pre.length + (used ++ c :: more).length = (pre ++ used).length + 1 + more.length := by
      simp only [List.length_append, List.length_cons]
      omega
    have hlt : pre.length ≤ (pre ++ used).length ∧ (pre ++ used).length < tokens.length := by
      rw [h.length, hks]
      simp only [List.length_append, List.length_cons]
      omega
    have hbehind : (pre ++ used ++ [c]).length = (pre ++ used).length + 1 := List.length_append
    rw [hclose, hbehind]
    cases hc : c.kind
    case comma =>
      dsimp only
      rw [dif_pos hlt]
      cases more with
      | nil =>
        rw [List.length_nil, Nat.add_zero, if_pos rfl, if_pos rfl]
        rfl
      | cons d more =>
        rw [if_neg (by rw [List.length_cons]; omega), if_neg (List.cons_ne_nil d more)]
    all_goals
      dsimp only
      rw [if_neg (by omega)]
      rfl

/-- **Arguments are read in place**, one by one. -/
private theorem arguments_eq (h : Reads src tokens ks) (hread : ReadsAs ks n read R)
    (hlocal : R.IsLocal) {pre args rest : List Token} {k : Token}
    (hks : ks = pre ++ (args ++ k :: rest)) (hn : (args ++ k :: rest).length ≤ n)
    (hk : k.kind = .rightParen) (hbalanced : Token.Balanced args) (hne : args ≠ []) :
    arguments tokens read (pre.length + args.length) pre.length = .ok (Expr.arguments R args) := by
  induction hm : args.length using Nat.strongRecOn generalizing pre args with
  | ind m ih =>
    subst hm
    obtain ⟨a, as, rfl⟩ := List.exists_cons_of_ne_nil hne
    rw [Expr.arguments]
    cases hR : R (a :: as) with
    | none =>
      rw [arguments, hread pre _ hks hn, hlocal.closed hbalanced k rest hk, hR]
      rfl
    | some p =>
      obtain ⟨e, more⟩ := p
      obtain ⟨used, hused, husedne, husedbalanced⟩ := hlocal.taken hR
      have hpos := List.length_pos_iff.mpr husedne
      have hlength := congrArg List.length hused
      rw [hused] at hks hbalanced hn hR
      rw [List.length_append, List.length_cons] at hlength
      rw [hused, arguments_of_some h hread hlocal hks hn hk hbalanced hR]
      cases more with
      | nil => rfl
      | cons c more =>
        rw [List.length_cons] at hlength
        dsimp only
        cases hc : c.kind
        case comma =>
          have hle : more.length ≤ as.length := by omega
          simp only [if_pos hle]
          cases more with
          | nil =>
            rw [if_pos rfl, Expr.arguments]
            rfl
          | cons d more =>
            have hone : Token.Balanced [c] := Token.balanced_singleton (by rw [hc]; rfl)
            have hclose : pre.length + (used ++ c :: d :: more).length =
                (pre ++ used ++ [c]).length + (d :: more).length := by
              simp only [List.length_append, List.length_cons, List.length_nil]
              omega
            have hsplit : ks = (pre ++ used ++ [c]) ++ ((d :: more) ++ k :: rest) := by
              rw [hks]
              simp only [List.append_assoc, List.cons_append, List.nil_append]
            have hrest := ih (d :: more).length
              (by rw [List.length_cons, List.length_cons] at *; omega) hsplit
              (by
                simp only [List.length_append, List.length_cons] at hn ⊢
                omega)
              (hone.append_iff.mp (husedbalanced.append_iff.mp hbalanced)) (List.cons_ne_nil d more) rfl
            rw [if_neg (List.cons_ne_nil d more), hclose, hrest]
            rfl
        all_goals rfl

/-- **A call is read in place**, with its arguments or its question. -/
private theorem call?_eq (h : Reads src tokens ks) (hread : ReadsAs ks n read R) (hlocal : R.IsLocal)
    {pre rest : List Token} {first word colon : Token} {name : Text}
    (hks : ks = pre ++ first :: word :: colon :: rest) (hn : rest.length ≤ n)
    (hfirst : first.kind = .leftParen) (hword : word.kind = .word name) (hcolon : colon.kind = .colon) :
    call? src tokens read name (pre.length + 3) =
      .ok ((Token.closing? 0 (word :: colon :: rest)).bind fun p =>
        (Expr.group? R p.1).map fun e => (e, ks.length - p.2.length)) := by
  have hclosing : Token.closing? 0 (word :: colon :: rest) =
      (Token.closing? 0 rest).map fun p => (word :: colon :: p.1, p.2) := by
    have hword' : word.kind.step? 0 = some 0 := by rw [hword]; rfl
    have hcolon' : colon.kind.step? 0 = some 0 := by rw [hcolon]; rfl
    simp only [Token.closing?_cons, hword', hcolon', Option.map_map, Function.comp_def]
  rw [call?, Guarded.minus_eq_ok (by omega), Guarded.ok_bind, Nat.add_sub_cancel,
    matchingParen_eq h hks hfirst, hclosing]
  cases hinside : Token.closing? 0 rest with
  | none => rfl
  | some p =>
    obtain ⟨args, behind⟩ := p
    obtain ⟨close, hclose, rfl, hdepth⟩ := Token.closing?_eq_some_iff.mp hinside
    have hsplit : ks = (pre ++ [first, word, colon]) ++ (args ++ close :: behind) := by
      rw [hks, List.append_assoc]
      rfl
    have hlength : (pre ++ [first, word, colon]).length = pre.length + 3 := by
      rw [List.length_append]
      rfl
    have hplace : pre.length + 1 + (word :: colon :: args).length = pre.length + 3 + args.length := by
      rw [List.length_cons, List.length_cons]
      omega
    have hbehind : ks.length - behind.length = pre.length + 3 + args.length + 1 := by
      rw [hsplit, List.length_append, hlength, List.length_append, List.length_cons]
      omega
    obtain ⟨gap, kind, source⟩ := word
    obtain ⟨gap', kind', source'⟩ := colon
    obtain rfl : kind = .word name := hword
    obtain rfl : kind' = .colon := hcolon
    simp only [Option.map_some, Option.bind_some, hplace, hbehind, Expr.group?, Expr.call?]
    split
    · obtain ⟨ls, hpart, hreads⟩ := h.part hsplit
      rw [hlength] at hpart
      rw [hpart, Guarded.ok_bind, visitedQuery_eq hreads, Guarded.ok_bind, Option.map_map,
        Guarded.pure_eq_ok]
      rfl
    · cases args with
      | nil =>
        rw [List.length_nil, Nat.add_zero, if_neg (Nat.lt_irrefl _), if_pos rfl, Expr.arguments]
        rfl
      | cons a as =>
        have hargs := arguments_eq h hread hlocal hsplit hn hclose hdepth (List.cons_ne_nil a as)
        rw [hlength] at hargs
        rw [if_pos (by rw [List.length_cons]; omega), hargs, Guarded.ok_bind, Option.map_map,
          Guarded.pure_eq_ok]
        rfl

/-! ### Parentheses -/

/-- A reader has read all that stands in parentheses when it stops at a closing one: it has taken balanced
tokens, so that is the one which matches. -/
private theorem whole_closed (hlocal : R.IsLocal) (rest : List Token) :
    ((Token.closing? 0 rest).bind fun p => (Expr.whole R p.1).map fun e => (e, p.2)) =
      (R rest).bind fun p =>
        match p.2.head?.map Token.kind with
        | some .rightParen => some (p.1, p.2.tail)
        | _ => none := by
  cases hclosing : Token.closing? 0 rest with
  | none =>
    cases hR : R rest with
    | none => rfl
    | some p =>
      obtain ⟨e, more⟩ := p
      obtain ⟨used, rfl, -, hused⟩ := hlocal.taken hR
      cases more with
      | nil => rfl
      | cons k more =>
        simp only [Option.bind_some, Option.bind_none, List.head?_cons, Option.map_some]
        cases hk : k.kind
        case rightParen =>
          rw [Token.closing?_eq_some_iff.mpr ⟨k, hk, rfl, hused⟩] at hclosing
          cases hclosing
        all_goals rfl
  | some p =>
    obtain ⟨inside, behind⟩ := p
    obtain ⟨close, hclose, hrest, hinside⟩ := Token.closing?_eq_some_iff.mp hclosing
    have hR : R rest = (R inside).map fun p => (p.1, p.2 ++ close :: behind) := by
      rw [hrest]
      exact hlocal.closed hinside close behind hclose
    rw [hR, Option.bind_some, Expr.whole]
    cases hin : R inside with
    | none => rfl
    | some q =>
      obtain ⟨e, more⟩ := q
      obtain ⟨used, hused, -, hbalanced⟩ := hlocal.taken hin
      cases more with
      | nil =>
        simp only [Option.map_some, Option.bind_some, List.nil_append, List.head?_cons, hclose,
          List.tail_cons]
      | cons k more =>
        simp only [Option.map_some, Option.bind_some, List.cons_append, List.head?_cons]
        cases hk : k.kind
        case rightParen =>
          rw [hused] at hinside
          exact absurd (hbalanced.append_iff.mp hinside) (Token.not_balanced_cons hk)
        all_goals rfl

/-- What stands in parentheses and opens no call is read up to the closing parenthesis. -/
private theorem group_eq (h : Reads src tokens ks) (hread : ReadsAs ks n read R) (hlocal : R.IsLocal)
    {pre rest : List Token} {first : Token} (hks : ks = pre ++ first :: rest) (hn : rest.length ≤ n) :
    (do
      match ← read (pre.length + 1) with
      | none => return none
      | some (inner, next) =>
        match InPlace.kindAt? tokens next with
        | some .rightParen => return some (inner, next + 1)
        | _ => return none : Guarded (Option (Expr × Nat))) =
      .ok ((Token.closing? 0 rest).bind fun p =>
        (Expr.whole R p.1).map fun e => (e, ks.length - p.2.length)) := by
  have hstart := hread (pre ++ [first]) rest (by rw [hks, List.append_cons]) hn
  have hclosed := congrArg (Option.map fun p => (p.1, ks.length - p.2.length)) (whole_closed hlocal rest)
  simp only [Option.map_bind, Function.comp_def, Option.map_map] at hclosed
  rw [List.length_append, List.length_singleton] at hstart
  rw [hstart, hclosed, Guarded.ok_bind]
  cases hR : R rest with
  | none => rfl
  | some p =>
    obtain ⟨e, more⟩ := p
    obtain ⟨used, rfl, -, -⟩ := hlocal.taken hR
    have hsplit : ks = pre ++ (first :: used ++ more) := hks
    have hat := h.kindAt? (hsplit.trans (List.append_assoc _ _ _).symm)
    simp only [Option.map_some, Option.bind_some, place_eq hsplit, hat]
    cases more with
    | nil => rfl
    | cons k more =>
      rw [List.head?_cons, Option.map_some]
      have hbehind : ks.length - more.length = (pre ++ first :: used).length + 1 := by
        rw [hsplit]
        simp only [List.length_append, List.length_cons]
        omega
      cases k.kind
      case rightParen => exact congrArg (fun n => Except.ok (some (e, n))) hbehind.symm
      all_goals rfl

/-- The tokens begin with the name of a call and its colon. -/
def OpensCall (ks : List Token) : Prop :=
  ∃ name word colon rest, ks = word :: colon :: rest ∧ word.kind = .word name ∧ colon.kind = .colon

theorem opensCall_iff {ls : List Token} :
    OpensCall ls ↔
      ∃ name, ls[0]?.map Token.kind = some (.word name) ∧ ls[1]?.map Token.kind = some .colon := by
  constructor
  · rintro ⟨name, word, colon, rest, rfl, hword, hcolon⟩
    exact ⟨name, congrArg some hword, congrArg some hcolon⟩
  · rintro ⟨name, hword, hcolon⟩
    match ls with
    | [] => cases hword
    | [k] => cases hcolon
    | word :: colon :: rest =>
      exact ⟨name, word, colon, rest, rfl, Option.some.inj hword, Option.some.inj hcolon⟩

/-- The test for the beginning of a call. -/
def opensCall : List Token → Bool
  | ⟨_, .word _, _⟩ :: ⟨_, .colon, _⟩ :: _ => true
  | _ => false

theorem opensCall_eq_true_iff : opensCall ks = true ↔ OpensCall ks := by
  constructor
  · intro h
    rw [opensCall.eq_def] at h
    split at h
    · exact ⟨_, _, _, _, rfl, rfl, rfl⟩
    · cases h
  · rintro ⟨name, ⟨_, _, _⟩, ⟨_, _, _⟩, rest, rfl, rfl, rfl⟩
    rfl

instance (ks : List Token) : Decidable (OpensCall ks) :=
  decidable_of_iff (opensCall ks = true) opensCall_eq_true_iff

theorem OpensCall.append {ls : List Token} (h : OpensCall ls) (more : List Token) :
    OpensCall (ls ++ more) := by
  obtain ⟨name, word, colon, rest, rfl, hword, hcolon⟩ := h
  exact ⟨name, word, colon, rest ++ more, rfl, hword, hcolon⟩

/-- What opens no call is one expression. -/
theorem group?_eq_whole {ls : List Token} (h : ¬ OpensCall ls) : Expr.group? R ls = Expr.whole R ls := by
  rw [Expr.group?.eq_def]
  split
  · exact absurd ⟨_, _, _, _, rfl, rfl, rfl⟩ h
  · rfl

/-- **A primary is read in place**, with one more level of parentheses. -/
private theorem primary_eq (h : Reads src tokens ks) (hread : ReadsAs ks n read R)
    (hlocal : R.IsLocal) : ReadsAs ks (n + 1) (primary src tokens read) (Expr.primary R) := by
  intro pre rest hks hn
  rw [primary, h.kindAt? hks]
  cases rest with
  | nil => rfl
  | cons k rest =>
    have hsplit : ks = (pre ++ [k]) ++ rest := by rw [hks, List.append_cons]
    have hn' : rest.length ≤ n := by
      rw [List.length_cons] at hn
      omega
    rw [List.head?_cons, Option.map_some]
    by_cases hk : k.kind = .leftParen
    · have hat (j : Nat) : InPlace.kindAt? tokens (pre.length + 1 + j) = rest[j]?.map Token.kind := by
        have h := h.kindAt?_add hsplit j
        rwa [List.length_append, List.length_singleton] at h
      have hfirst := hat 0
      have hsecond := hat 1
      rw [Expr.primary_of_leftParen R hk, Option.map_bind]
      simp only [hk, hfirst, hsecond, Function.comp_def, Option.map_map]
      by_cases hopens : OpensCall rest
      · obtain ⟨name, word, colon, rest, rfl, hword, hcolon⟩ := hopens
        simp only [List.getElem?_cons_zero, List.getElem?_cons_succ, Option.map_some, hword, hcolon]
        exact call?_eq h hread hlocal hks (by simp only [List.length_cons] at hn'; omega) hk hword hcolon
      · have hwhole : ((Token.closing? 0 rest).bind fun p =>
            (Expr.group? R p.1).map fun e => (e, ks.length - p.2.length)) =
            (Token.closing? 0 rest).bind fun p =>
              (Expr.whole R p.1).map fun e => (e, ks.length - p.2.length) := by
          cases hclosing : Token.closing? 0 rest with
          | none => rfl
          | some p =>
            rw [Option.bind_some, Option.bind_some, group?_eq_whole fun hinside => hopens ?_]
            obtain ⟨close, -, hrest, -⟩ := Token.closing?_eq_some_iff.mp hclosing
            rw [hrest]
            exact hinside.append _
        rw [hwhole, ← group_eq h hread hlocal hks hn']
        split
        · rename_i hword hcolon
          exact absurd (opensCall_iff.mpr ⟨_, hword, hcolon⟩) hopens
        · rfl
    · have hplace : ks.length - rest.length = pre.length + 1 := by
        rw [hks, List.length_append, List.length_cons]
        omega
      have hone (e : Expr) : (pure (some (e, pre.length + 1)) : Guarded (Option (Expr × Nat))) =
          .ok ((some (e, rest)).map fun p => (p.1, ks.length - p.2.length)) := by
        rw [Option.map_some, hplace]
        rfl
      rw [Expr.primary]
      cases hkind : k.kind <;> first | exact absurd hkind hk | exact hone _ | rfl

/-! ### Whole expressions -/

/-- **Sums are read in place**, at every depth. -/
private theorem sumAt_eq (h : Reads src tokens ks) (depth : Nat) :
    ReadsAs ks depth (sumAt src tokens depth) (Expr.sumAt depth) := by
  induction depth with
  | zero =>
    intro pre rest hks hn
    have hend : ¬ pre.length < tokens.length := by
      rw [h.length, hks, List.length_append]
      omega
    rw [sumAt]
    exact if_neg hend
  | succ depth ih =>
    have hprimary := primary_eq h ih (Expr.isLocal_sumAt depth)
    have hpossessed := joined_eq h hprimary (Expr.isLocal_primary _) Expr.possessed?
    have hsigned := signed_eq h hpossessed
    have hproduct := joined_eq h hsigned (Expr.isLocal_signed (Expr.isLocal_possessed _)) Expr.product?
    exact joined_eq h hproduct (Expr.isLocal_product _) Expr.sum?

/-- **The expression read in a buffer** is the one that its tokens make. -/
theorem operand_eq (h : Reads src tokens ks) : operand src tokens = .ok (Expr.ofTokens? ks) := by
  have hsum := sumAt_eq h ks.length [] ks rfl (Nat.le_refl _)
  rw [List.length_nil] at hsum
  rw [operand, h.length, hsum, Guarded.ok_bind, Expr.ofTokens?, Expr.whole]
  cases hR : Expr.sumAt ks.length ks with
  | none => rfl
  | some p =>
    obtain ⟨e, rest⟩ := p
    obtain ⟨used, hused, -, -⟩ := (Expr.isLocal_sumAt ks.length).taken hR
    have hlength := congrArg List.length hused
    rw [List.length_append] at hlength
    simp only [Option.map_some]
    cases rest with
    | nil => simp only [List.length_nil, Nat.sub_zero, if_true]; rfl
    | cons k rest =>
      rw [if_neg (by rw [List.length_cons] at hlength ⊢; omega)]
      rfl

end InPlace

end Hyperfiction

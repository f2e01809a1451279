import Mathlib.Data.List.Forall2
import Hyperfiction.Proofs.Condition.Parts
import Hyperfiction.Proofs.InPlace.Parser

/-!
# Conditions read in a buffer

A condition is read by cutting its tokens: behind a `not`, inside of parentheses, between connectives and
on the two sides of a comparison. Each part is a run of tokens of the same text (`InPlace.splitTop_eq`), so
that all of them are granted and the condition is the one that the tokens make (`InPlace.condition_eq`).
-/

namespace Hyperfiction

namespace Guarded

variable {α β γ : Type}

/-- A list is gone through without a fault when each of its items is. -/
theorem mapM_of_forall₂ {f : α → Guarded γ} {g : β → γ} {xs : List α} {ys : List β}
    (h : List.Forall₂ (fun x y => f x = .ok (g y)) xs ys) : xs.mapM f = .ok (ys.map g) := by
  induction h with
  | nil => rfl
  | cons hxy _ ih =>
    rw [List.mapM_cons, hxy, ok_bind, ih]
    rfl

end Guarded

namespace InPlace

/-! ### Cutting tokens -/

/-- The tokens between separators outside parentheses, from a place on; `start` is the place behind the
last separator. -/
def splitFrom (tokens : List TokenAt) (isSeparator : Token.Kind → Bool) :
    Int → Nat → Nat → List Token.Kind → Guarded (List (List TokenAt))
  | _, start, _, [] => do return [← Guarded.part tokens start tokens.length]
  | depth, start, i, k :: kinds =>
    if depth = 0 ∧ isSeparator k then do
      let first ← Guarded.part tokens start i
      return first :: (← splitFrom tokens isSeparator depth (i + 1) (i + 1) kinds)
    else splitFrom tokens isSeparator (depth + k.nesting) start (i + 1) kinds

/-- The tokens between separators outside parentheses. -/
def splitTop (tokens : List TokenAt) (isSeparator : Token.Kind → Bool) :
    Guarded (List (List TokenAt)) :=
  splitFrom tokens isSeparator 0 0 0 (tokens.map TokenAt.kind)

/-- The place of the first comparison outside parentheses, a word before a sign; `sign` is the first sign
seen so far. -/
def comparisonFrom : Option (Nat × Comparison) → Int → Nat → List Token.Kind →
    Option (Nat × Comparison)
  | sign, _, _, [] => sign
  | sign, depth, i, k :: kinds =>
    if depth = 0 then
      match Comparison.ofWord? k with
      | some op => some (i, op)
      | none =>
        comparisonFrom (sign.or ((Comparison.ofSign? k).map fun op => (i, op)))
          (depth + k.nesting) (i + 1) kinds
    else comparisonFrom sign (depth + k.nesting) (i + 1) kinds

/-- Does one pair of parentheses that opens no call stand around all of the tokens? -/
def wrapped (tokens : List TokenAt) : Guarded Bool := do
  if tokens.length < 2 then return false
  match (← Guarded.item tokens 0).kind with
  | .leftParen =>
    match kindAt? tokens 1, kindAt? tokens 2 with
    | some (.word _), some .colon => return false
    | _, _ => return matchingParen tokens 0 == some (← Guarded.minus tokens.length 1)
  | _ => return false

/-- The condition of tokens that no connective joins. -/
def simple (src : Text) (tokens : List TokenAt) : Guarded Condition := do
  match comparisonFrom none 0 0 (tokens.map TokenAt.kind) with
  | some (i, op) =>
    let left ← operand src (← Guarded.part tokens 0 i)
    let right ← operand src (← Guarded.part tokens (i + 1) tokens.length)
    match left, right with
    | some l, some r => return .compare op l r
    | _, _ => return .invalid (← sourceOf src tokens)
  | none =>
    match ← operand src tokens with
    | some e => return .truth e
    | none => return .invalid (← sourceOf src tokens)

/-- The condition of tokens that begin with no `not`; `read` reads their parts. -/
def connected (src : Text) (read : List TokenAt → Guarded Condition) (tokens : List TokenAt) :
    Guarded Condition := do
  if ← wrapped tokens then read (← Guarded.part tokens 1 (← Guarded.minus tokens.length 1))
  else
    let parts ← splitTop tokens Condition.isAnd
    if 1 < parts.length then return .all (← parts.mapM read)
    else
      let parts ← splitTop tokens Condition.isOr
      if 1 < parts.length then return .any (← parts.mapM read)
      else simple src tokens

/-- The condition of tokens whose parts are nested less deep than a bound. -/
def condition (src : Text) : Nat → List TokenAt → Guarded Condition
  | 0, _ => .error .stuck
  | depth + 1, tokens => do
    if tokens.isEmpty then return .invalid []
    match (← Guarded.item tokens 0).kind with
    | .not => return .not (← condition src depth (← Guarded.part tokens 1 tokens.length))
    | _ => connected src (condition src depth) tokens

/-- The condition that a text writes. -/
def conditionOf (t : Text) : Guarded Condition := do
  let found ← tokens t
  condition t (found.length + 1) found

/-! ### The same parts -/

variable {src : Text} {tokens : List TokenAt} {ks : List Token}

/-- **Tokens are split in place** at the separators at top level. -/
private theorem splitFrom_eq (h : Reads src tokens ks) (isSeparator : Token.Kind → Bool) (depth : Int)
    {pre cur rest : List Token} (hks : ks = pre ++ (cur ++ rest)) :
    ∃ parts, splitFrom tokens isSeparator depth pre.length (pre.length + cur.length)
        (rest.map Token.kind) = .ok parts ∧
      List.Forall₂ (Reads src) parts
        ((cur ++ (Token.splitTop isSeparator depth rest).1) ::
          (Token.splitTop isSeparator depth rest).2) := by
  induction rest generalizing depth pre cur with
  | nil =>
    obtain ⟨part, hpart, hreads⟩ := h.part hks
    have hend : tokens.length = pre.length + cur.length := by
      rw [h.length, hks, List.append_nil, List.length_append]
    refine ⟨[part], ?_, ?_⟩
    · rw [List.map_nil, splitFrom, hend, hpart]
      rfl
    · rw [Token.splitTop, List.append_nil]
      exact .cons hreads .nil
  | cons k rest ih =>
    rw [List.map_cons, splitFrom, Token.splitTop]
    split
    · obtain ⟨first, hpart, hfirst⟩ := h.part hks
      have hsplit : ks = (pre ++ cur ++ [k]) ++ ([] ++ rest) := by
        rw [hks]
        simp only [List.append_assoc, List.cons_append, List.nil_append]
      obtain ⟨more, hmore, hreads⟩ := ih depth hsplit
      rw [List.length_nil, Nat.add_zero, List.length_append, List.length_append,
        List.length_singleton] at hmore
      refine ⟨first :: more, ?_, ?_⟩
      · rw [hpart, Guarded.ok_bind, hmore]
        rfl
      · rw [List.append_nil]
        exact .cons hfirst hreads
    · have hsplit : ks = pre ++ ((cur ++ [k]) ++ rest) := by rw [hks, List.append_cons cur]
      obtain ⟨parts, hparts, hreads⟩ := ih (depth + k.kind.nesting) hsplit
      rw [List.length_append, List.length_singleton, ← Nat.add_assoc] at hparts
      rw [List.append_assoc, List.singleton_append] at hreads
      exact ⟨parts, hparts, hreads⟩

/-- The parts between separators are granted, and they are the parts of the run. -/
theorem splitTop_eq (h : Reads src tokens ks) (isSeparator : Token.Kind → Bool) :
    ∃ parts, splitTop tokens isSeparator = .ok parts ∧
      List.Forall₂ (Reads src) parts
        ((Token.splitTop isSeparator 0 ks).1 :: (Token.splitTop isSeparator 0 ks).2) := by
  have hparts := splitFrom_eq h isSeparator 0 (show ks = [] ++ ([] ++ ks) from rfl)
  rw [splitTop, h.kinds]
  exact hparts

/-! ### The same comparison -/

/-- The place of what is found among tokens that begin at a place. -/
private def placeOf (i : Nat) (found : Option (List Token × Comparison × List Token)) :
    Option (Nat × Comparison) :=
  found.map fun p => (i + p.1.length, p.2.1)

private theorem placeOf_cons (i : Nat) (k : Token)
    (found : Option (List Token × Comparison × List Token)) :
    placeOf i (found.map fun p => (k :: p.1, p.2)) = placeOf (i + 1) found := by
  rw [placeOf, placeOf, Option.map_map]
  congr 1
  funext p
  simp only [Function.comp_def, List.length_cons]
  rw [Nat.add_assoc, Nat.add_comm 1]

/-- A word for a comparison goes before a sign. -/
private theorem comparisonFrom_eq (sign : Option (Nat × Comparison)) (depth : Int) (i : Nat)
    (rest : List Token) :
    comparisonFrom sign depth i (rest.map Token.kind) =
      (placeOf i (Token.breakTop? Comparison.ofWord? depth rest)).or
        (sign.or (placeOf i (Token.breakTop? Comparison.ofSign? depth rest))) := by
  induction rest generalizing sign depth i with
  | nil => cases sign <;> rfl
  | cons k rest ih =>
    rw [List.map_cons, comparisonFrom, Token.breakTop?, Token.breakTop?]
    by_cases hdepth : depth = 0
    · simp only [if_pos hdepth]
      cases hword : Comparison.ofWord? k.kind with
      | some op => rfl
      | none =>
        simp only [placeOf_cons, ih]
        cases hsign : Comparison.ofSign? k.kind with
        | some op => cases sign <;> rfl
        | none => simp only [placeOf_cons, Option.map_none, Option.or_none]
    · simp only [if_neg hdepth, placeOf_cons, ih]

/-- The place of the comparison is where the tokens are broken. -/
theorem comparison_eq (h : Reads src tokens ks) :
    comparisonFrom none 0 0 (tokens.map TokenAt.kind) =
      (Condition.comparison? ks).map fun p => (p.1.length, p.2.1) := by
  rw [h.kinds, comparisonFrom_eq, Condition.comparison?]
  cases Token.breakTop? Comparison.ofWord? 0 ks with
  | some p => simp [placeOf]
  | none => simp [placeOf]

theorem simple_eq (h : Reads src tokens ks) : simple src tokens = .ok (Condition.simple ks) := by
  rw [simple, comparison_eq h, Condition.simple, operand_eq h, h.sourceOf]
  cases hfound : Condition.comparison? ks with
  | none =>
    simp only [Option.map_none, Guarded.ok_bind]
    cases Expr.ofTokens? ks <;> rfl
  | some p =>
    obtain ⟨left, op, right⟩ := p
    obtain ⟨k, hks⟩ := Condition.eq_append_of_comparison? hfound
    obtain ⟨before, hbefore, hleft⟩ := h.part (show ks = [] ++ (left ++ k :: right) from hks)
    have hsplit : ks = (left ++ [k]) ++ (right ++ []) := by
      rw [hks, List.append_nil, List.append_cons]
    obtain ⟨behind, hbehind, hright⟩ := h.part hsplit
    have hend : tokens.length = (left ++ [k]).length + right.length := by
      rw [h.length, hsplit, List.append_nil, List.length_append]
    rw [List.length_nil, Nat.zero_add] at hbefore
    rw [← hend, List.length_append, List.length_singleton] at hbehind
    simp only [Option.map_some, hbefore, hbehind, Guarded.ok_bind, operand_eq hleft, operand_eq hright]
    cases Expr.ofTokens? left with
    | none => rfl
    | some l => cases Expr.ofTokens? right <;> rfl

/-! ### The same condition -/

private theorem unwrapped?_of_ne {k : Token} {rest : List Token} (hk : k.kind ≠ .leftParen) :
    Condition.unwrapped? (k :: rest) = none := by
  rw [Condition.unwrapped?.eq_def]
  split
  · rename_i heq
    obtain ⟨rfl, -⟩ := List.cons.inj heq
    exact absurd rfl hk
  · rfl

/-- Parentheses are taken off if they close at the end, and no call is in them. -/
theorem unwrapped?_eq_some_iff {k : Token} {rest inside : List Token}
    (hk : k.kind = .leftParen) :
    Condition.unwrapped? (k :: rest) = some inside ↔
      ¬ OpensCall inside ∧ Token.closing? 0 rest = some (inside, []) := by
  obtain ⟨gap, kind, source⟩ := k
  obtain rfl : kind = .leftParen := hk
  rw [Condition.unwrapped?]
  constructor
  · intro h
    split at h
    · cases h
    · rename_i inside' hnot hclosing
      obtain rfl := Option.some.inj h
      refine ⟨?_, hclosing⟩
      rintro ⟨name, word, colon, more, rfl, hword, hcolon⟩
      obtain ⟨gap₁, kind₁, source₁⟩ := word
      obtain ⟨gap₂, kind₂, source₂⟩ := colon
      obtain rfl : kind₁ = .word name := hword
      obtain rfl : kind₂ = .colon := hcolon
      exact hnot _ _ _ _ _ _ rfl
    · cases h
  · rintro ⟨hnot, hclosing⟩
    rw [hclosing]
    split
    · rename_i heq
      obtain ⟨rfl, -⟩ := Prod.mk.inj (Option.some.inj heq)
      exact absurd ⟨_, _, _, _, rfl, rfl, rfl⟩ hnot
    · rename_i heq
      exact congrArg some (Prod.mk.inj (Option.some.inj heq)).1.symm
    · rename_i hnone
      exact absurd rfl (hnone _)

/-- What opens a call before a closing parenthesis opens it inside. -/
private theorem OpensCall.inside {inside more : List Token} {k : Token} (hk : k.kind = .rightParen)
    (h : OpensCall (inside ++ k :: more)) : OpensCall inside := by
  obtain ⟨name, hword, hcolon⟩ := opensCall_iff.mp h
  match inside with
  | [] =>
    have heq : Token.Kind.rightParen = .word name := hk.symm.trans (Option.some.inj hword)
    cases heq
  | [k'] =>
    have heq : Token.Kind.rightParen = .colon := hk.symm.trans (Option.some.inj hcolon)
    cases heq
  | word :: colon :: inside => exact opensCall_iff.mpr ⟨name, hword, hcolon⟩

theorem Reads.first {k : Token} {rest : List Token} (h : Reads src tokens (k :: rest)) :
    ∃ first, Guarded.item tokens 0 = .ok first ∧ first.kind = k.kind := by
  have hkinds := h.kinds
  cases tokens with
  | nil => cases hkinds
  | cons first more => exact ⟨first, rfl, (List.cons.inj hkinds).1⟩

/-- The parenthesis that matches the first one is the last token where the tokens can be unwrapped. -/
private theorem matchingParen_last (h : Reads src tokens ks) {k : Token} {rest : List Token}
    (hks : ks = k :: rest) (hk : k.kind = .leftParen) (hopens : ¬ OpensCall rest) :
    (matchingParen tokens 0 == some (tokens.length - 1)) = (Condition.unwrapped? ks).isSome := by
  have hmatching := matchingParen_eq h (show ks = [] ++ k :: rest from hks) hk
  rw [List.length_nil] at hmatching
  rw [hmatching, h.length, hks, Bool.eq_iff_iff, beq_iff_eq, Option.isSome_iff_exists,
    List.length_cons, Nat.add_sub_cancel]
  simp only [unwrapped?_eq_some_iff hk]
  constructor
  · intro hplace
    obtain ⟨⟨inside, behind⟩, hclosing, hlength⟩ := Option.map_eq_some_iff.mp hplace
    obtain ⟨close, hclose, hrest, -⟩ := Token.closing?_eq_some_iff.mp hclosing
    have hempty : behind = [] := by
      have hall := Token.length_closing? hclosing
      dsimp only at hlength
      exact List.length_eq_zero_iff.mp (by omega)
    subst hempty
    refine ⟨inside, fun hinside => hopens ?_, hclosing⟩
    rw [hrest]
    exact hinside.append _
  · rintro ⟨inside, -, hclosing⟩
    have hall := Token.length_closing? hclosing
    rw [hclosing, Option.map_some]
    refine congrArg some ?_
    simp only [List.length_nil] at hall ⊢
    omega

/-- One pair of parentheses stands around all of the tokens where these can be unwrapped. -/
theorem wrapped_eq (h : Reads src tokens ks) :
    wrapped tokens = .ok (Condition.unwrapped? ks).isSome := by
  rw [wrapped]
  match hks : ks with
  | [] =>
    have hlength : tokens.length < 2 := by rw [h.length]; decide
    rw [if_pos hlength]
    rfl
  | [k] =>
    have hlength : tokens.length < 2 := by
      rw [h.length, List.length_singleton]
      exact Nat.one_lt_two
    have hnone : Condition.unwrapped? [k] = none := by
      by_cases hk : k.kind = .leftParen
      · rw [Option.eq_none_iff_forall_ne_some]
        intro inside hinside
        cases ((unwrapped?_eq_some_iff hk).mp hinside).2
      · exact unwrapped?_of_ne hk
    rw [if_pos hlength, hnone]
    rfl
  | k :: k' :: rest =>
    have hlength : ¬ tokens.length < 2 := by
      rw [h.length, List.length_cons, List.length_cons]
      omega
    obtain ⟨first, hitem, hfirst⟩ := h.first
    have hsecond : kindAt? tokens 1 = (k' :: rest)[0]?.map Token.kind :=
      h.kindAt?_add (show _ = [k] ++ k' :: rest from rfl) 0
    have hthird : kindAt? tokens 2 = (k' :: rest)[1]?.map Token.kind :=
      h.kindAt?_add (show _ = [k] ++ k' :: rest from rfl) 1
    rw [if_neg hlength, hitem, Guarded.ok_bind, hfirst]
    by_cases hk : k.kind = .leftParen
    · have hminus : Guarded.minus tokens.length 1 = .ok (tokens.length - 1) :=
        Guarded.minus_eq_ok (by omega)
      rw [hk, hsecond, hthird, hminus]
      by_cases hopens : OpensCall (k' :: rest)
      · have hnone : Condition.unwrapped? (k :: k' :: rest) = none := by
          rw [Option.eq_none_iff_forall_ne_some]
          intro inside hinside
          obtain ⟨hnot, hclosing⟩ := (unwrapped?_eq_some_iff hk).mp hinside
          obtain ⟨close, hclose, hrest, -⟩ := Token.closing?_eq_some_iff.mp hclosing
          rw [hrest] at hopens
          exact hnot (hopens.inside hclose)
        obtain ⟨name, hword, hcolon⟩ := opensCall_iff.mp hopens
        rw [hword, hcolon, hnone]
        rfl
      · have hlast := matchingParen_last h rfl hk hopens
        dsimp only
        split
        · rename_i hword hcolon
          exact absurd (opensCall_iff.mpr ⟨_, hword, hcolon⟩) hopens
        · rw [Guarded.ok_bind, hlast]
          rfl
    · rw [unwrapped?_of_ne hk]
      cases hkind : k.kind <;> first | exact absurd hkind hk | rfl

/-- The parts that a list of tokens is cut into are conditions when each of them is. -/
private theorem mapM_condition {read : List TokenAt → Guarded Condition}
    {parts : List (List TokenAt)} {kss : List (List Token)} (h : List.Forall₂ (Reads src) parts kss)
    (hread : ∀ part ls, Reads src part ls → ls ∈ kss → read part = .ok (Condition.ofTokens ls)) :
    parts.mapM read = .ok (kss.map Condition.ofTokens) := by
  refine Guarded.mapM_of_forall₂ ?_
  induction h with
  | nil => exact .nil
  | cons hfirst _ ih =>
    refine .cons (hread _ _ hfirst List.mem_cons_self) (ih fun part ls hpart hls => ?_)
    exact hread part ls hpart (List.mem_cons_of_mem _ hls)

/-- There is more than one part exactly when a separator is found, and then each part is a condition. -/
private theorem exists_parts {read : List TokenAt → Guarded Condition}
    (h : Reads src tokens ks)
    (hread : ∀ part ls, Reads src part ls → ls.length < ks.length →
      read part = .ok (Condition.ofTokens ls)) (isSeparator : Token.Kind → Bool) :
    ∃ parts, splitTop tokens isSeparator = .ok parts ∧
      match Token.splitTop isSeparator 0 ks with
      | (p, q :: more) =>
        1 < parts.length ∧ parts.mapM read = .ok ((p :: q :: more).map Condition.ofTokens)
      | (_, []) => ¬ 1 < parts.length := by
  obtain ⟨parts, hparts, hreads⟩ := splitTop_eq h isSeparator
  have hlength := hreads.length_eq
  have hshort := @Token.length_splitTop isSeparator 0 ks
  refine ⟨parts, hparts, ?_⟩
  generalize Token.splitTop isSeparator 0 ks = found at *
  obtain ⟨p, more⟩ := found
  cases more with
  | nil =>
    rw [hlength]
    exact Nat.lt_irrefl 1
  | cons q more =>
    refine ⟨?_, mapM_condition hreads fun part ls hpart hls => hread part ls hpart ?_⟩
    · rw [hlength, List.length_cons, List.length_cons]
      omega
    · have := hshort hls
      simp only [List.length_cons] at this
      omega

/-- **Connected parts are read in place**, if shorter tokens are. -/
private theorem connected_eq {read : List TokenAt → Guarded Condition} {k : Token} {rest : List Token}
    (h : Reads src tokens (k :: rest)) (hk : k.kind ≠ .not)
    (hread : ∀ part ls, Reads src part ls → ls.length < (k :: rest).length →
      read part = .ok (Condition.ofTokens ls)) :
    connected src read tokens = .ok (Condition.ofTokens (k :: rest)) := by
  rw [connected, wrapped_eq h, Guarded.ok_bind, Condition.ofTokens_of_ne hk]
  cases hunwrapped : Condition.unwrapped? (k :: rest) with
  | some inside =>
    have hparen : k.kind = .leftParen := by
      by_contra hne
      rw [unwrapped?_of_ne hne] at hunwrapped
      cases hunwrapped
    obtain ⟨-, hclosing⟩ := (unwrapped?_eq_some_iff hparen).mp hunwrapped
    obtain ⟨close, -, rfl, -⟩ := Token.closing?_eq_some_iff.mp hclosing
    obtain ⟨part, hpart, hreads⟩ := h.part (show _ = [k] ++ (inside ++ [close]) from rfl)
    have hlength := h.length
    rw [List.length_cons, List.length_append, List.length_singleton] at hlength
    have hminus : Guarded.minus tokens.length 1 = .ok (1 + inside.length) := by
      rw [Guarded.minus_eq_ok (by omega), hlength, Nat.add_sub_cancel, Nat.add_comm]
    rw [List.length_singleton] at hpart
    simp only [Option.isSome_some, if_true, hminus, hpart, Guarded.ok_bind]
    exact hread part inside hreads (by simp only [List.length_cons, List.length_append]; omega)
  | none =>
    obtain ⟨ands, hands, handParts⟩ := exists_parts h hread Condition.isAnd
    obtain ⟨ors, hors, horParts⟩ := exists_parts h hread Condition.isOr
    simp only [Option.isSome_none, Bool.false_eq_true, if_false, hands, hors, Guarded.ok_bind]
    generalize Token.splitTop Condition.isAnd 0 (k :: rest) = found at *
    obtain ⟨p, _ | ⟨q, more⟩⟩ := found
    · rw [if_neg handParts]
      generalize Token.splitTop Condition.isOr 0 (k :: rest) = found at *
      obtain ⟨p, _ | ⟨q, more⟩⟩ := found
      · rw [if_neg horParts]
        exact simple_eq h
      · rw [if_pos horParts.1, horParts.2]
        rfl
    · rw [if_pos handParts.1, handParts.2]
      rfl

/-- **The condition read in a buffer** is the one that its tokens make. -/
theorem condition_eq {depth : Nat} (h : Reads src tokens ks) (hdepth : ks.length < depth) :
    condition src depth tokens = .ok (Condition.ofTokens ks) := by
  induction depth generalizing tokens ks with
  | zero => exact absurd hdepth (Nat.not_lt_zero _)
  | succ depth ih =>
    rw [condition]
    match hks : ks with
    | [] =>
      obtain rfl : tokens = [] := List.length_eq_zero_iff.mp h.length
      rw [Condition.ofTokens]
      rfl
    | k :: rest =>
      have hempty : tokens.isEmpty = false := by
        rw [List.isEmpty_eq_false_iff, ← List.length_pos_iff, h.length]
        exact Nat.succ_pos _
      obtain ⟨first, hitem, hfirst⟩ := h.first
      rw [hempty, hitem, Guarded.ok_bind, hfirst]
      by_cases hk : k.kind = .not
      · have hsplit : k :: rest = [k] ++ (rest ++ []) := by simp
        obtain ⟨part, hpart, hreads⟩ := h.part hsplit
        have hend : 1 + rest.length = tokens.length := by
          rw [h.length, List.length_cons, Nat.add_comm]
        rw [List.length_singleton, hend] at hpart
        obtain ⟨gap, kind, source⟩ := k
        obtain rfl : kind = .not := hk
        rw [Condition.ofTokens]
        simp only [hpart, Guarded.ok_bind, ih hreads (Nat.lt_of_succ_lt_succ hdepth)]
        rfl
      · have hconnected := connected_eq h hk fun part ls (hpart : Reads src part ls) hls =>
          ih hpart (Nat.lt_of_lt_of_le hls (Nat.le_of_lt_succ hdepth))
        cases hkind : k.kind <;> first | exact absurd hkind hk | exact hconnected

/-- The condition of a text is read without a fault. -/
theorem conditionOf_eq (t : Text) : conditionOf t = .ok (Condition.ofText t) := by
  rw [conditionOf, tokens_eq, Guarded.ok_bind, (reads_tokens t).length]
  exact condition_eq (reads_tokens t) (Nat.lt_succ_self _)

end InPlace

end Hyperfiction

import Hyperfiction.Proofs.InPlace.Parser

/-!
# The grammar of expressions

The grammar at the head of `Hyperfiction.Expr.Parser` as a type of derivations. A derivation lists the
tokens that it covers (`Derivation.tokens`) and makes an expression of them (`Derivation.tree`).
`Expr.ofTokens?_iff_derivation` says that the parser accepts exactly the tokens of derivations and gives
their trees, and that tokens have one derivation at most.

The parser cuts out what stands in parentheses before it reads it, and the grammar does not know of
that. Both agree since the tokens of a derivation are balanced (`Derivation.balanced_tokens`): the
parenthesis that closes is the one that matches. Operators of one row are told from those around it by
the token behind an operand, which is what `Symbol.Stops` says; soundness is an induction along the tower
of readers, completeness and uniqueness are inductions along the derivation.
-/

namespace Hyperfiction

/-- A token of one kind. -/
abbrev Token.Of (kind : Token.Kind) := {k : Token // k.kind = kind}

theorem Query.isSome_ofTokens? {ks : List Token} : (Query.ofTokens? ks).isSome ↔ ks ≠ [] := by
  unfold Query.ofTokens?
  split
  · rename_i h
    simp [List.map_eq_nil_iff.mp h]
  · rename_i h
    obtain ⟨k, rfl, -⟩ := List.map_eq_singleton_iff.mp h
    simp
  · rename_i h
    have hne : ks ≠ [] := by
      rintro rfl
      cases h
    split <;> simp [hne]
  · rename_i hnil _ _
    have hne : ks ≠ [] := by
      rintro rfl
      exact hnil rfl
    simp [hne]

namespace Expr

/-! ### Derivations -/

/-- The rows of operands that tokens join to the left. -/
inductive Level where
  | sum
  | product
  | possessed

/-- The symbols of the grammar. -/
inductive Symbol where
  | row (l : Level)
  | signed
  | primary

/-- What a token of a row makes of the operands on its two sides. -/
def Level.join? : Level → Token.Kind → Option (Expr → Expr → Expr)
  | .sum => sum?
  | .product => product?
  | .possessed => possessed?

/-- The operands of a row. -/
def Level.operand : Level → Symbol
  | .sum => .row .product
  | .product => .signed
  | .possessed => .primary

/-- The expression that is one token. -/
def leaf? : Token.Kind → Option Expr
  | .number x => some (.number x)
  | .quoted t => some (.quoted t)
  | .yes => some (.boolean true)
  | .no => some (.boolean false)
  | .it => some .it
  | .var name => some (.var name)
  | .word t => some (.word t)
  | _ => none

/-- The call of this name asks about visited passages. -/
def AsksVisits (name : Text) : Prop := name.map Char.toLower ∈ queryNames

mutual

/-- The derivations of a symbol. -/
inductive Derivation : Symbol → Type where
  /-- One operand, and more of them behind tokens that join. -/
  | row {l : Level} (first : Derivation l.operand) (more : Tail l) : Derivation (.row l)
  | minus (sign : Token.Of .minus) (operand : Derivation .signed) : Derivation .signed
  | unsigned (operand : Derivation (.row .possessed)) : Derivation .signed
  | leaf (k : Token) (e : Expr) (hk : leaf? k.kind = some e) : Derivation .primary
  | enclosed (left : Token.Of .leftParen) (inside : Inside) (right : Token.Of .rightParen) :
    Derivation .primary

/-- The operands of a row behind the first. -/
inductive Tail : Level → Type where
  | none {l : Level} : Tail l
  | more {l : Level} (k : Token) (join : Expr → Expr → Expr) (hk : l.join? k.kind = some join)
    (operand : Derivation l.operand) (rest : Tail l) : Tail l

/-- What stands in parentheses. -/
inductive Inside : Type where
  | sum (e : Derivation (.row .sum))
  | call (n : Text) (name : Token.Of (.word n)) (colon : Token.Of .colon) (hn : ¬ AsksVisits n)
    (args : Arguments)
  /-- A call that asks about visited passages has any tokens for its argument, but for none. -/
  | query (n : Text) (name : Token.Of (.word n)) (colon : Token.Of .colon) (hn : AsksVisits n)
    (args : List Token) (hne : args ≠ []) (hbalanced : Token.Balanced args)

/-- The arguments of a call between commas. -/
inductive Arguments : Type where
  | none
  | last (e : Derivation (.row .sum))
  /-- An argument and its comma; nothing needs to follow. -/
  | next (e : Derivation (.row .sum)) (comma : Token.Of .comma) (rest : Arguments)

end

mutual

/-- The tokens that a derivation covers. -/
def Derivation.tokens : {s : Symbol} → Derivation s → List Token
  | _, .row first more => first.tokens ++ more.tokens
  | _, .minus sign operand => sign.1 :: operand.tokens
  | _, .unsigned operand => operand.tokens
  | _, .leaf k _ _ => [k]
  | _, .enclosed left inside right => left.1 :: (inside.tokens ++ [right.1])

/-- The tokens of the operands behind the first, each with the token that joins it. -/
def Tail.tokens : {l : Level} → Tail l → List Token
  | _, .none => []
  | _, .more k _ _ operand rest => k :: (operand.tokens ++ rest.tokens)

/-- The tokens between parentheses. -/
def Inside.tokens : Inside → List Token
  | .sum e => e.tokens
  | .call _ name colon _ args => name.1 :: colon.1 :: args.tokens
  | .query _ name colon _ args _ _ => name.1 :: colon.1 :: args

/-- The tokens of arguments, with their commas. -/
def Arguments.tokens : Arguments → List Token
  | .none => []
  | .last e => e.tokens
  | .next e comma rest => e.tokens ++ comma.1 :: rest.tokens

end

mutual

/-- The expression of a derivation. -/
def Derivation.tree : {s : Symbol} → Derivation s → Expr
  | _, .row first more => more.tree first.tree
  | _, .minus _ operand => negated operand.tree
  | _, .unsigned operand => operand.tree
  | _, .leaf _ e _ => e
  | _, .enclosed _ inside _ => inside.tree

/-- The expression that operands make behind `left`. -/
def Tail.tree : {l : Level} → Tail l → Expr → Expr
  | _, .none, left => left
  | _, .more _ join _ operand rest, left => rest.tree (join left operand.tree)

/-- The expression in parentheses. -/
def Inside.tree : Inside → Expr
  | .sum e => e.tree
  | .call n _ _ _ args => .call (n.map Char.toLower) args.trees
  | .query _ _ _ _ args hne _ => .visited ((Query.ofTokens? args).get (Query.isSome_ofTokens?.mpr hne))

/-- The arguments of a call. -/
def Arguments.trees : Arguments → List Expr
  | .none => []
  | .last e => [e.tree]
  | .next e _ rest => e.tree :: rest.trees

end

/-! ### The tokens of derivations -/

theorem Level.step?_of_join? {l : Level} {k : Token.Kind} {join : Expr → Expr → Expr}
    (h : l.join? k = some join) : k.step? 0 = some 0 := by
  cases l <;> cases k <;> first | rfl | cases h

theorem Level.join?_colon (l : Level) : l.join? .colon = none := by cases l <;> rfl

theorem step?_of_leaf? {k : Token.Kind} {e : Expr} (h : leaf? k = some e) : k.step? 0 = some 0 := by
  cases k <;> first | rfl | cases h

private theorem balanced_call {n : Text} (name : Token.Of (.word n)) (colon : Token.Of .colon)
    {ks : List Token} (h : Token.Balanced ks) : Token.Balanced (name.1 :: colon.1 :: ks) := by
  have hname : Token.Balanced [name.1] := Token.balanced_singleton (by rw [name.2]; rfl)
  have hcolon : Token.Balanced [colon.1] := Token.balanced_singleton (by rw [colon.2]; rfl)
  exact hname.append_iff.mpr (hcolon.append_iff.mpr h)

mutual

/-- **The tokens of a derivation are balanced.** -/
theorem Derivation.balanced_tokens : ∀ {s : Symbol} (d : Derivation s), Token.Balanced d.tokens
  | _, .row first more => first.balanced_tokens.append_iff.mpr more.balanced_tokens
  | _, .minus sign operand => by
    have hsign : Token.Balanced [sign.1] := Token.balanced_singleton (by rw [sign.2]; rfl)
    exact hsign.append_iff.mpr operand.balanced_tokens
  | _, .unsigned operand => operand.balanced_tokens
  | _, .leaf k e hk => Token.balanced_singleton (step?_of_leaf? hk)
  | _, .enclosed left inside right => Token.balanced_group left.2 right.2 inside.balanced_tokens

/-- Operators and their operands are balanced. -/
theorem Tail.balanced_tokens : ∀ {l : Level} (m : Tail l), Token.Balanced m.tokens
  | _, .none => rfl
  | _, .more k join hk operand rest => by
    have hone : Token.Balanced [k] := Token.balanced_singleton (Level.step?_of_join? hk)
    exact hone.append_iff.mpr (operand.balanced_tokens.append_iff.mpr rest.balanced_tokens)

theorem Inside.balanced_tokens : ∀ i : Inside, Token.Balanced i.tokens
  | .sum e => e.balanced_tokens
  | .call _ name colon _ args => balanced_call name colon args.balanced_tokens
  | .query _ name colon _ _ _ hbalanced => balanced_call name colon hbalanced

theorem Arguments.balanced_tokens : ∀ as : Arguments, Token.Balanced as.tokens
  | .none => rfl
  | .last e => e.balanced_tokens
  | .next e comma rest => by
    have hcomma : Token.Balanced [comma.1] := Token.balanced_singleton (by rw [comma.2]; rfl)
    exact e.balanced_tokens.append_iff.mpr (hcomma.append_iff.mpr rest.balanced_tokens)

end

theorem Derivation.tokens_ne_nil : ∀ {s : Symbol} (d : Derivation s), d.tokens ≠ []
  | _, .row first more => by simp [tokens, first.tokens_ne_nil]
  | _, .minus sign operand => List.cons_ne_nil _ _
  | _, .unsigned operand => operand.tokens_ne_nil
  | _, .leaf k e hk => List.cons_ne_nil _ _
  | _, .enclosed left inside right => List.cons_ne_nil _ _

/-- No derivation begins like a call without its parenthesis: nothing goes on with a colon. -/
theorem Derivation.not_opensCall : ∀ {s : Symbol} (d : Derivation s), ¬ InPlace.OpensCall d.tokens
  | _, @Derivation.row l first more => by
    rintro ⟨n, name, colon, rest, heq, hname, hcolon⟩
    rw [tokens] at heq
    cases hfirst : first.tokens with
    | nil => exact first.tokens_ne_nil hfirst
    | cons k ks =>
      rw [hfirst] at heq
      obtain ⟨hk, htail⟩ := List.cons.inj heq
      cases ks with
      | nil =>
        cases more with
        | none => cases htail
        | more k' join hk' operand rest =>
          obtain ⟨hk'', -⟩ := List.cons.inj htail
          rw [hk'', hcolon, Level.join?_colon] at hk'
          cases hk'
      | cons k' ks =>
        obtain ⟨hk', -⟩ := List.cons.inj htail
        exact first.not_opensCall ⟨n, k, k', ks, hfirst, hk ▸ hname, hk' ▸ hcolon⟩
  | _, .minus sign operand => by
    rintro ⟨n, name, colon, rest, heq, hname, -⟩
    obtain ⟨rfl, -⟩ := List.cons.inj heq
    cases sign.2.symm.trans hname
  | _, .unsigned operand => operand.not_opensCall
  | _, .leaf k e hk => by
    rintro ⟨n, name, colon, rest, heq, -, -⟩
    cases heq
  | _, .enclosed left inside right => by
    rintro ⟨n, name, colon, rest, heq, hname, -⟩
    obtain ⟨rfl, -⟩ := List.cons.inj heq
    cases left.2.symm.trans hname

/-! ### The readers of the symbols -/

/-- Reads a symbol; `inner` reads what stands in parentheses. -/
def Symbol.read (inner : Reader) : Symbol → Reader
  | .primary => Expr.primary inner
  | .row .possessed => joined (Expr.primary inner) possessed?
  | .signed => Expr.signed (joined (Expr.primary inner) possessed?)
  | .row .product => joined (Expr.signed (joined (Expr.primary inner) possessed?)) product?
  | .row .sum => joined (joined (Expr.signed (joined (Expr.primary inner) possessed?)) product?) sum?

/-- With one more level the reader for sums reads them in parentheses by itself. -/
theorem sumAt_succ (n : Nat) : sumAt (n + 1) = (Symbol.row .sum).read (sumAt n) := rfl

theorem Symbol.read_row (inner : Reader) (l : Level) :
    (Symbol.row l).read inner = joined (l.operand.read inner) l.join? := by
  cases l <;> rfl

/-- The reader of each symbol stays within its parentheses. -/
theorem Symbol.isLocal_read (inner : Reader) : ∀ s : Symbol, Reader.IsLocal (s.read inner)
  | .primary => isLocal_primary inner
  | .row .possessed => isLocal_possessed inner
  | .signed => isLocal_signed (isLocal_possessed inner)
  | .row .product => isLocal_product inner
  | .row .sum => isLocal_joined (isLocal_product inner) fun _ _ h => Level.sum.step?_of_join? h

/-- A reader reads all tokens if it leaves none. -/
theorem whole_eq_some_iff {R : Reader} {ks : List Token} {e : Expr} :
    whole R ks = some e ↔ R ks = some (e, []) := by
  unfold whole
  split
  · rename_i h
    simp [h]
  · rename_i hnot
    constructor
    · intro h
      cases h
    · intro h
      exact absurd h (hnot e)

theorem primary_of_ne (inner : Reader) {k : Token} (hk : k.kind ≠ .leftParen) (ks : List Token) :
    primary inner (k :: ks) = (leaf? k.kind).map (·, ks) := by
  rw [primary]
  cases hkind : k.kind <;> first | rfl | exact absurd hkind hk

/-! ### What is read derives -/

/-- All that the reader takes are tokens of derivations, and it gives their trees. -/
def Symbol.Sound (s : Symbol) (R : Reader) : Prop :=
  ∀ ks e rest, R ks = some (e, rest) → ∃ d : Derivation s, ks = d.tokens ++ rest ∧ e = d.tree

section Sound

variable {inner : Reader} (hinner : (Symbol.row .sum).Sound inner)
include hinner

private theorem exists_arguments {ks : List Token} {es : List Expr} (h : arguments inner ks = some es) :
    ∃ as : Arguments, ks = as.tokens ∧ es = as.trees := by
  -- The reader goes on behind a comma with what an argument left: on the number of tokens.
  induction hn : ks.length using Nat.strongRecOn generalizing ks es with
  | ind n ih =>
    subst hn
    cases ks with
    | nil =>
      rw [arguments] at h
      exact ⟨.none, rfl, (Option.some.inj h).symm⟩
    | cons k ks =>
      rw [arguments] at h
      split at h
      · rename_i e hr
        obtain ⟨d, hd, rfl⟩ := hinner _ _ _ hr
        exact ⟨.last d, by rw [hd, List.append_nil, Arguments.tokens], (Option.some.inj h).symm⟩
      · rename_i e c rest hr
        obtain ⟨d, hd, rfl⟩ := hinner _ _ _ hr
        split at h
        · rename_i hc
          split at h
          · rename_i hle
            obtain ⟨es', hes, rfl⟩ := Option.map_eq_some_iff.mp h
            obtain ⟨as, rfl, rfl⟩ := ih _ (Nat.lt_succ_of_le hle) hes rfl
            exact ⟨.next d ⟨c, hc⟩ as, hd, rfl⟩
          · cases h
        · cases h
      · cases h

/-- What is read in parentheses is derived, if that holds of the reader for sums. -/
private theorem exists_inside {ks : List Token} {e : Expr} (h : group? inner ks = some e)
    (hbalanced : Token.Balanced ks) : ∃ i : Inside, ks = i.tokens ∧ e = i.tree := by
  unfold group? at h
  split at h
  · rename_i gap n source gap' source' args
    unfold call? at h
    dsimp only at h
    split at h
    · rename_i hn
      obtain ⟨q, hq, rfl⟩ := Option.map_eq_some_iff.mp h
      have hne : args ≠ [] := Query.isSome_ofTokens?.mp (by rw [hq]; rfl)
      refine ⟨.query n ⟨_, rfl⟩ ⟨_, rfl⟩ (List.contains_iff_mem.mp hn) args hne hbalanced, rfl, ?_⟩
      simp only [Inside.tree, hq, Option.get_some]
    · rename_i hn
      obtain ⟨es, hes, rfl⟩ := Option.map_eq_some_iff.mp h
      obtain ⟨as, rfl, rfl⟩ := exists_arguments hinner hes
      exact ⟨.call n ⟨_, rfl⟩ ⟨_, rfl⟩ (fun h => hn (List.contains_iff_mem.mpr h)) as, rfl, rfl⟩
  · obtain ⟨d, hd, rfl⟩ := hinner _ _ _ (whole_eq_some_iff.mp h)
    exact ⟨.sum d, by rw [hd, List.append_nil, Inside.tokens], rfl⟩

private theorem sound_primary : Symbol.primary.Sound (primary inner) := by
  intro ks e rest h
  cases ks with
  | nil => cases h
  | cons k ks =>
    by_cases hk : k.kind = .leftParen
    · -- What is cut out between parentheses is balanced, as the argument of a question has to be.
      rw [primary_of_leftParen inner hk] at h
      obtain ⟨⟨inside, rest'⟩, hclosing, h⟩ := Option.bind_eq_some_iff.mp h
      obtain ⟨e', hgroup, heq⟩ := Option.map_eq_some_iff.mp h
      obtain ⟨rfl, rfl⟩ := Prod.mk.inj heq
      obtain ⟨last, hlast, rfl, hin⟩ := Token.closing?_eq_some_iff.mp hclosing
      obtain ⟨i, rfl, rfl⟩ := exists_inside hinner hgroup hin
      exact ⟨.enclosed ⟨k, hk⟩ i ⟨last, hlast⟩, by simp [Derivation.tokens], rfl⟩
    · rw [primary_of_ne inner hk] at h
      obtain ⟨e', hleaf, heq⟩ := Option.map_eq_some_iff.mp h
      obtain ⟨rfl, rfl⟩ := Prod.mk.inj heq
      exact ⟨.leaf k e' hleaf, rfl, rfl⟩

omit hinner in
/-- Operators and operands that are read behind an operand are derived. -/
private theorem exists_tail {l : Level} (hoperand : l.operand.Sound (l.operand.read inner)) {left e : Expr}
    {ks rest : List Token} (h : joinMore (l.operand.read inner) l.join? left ks = some (e, rest)) :
    ∃ m : Tail l, ks = m.tokens ++ rest ∧ e = m.tree left := by
  induction hn : ks.length using Nat.strongRecOn generalizing ks left with
  | ind n ih =>
    subst hn
    cases ks with
    | nil =>
      rw [joinMore] at h
      obtain ⟨rfl, rfl⟩ := Prod.mk.inj (Option.some.inj h)
      exact ⟨.none, rfl, rfl⟩
    | cons k ks =>
      cases hj : l.join? k.kind with
      | none =>
        rw [joinMore_of_none hj] at h
        obtain ⟨rfl, rfl⟩ := Prod.mk.inj (Option.some.inj h)
        exact ⟨.none, rfl, rfl⟩
      | some join =>
        rw [joinMore_of_some (Symbol.isLocal_read inner _) hj] at h
        cases hop : l.operand.read inner ks with
        | none => rw [hop] at h; cases h
        | some p =>
          obtain ⟨right, rest'⟩ := p
          rw [hop] at h
          obtain ⟨d, rfl, rfl⟩ := hoperand _ _ _ hop
          have hlt : rest'.length < (k :: (d.tokens ++ rest')).length := by
            simp only [List.length_cons, List.length_append]
            omega
          obtain ⟨m, rfl, rfl⟩ := ih _ hlt h rfl
          exact ⟨.more k join hj d m, by simp [Tail.tokens], rfl⟩

omit hinner in
/-- **What is read for a row is derived**, if that holds of its operands. -/
private theorem sound_row {l : Level} (hoperand : l.operand.Sound (l.operand.read inner)) :
    (Symbol.row l).Sound ((Symbol.row l).read inner) := by
  intro ks e rest h
  rw [Symbol.read_row, joined] at h
  cases hop : l.operand.read inner ks with
  | none => rw [hop] at h; cases h
  | some p =>
    obtain ⟨left, rest'⟩ := p
    rw [hop] at h
    obtain ⟨d, rfl, rfl⟩ := hoperand _ _ _ hop
    obtain ⟨m, rfl, rfl⟩ := exists_tail hoperand h
    exact ⟨.row d m, by rw [Derivation.tokens, List.append_assoc], rfl⟩

omit hinner in
private theorem sound_signed {R : Reader} (hoperand : (Symbol.row .possessed).Sound R) :
    Symbol.signed.Sound (signed R) := by
  intro ks
  induction ks with
  | nil =>
    intro e rest h
    obtain ⟨d, hd, rfl⟩ := hoperand _ _ _ h
    exact ⟨.unsigned d, hd, rfl⟩
  | cons k ks ih =>
    intro e rest h
    rw [signed] at h
    split at h
    · rename_i hk
      obtain ⟨⟨e', rest'⟩, hmore, heq⟩ := Option.map_eq_some_iff.mp h
      obtain ⟨rfl, rfl⟩ := Prod.mk.inj heq
      obtain ⟨d, rfl, rfl⟩ := ih _ _ hmore
      exact ⟨.minus ⟨k, hk⟩ d, rfl, rfl⟩
    · obtain ⟨d, hd, rfl⟩ := hoperand _ _ _ h
      exact ⟨.unsigned d, hd, rfl⟩

end Sound

/-- **What a reader of sums takes derives.** -/
theorem sound_sumAt (n : Nat) : (Symbol.row .sum).Sound (sumAt n) := by
  induction n with
  | zero =>
    intro ks e rest h
    cases h
  | succ n ih =>
    have hprimary : Symbol.primary.Sound (primary (sumAt n)) := sound_primary ih
    have hpossessed := sound_row (l := .possessed) hprimary
    have hproduct := sound_row (l := .product) (sound_signed hpossessed)
    exact sound_row (l := .sum) hproduct

/-! ### What derives is read -/

/-- The rows that may go on behind an operand of the symbol. -/
def Symbol.rows : Symbol → List Level
  | .row .sum => [.sum, .product, .possessed]
  | .row .product => [.product, .possessed]
  | .row .possessed => [.possessed]
  | .signed => [.possessed]
  | .primary => []

/-- No row of the symbol goes on with the tokens. -/
def Symbol.Stops (s : Symbol) (rest : List Token) : Prop :=
  ∀ k ∈ rest.head?, ∀ l ∈ s.rows, l.join? k.kind = none

theorem Symbol.stops_nil (s : Symbol) : s.Stops [] := fun _ h => nomatch h

theorem Symbol.stops_comma (s : Symbol) (comma : Token.Of .comma) (rest : List Token) :
    s.Stops (comma.1 :: rest) := by
  intro k hk l _
  obtain rfl := Option.some.inj hk
  rw [comma.2]
  cases l <;> rfl

namespace Level

variable {l : Level}

theorem stops_operand {rest : List Token} (h : (Symbol.row l).Stops rest) : l.operand.Stops rest := by
  intro k hk l' hl'
  refine h k hk l' ?_
  cases l <;> exact List.mem_cons_of_mem _ hl'

/-- A token that joins the operands of a row does not go on with one of them. -/
theorem stops_operand_of_join? {k : Token} {join : Expr → Expr → Expr} (h : l.join? k.kind = some join)
    (rest : List Token) : l.operand.Stops (k :: rest) := by
  intro k' hk' l' hl'
  obtain rfl := Option.some.inj hk'
  revert h hl'
  cases l <;> cases l' <;> cases k.kind <;> simp [join?, operand, Symbol.rows, sum?, product?, possessed?]

theorem join?_of_stops {k : Token} {rest : List Token} (h : (Symbol.row l).Stops (k :: rest)) :
    l.join? k.kind = none := by
  refine h k rfl l ?_
  cases l <;> exact List.mem_cons_self

/-- An operand stops at the operators behind it. -/
theorem stops_tail (m : Tail l) {rest : List Token} (h : (Symbol.row l).Stops rest) :
    l.operand.Stops (m.tokens ++ rest) := by
  cases m with
  | none => exact stops_operand h
  | more k join hk operand m => exact stops_operand_of_join? hk _

end Level

theorem signed_of_ne (R : Reader) {k : Token} (hk : k.kind ≠ .minus) (ks : List Token) :
    signed R (k :: ks) = R (k :: ks) := by
  rw [signed]
  split
  · rename_i hminus
    exact absurd hminus hk
  · rfl

/-- An operand without sign begins with no minus. -/
theorem Derivation.exists_tokens_eq (d : Derivation (.row .possessed)) :
    ∃ k ks, d.tokens = k :: ks ∧ k.kind ≠ .minus := by
  cases d with
  | row first more =>
    cases first with
    | leaf k e hk =>
      refine ⟨k, more.tokens, rfl, fun h => ?_⟩
      rw [h] at hk
      cases hk
    | enclosed left inside right =>
      refine ⟨left.1, _, rfl, fun h => ?_⟩
      rw [left.2] at h
      cases h

mutual

/-- **A derivation is read**, if nothing that follows goes on with it. -/
theorem Derivation.read_tokens : ∀ {s : Symbol} (d : Derivation s) {n : Nat} {rest : List Token},
    d.tokens.length ≤ n + 1 → s.Stops rest →
      s.read (sumAt n) (d.tokens ++ rest) = some (d.tree, rest)
  | _, @Derivation.row l first m, n, rest, hn, h => by
    rw [Derivation.tokens, List.length_append] at hn
    have hlength : first.tokens.length ≤ n + 1 ∧ m.tokens.length ≤ n + 1 := by omega
    -- Nothing goes on with the first operand: neither a token that joins nor what is behind the row.
    have hfirst := first.read_tokens hlength.1 (Level.stops_tail m h)
    have hmore := m.joinMore_tokens hlength.2 h first.tree
    rw [Symbol.read_row, joined, Derivation.tokens, List.append_assoc, hfirst]
    exact hmore
  | _, .minus sign operand, n, rest, hn, h => by
    have hoperand := operand.read_tokens (Nat.le_of_succ_le hn) h
    rw [Symbol.read] at hoperand ⊢
    rw [Derivation.tokens, List.cons_append, signed, sign.2]
    simp only [hoperand]
    rfl
  | _, .unsigned operand, n, rest, hn, h => by
    have hoperand := operand.read_tokens hn h
    obtain ⟨k, ks, htokens, hk⟩ := operand.exists_tokens_eq
    rw [htokens, List.cons_append] at hoperand
    rw [Symbol.read, Derivation.tokens, htokens, List.cons_append, signed_of_ne _ hk]
    exact hoperand
  | _, .leaf k e hk, n, rest, hn, h => by
    have hne : k.kind ≠ .leftParen := by
      intro hparen
      rw [hparen] at hk
      cases hk
    rw [Symbol.read, Derivation.tokens, List.singleton_append, primary_of_ne _ hne, hk]
    rfl
  | _, .enclosed left inside right, n, rest, hn, h => by
    have hlength : inside.tokens.length + 1 ≤ n := by
      rw [Derivation.tokens, List.length_cons, List.length_append, List.length_singleton] at hn
      omega
    -- The parenthesis that the parser looks for is the one of the derivation.
    have hclosing : Token.closing? 0 (inside.tokens ++ right.1 :: rest) = some (inside.tokens, rest) :=
      Token.closing?_eq_some_iff.mpr ⟨right.1, right.2, rfl, inside.balanced_tokens⟩
    rw [Symbol.read, Derivation.tokens, List.cons_append, List.append_assoc, List.singleton_append,
      primary_of_leftParen _ left.2, hclosing, Option.bind_some, inside.group?_tokens hlength]
    rfl

/-- **Derived operators and operands are read**, if there is room for their parentheses. -/
theorem Tail.joinMore_tokens : ∀ {l : Level} (m : Tail l) {n : Nat} {rest : List Token},
    m.tokens.length ≤ n + 1 → (Symbol.row l).Stops rest → ∀ left : Expr,
      joinMore (l.operand.read (sumAt n)) l.join? left (m.tokens ++ rest) = some (m.tree left, rest)
  | _, .none, n, [], hn, h, left => joinMore.eq_1 _ _ left
  | _, .none, n, k :: rest, hn, h, left => joinMore_of_none (Level.join?_of_stops h)
  | _, .more k join hk operand m, n, rest, hn, h, left => by
    rw [Tail.tokens, List.length_cons, List.length_append] at hn
    have hlength : operand.tokens.length ≤ n + 1 ∧ m.tokens.length ≤ n + 1 := by omega
    have hoperand := operand.read_tokens hlength.1 (Level.stops_tail m h)
    have hmore := m.joinMore_tokens hlength.2 h (join left operand.tree)
    rw [Tail.tokens, List.cons_append, joinMore_of_some (Symbol.isLocal_read _ _) hk, List.append_assoc,
      hoperand]
    exact hmore

/-- What is derived in parentheses is read there. -/
theorem Inside.group?_tokens : ∀ (i : Inside) {n : Nat}, i.tokens.length + 1 ≤ n →
    group? (sumAt n) i.tokens = some i.tree
  | .sum e, n, hn => by
    obtain ⟨m, rfl⟩ : ∃ m, n = m + 1 := ⟨n - 1, by omega⟩
    have he := e.read_tokens (Nat.le_of_succ_le hn) (Symbol.stops_nil _)
    rw [Inside.tokens, InPlace.group?_eq_whole e.not_opensCall, whole_eq_some_iff, sumAt_succ]
    rwa [List.append_nil] at he
  | .call name ⟨⟨_, _, _⟩, rfl⟩ ⟨⟨_, _, _⟩, rfl⟩ hname args, n, hn => by
    have hargs := args.arguments_tokens (Nat.le_of_succ_le (Nat.le_of_succ_le hn))
    rw [Inside.tokens, group?, call?, if_neg fun h => hname (List.contains_iff_mem.mp h), hargs]
    rfl
  | .query name ⟨⟨_, _, _⟩, rfl⟩ ⟨⟨_, _, _⟩, rfl⟩ hname args hne hbalanced, n, hn => by
    rw [Inside.tokens, group?, call?, if_pos (List.contains_iff_mem.mpr hname), Inside.tree, ← Option.map_some,
      Option.some_get]

theorem Arguments.arguments_tokens : ∀ (as : Arguments) {n : Nat}, as.tokens.length + 1 ≤ n →
    arguments (sumAt n) as.tokens = some as.trees
  | .none, n, hn => arguments.eq_1 _
  | .last e, n, hn => by
    obtain ⟨m, rfl⟩ : ∃ m, n = m + 1 := ⟨n - 1, by omega⟩
    have he := e.read_tokens (Nat.le_of_succ_le hn) (Symbol.stops_nil _)
    rw [List.append_nil, ← sumAt_succ] at he
    obtain ⟨k, ks, htokens⟩ := List.exists_cons_of_ne_nil e.tokens_ne_nil
    rw [Arguments.tokens, htokens, arguments, ← htokens, he]
    rfl
  | .next e comma as, n, hn => by
    rw [Arguments.tokens, List.length_append, List.length_cons] at hn
    obtain ⟨m, rfl⟩ : ∃ m, n = m + 1 := ⟨n - 1, by omega⟩
    have hlength : e.tokens.length ≤ m + 1 ∧ as.tokens.length + 1 ≤ m + 1 := by omega
    have he := e.read_tokens hlength.1 (Symbol.stops_comma _ comma as.tokens)
    have has := as.arguments_tokens hlength.2
    rw [← sumAt_succ] at he
    obtain ⟨k, ks, htokens⟩ := List.exists_cons_of_ne_nil e.tokens_ne_nil
    -- The parser goes on only if the argument took a token, and an argument has one.
    have hle : as.tokens.length ≤ (ks ++ comma.1 :: as.tokens).length := by
      rw [List.length_append, List.length_cons]
      omega
    rw [Arguments.tokens, htokens, List.cons_append, arguments, ← List.cons_append, ← htokens, he]
    simp only [comma.2, if_pos hle, has]
    rfl

end

/-! ### Tokens have one derivation -/

/-- The parenthesis that closes balanced tokens is the first one that does. -/
theorem eq_of_append_rightParen {us vs r r' : List Token} (hus : Token.Balanced us)
    (hvs : Token.Balanced vs) (k k' : Token.Of .rightParen) (h : us ++ k.1 :: r = vs ++ k'.1 :: r') :
    us = vs ∧ k = k' ∧ r = r' := by
  have hclosing : Token.closing? 0 (us ++ k.1 :: r) = some (us, r) :=
    Token.closing?_eq_some_iff.mpr ⟨k.1, k.2, rfl, hus⟩
  have hclosing' : Token.closing? 0 (us ++ k.1 :: r) = some (vs, r') :=
    Token.closing?_eq_some_iff.mpr ⟨k'.1, k'.2, h, hvs⟩
  obtain ⟨rfl, rfl⟩ := Prod.mk.inj (Option.some.inj (hclosing.symm.trans hclosing'))
  exact ⟨rfl, Subtype.ext (List.cons.inj (List.append_cancel_left h)).1, rfl⟩

private theorem eq_of_name {n n' : Text} {name : Token.Of (.word n)} {name' : Token.Of (.word n')}
    (h : name.1 = name'.1) : n = n' :=
  Token.Kind.word.inj (name.2.symm.trans ((congrArg Token.kind h).trans name'.2))

mutual

/-- **A derivation is told from all others by its tokens**, also with more tokens behind them that do not
go on with it. -/
theorem Derivation.eq_of_append : ∀ {s : Symbol} (d d' : Derivation s) {r r' : List Token},
    s.Stops r → s.Stops r' → d.tokens ++ r = d'.tokens ++ r' → d = d' ∧ r = r'
  | _, .row first m, .row first' m', r, r', hr, hr', h => by
    rw [Derivation.tokens, Derivation.tokens, List.append_assoc, List.append_assoc] at h
    obtain ⟨rfl, hmore⟩ := first.eq_of_append first' (Level.stops_tail m hr) (Level.stops_tail m' hr') h
    obtain ⟨rfl, rfl⟩ := m.eq_of_append m' hr hr' hmore
    exact ⟨rfl, rfl⟩
  | _, .minus sign operand, .minus sign' operand', r, r', hr, hr', h => by
    obtain ⟨hsign, h⟩ := List.cons.inj h
    obtain ⟨rfl, rfl⟩ := operand.eq_of_append operand' hr hr' h
    obtain rfl : sign = sign' := Subtype.ext hsign
    exact ⟨rfl, rfl⟩
  | _, .minus sign operand, .unsigned operand', r, r', hr, hr', h => by
    obtain ⟨k, ks, htokens, hk⟩ := operand'.exists_tokens_eq
    rw [Derivation.tokens, Derivation.tokens, htokens] at h
    exact absurd ((List.cons.inj h).1 ▸ sign.2) hk
  | _, .unsigned operand, .minus sign' operand', r, r', hr, hr', h => by
    obtain ⟨k, ks, htokens, hk⟩ := operand.exists_tokens_eq
    rw [Derivation.tokens, Derivation.tokens, htokens] at h
    exact absurd ((List.cons.inj h).1 ▸ sign'.2) hk
  | _, .unsigned operand, .unsigned operand', r, r', hr, hr', h => by
    obtain ⟨rfl, rfl⟩ := operand.eq_of_append operand' hr hr' h
    exact ⟨rfl, rfl⟩
  | _, .leaf k e hk, .leaf k' e' hk', r, r', hr, hr', h => by
    obtain ⟨rfl, rfl⟩ := List.cons.inj h
    obtain rfl := Option.some.inj (hk.symm.trans hk')
    exact ⟨rfl, rfl⟩
  | _, .leaf k e hk, .enclosed left' inside' right', r, r', hr, hr', h => by
    rw [(List.cons.inj h).1, left'.2] at hk
    cases hk
  | _, .enclosed left inside right, .leaf k' e' hk', r, r', hr, hr', h => by
    rw [← (List.cons.inj h).1, left.2] at hk'
    cases hk'
  | _, .enclosed left inside right, .enclosed left' inside' right', r, r', hr, hr', h => by
    obtain ⟨hleft, h⟩ := List.cons.inj h
    -- Both parentheses close at the first place where they can.
    obtain ⟨hinside, rfl, rfl⟩ := eq_of_append_rightParen inside.balanced_tokens
      inside'.balanced_tokens right right' (by simpa using h)
    obtain rfl := inside.eq_of_tokens inside' hinside
    obtain rfl : left = left' := Subtype.ext hleft
    exact ⟨rfl, rfl⟩

/-- **Operators and operands are derived in one way**, up to where the row stops. -/
theorem Tail.eq_of_append : ∀ {l : Level} (m m' : Tail l) {r r' : List Token},
    (Symbol.row l).Stops r → (Symbol.row l).Stops r' → m.tokens ++ r = m'.tokens ++ r' →
      m = m' ∧ r = r'
  | _, .none, .none, r, r', hr, hr', h => ⟨rfl, h⟩
  | _, .none, .more k' join' hk' operand' m', r, r', hr, hr', h => by
    obtain rfl : r = _ := h
    rw [Level.join?_of_stops hr] at hk'
    cases hk'
  | _, .more k join hk operand m, .none, r, r', hr, hr', h => by
    obtain rfl : _ = r' := h
    rw [Level.join?_of_stops hr'] at hk
    cases hk
  | _, .more k join hk operand m, .more k' join' hk' operand' m', r, r', hr, hr', h => by
    rw [Tail.tokens, Tail.tokens, List.cons_append, List.cons_append, List.append_assoc,
      List.append_assoc] at h
    obtain ⟨rfl, hoperand⟩ := List.cons.inj h
    obtain ⟨rfl, hmore⟩ :=
      operand.eq_of_append operand' (Level.stops_tail m hr) (Level.stops_tail m' hr') hoperand
    obtain ⟨rfl, rfl⟩ := m.eq_of_append m' hr hr' hmore
    obtain rfl := Option.some.inj (hk.symm.trans hk')
    exact ⟨rfl, rfl⟩

/-- What stands in parentheses is derived in one way. -/
theorem Inside.eq_of_tokens : ∀ i i' : Inside, i.tokens = i'.tokens → i = i'
  | .sum e, .sum e', h => by
    have happend : e.tokens ++ [] = e'.tokens ++ [] := by rw [List.append_nil, List.append_nil]; exact h
    obtain ⟨rfl, -⟩ := e.eq_of_append e' (Symbol.stops_nil _) (Symbol.stops_nil _) happend
    rfl
  | .sum e, .call n' name' colon' hn' args', h => absurd ⟨_, _, _, _, h, name'.2, colon'.2⟩ e.not_opensCall
  | .sum e, .query n' name' colon' hn' args' hne' hbalanced', h =>
    absurd ⟨_, _, _, _, h, name'.2, colon'.2⟩ e.not_opensCall
  | .call n name colon hn args, .sum e', h =>
    absurd ⟨_, _, _, _, h.symm, name.2, colon.2⟩ e'.not_opensCall
  | .query n name colon hn args hne hbalanced, .sum e', h =>
    absurd ⟨_, _, _, _, h.symm, name.2, colon.2⟩ e'.not_opensCall
  | .call n name colon hn args, .call n' name' colon' hn' args', h => by
    obtain ⟨hname, hmore⟩ := List.cons.inj h
    obtain ⟨hcolon, hargs⟩ := List.cons.inj hmore
    obtain rfl := eq_of_name hname
    obtain rfl : name = name' := Subtype.ext hname
    obtain rfl : colon = colon' := Subtype.ext hcolon
    obtain rfl := args.eq_of_tokens args' hargs
    rfl
  | .query n name colon hn args hne hbalanced, .query n' name' colon' hn' args' hne' hbalanced', h => by
    obtain ⟨hname, hmore⟩ := List.cons.inj h
    obtain ⟨hcolon, rfl⟩ := List.cons.inj hmore
    obtain rfl := eq_of_name hname
    obtain rfl : name = name' := Subtype.ext hname
    obtain rfl : colon = colon' := Subtype.ext hcolon
    rfl
  | .call n name colon hn args, .query n' name' colon' hn' args' hne' hbalanced', h =>
    absurd (eq_of_name (List.cons.inj h).1 ▸ hn') hn
  | .query n name colon hn args hne hbalanced, .call n' name' colon' hn' args', h =>
    absurd (eq_of_name (List.cons.inj h).1 ▸ hn) hn'

theorem Arguments.eq_of_tokens : ∀ as as' : Arguments, as.tokens = as'.tokens → as = as'
  | .none, .none, _ => rfl
  | .none, .last e', h => absurd h.symm e'.tokens_ne_nil
  | .none, .next e' comma' as', h => by simp [Arguments.tokens] at h
  | .last e, .none, h => absurd h e.tokens_ne_nil
  | .next e comma as, .none, h => by simp [Arguments.tokens] at h
  | .last e, .last e', h => by
    have happend : e.tokens ++ [] = e'.tokens ++ [] := by rw [List.append_nil, List.append_nil]; exact h
    obtain ⟨rfl, -⟩ := e.eq_of_append e' (Symbol.stops_nil _) (Symbol.stops_nil _) happend
    rfl
  | .last e, .next e' comma' as', h => by
    rw [Arguments.tokens, Arguments.tokens, ← List.append_nil e.tokens] at h
    cases (e.eq_of_append e' (Symbol.stops_nil _) (Symbol.stops_comma _ _ _) h).2
  | .next e comma as, .last e', h => by
    rw [Arguments.tokens, Arguments.tokens, ← List.append_nil e'.tokens] at h
    cases (e.eq_of_append e' (Symbol.stops_comma _ _ _) (Symbol.stops_nil _) h).2
  | .next e comma as, .next e' comma' as', h => by
    obtain ⟨rfl, hmore⟩ := e.eq_of_append e' (Symbol.stops_comma _ _ _) (Symbol.stops_comma _ _ _) h
    obtain ⟨hcomma, has⟩ := List.cons.inj hmore
    obtain rfl := as.eq_of_tokens as' has
    obtain rfl : comma = comma' := Subtype.ext hcomma
    rfl

end

/-! ### The parser and the grammar -/

/-- The tree of a derivation is the expression of its tokens. -/
theorem Derivation.ofTokens?_tokens (d : Derivation (.row .sum)) : ofTokens? d.tokens = some d.tree := by
  obtain ⟨n, hn⟩ := Nat.exists_eq_succ_of_ne_zero (mt List.length_eq_zero_iff.mp d.tokens_ne_nil)
  have hread := d.read_tokens (Nat.le_of_eq hn) (Symbol.stops_nil _)
  rw [List.append_nil] at hread
  rw [ofTokens?, whole_eq_some_iff, hn]
  exact hread

/-- The expression of tokens is the tree of a derivation. -/
theorem exists_derivation {ks : List Token} {e : Expr} (h : ofTokens? ks = some e) :
    ∃ d : Derivation (.row .sum), d.tokens = ks ∧ d.tree = e := by
  obtain ⟨d, hd, he⟩ := sound_sumAt _ _ _ _ (whole_eq_some_iff.mp h)
  exact ⟨d, by rw [hd, List.append_nil], he.symm⟩

/-- **The parser accepts exactly what the grammar derives.** The expression of tokens is the tree of
their derivation, there is none where they have no derivation, and no two derivations have the same
tokens. -/
theorem ofTokens?_iff_derivation (ks : List Token) :
    (∀ e, ofTokens? ks = some e ↔ ∃ d : Derivation (.row .sum), d.tokens = ks ∧ d.tree = e) ∧
      (ofTokens? ks = none ↔ ∀ d : Derivation (.row .sum), d.tokens ≠ ks) ∧
      Function.Injective fun d : Derivation (.row .sum) => d.tokens := by
  refine ⟨fun e => ⟨exists_derivation, ?_⟩, ⟨?_, ?_⟩, ?_⟩
  · rintro ⟨d, rfl, rfl⟩
    exact d.ofTokens?_tokens
  · rintro h d rfl
    rw [d.ofTokens?_tokens] at h
    cases h
  · intro h
    refine Option.eq_none_iff_forall_ne_some.mpr fun e he => ?_
    obtain ⟨d, hd, -⟩ := exists_derivation he
    exact h d hd
  · intro d d' h
    have happend : d.tokens ++ [] = d'.tokens ++ [] := congrArg (· ++ []) h
    exact (d.eq_of_append d' (Symbol.stops_nil _) (Symbol.stops_nil _) happend).1

end Expr

end Hyperfiction

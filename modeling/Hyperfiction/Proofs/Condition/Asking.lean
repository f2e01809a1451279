import Hyperfiction.Proofs.Condition.Queries
import Hyperfiction.Proofs.Document.Basic
import Hyperfiction.Proofs.Token.Front

/-!
# A condition that asks one query

`Condition.asking q` writes a condition with one call in it, which asks for the visits with the argument
`q`. The tokens of the argument are read with the closing parenthesis of the call behind them. Where all
quotations are closed and all parentheses have their partner (`Token.Enclosable`), the condition is the
query of the argument (`Condition.ofText_asking`). Everywhere else the parenthesis is lost to a quotation
or closes another one, and what is asked then, if anything, has fewer parentheses than the argument: the
condition does the same in two settings that answer the query of the argument differently
(`Condition.exists_textHolds_asking_eq`).
-/

namespace Hyperfiction

namespace Token

/-- Tokens that are the same between parentheses: their quotations are closed and their parentheses have
partners. -/
def Enclosable (ks : List Token) : Prop := (∀ k ∈ ks, k.IsClosed) ∧ Balanced ks

instance (ks : List Token) : Decidable (Enclosable ks) :=
  inferInstanceAs (Decidable ((∀ k ∈ ks, k.IsClosed) ∧ Balanced ks))

end Token

theorem Text.includes_self (t : Text) : includes t t = true := by
  have hall : after? t t = some [] := after?_eq_some.mpr (List.append_nil t).symm
  cases t with
  | nil => rfl
  | cons c t => rw [includes, breakOn?, hall]; rfl

/-- The name that tokens ask for has all of their brackets. -/
theorem Query.parens_of_ofTokens? {ks : List Token} (hread : ∀ k ∈ ks, k.IsRead) {name : Text}
    (h : ofTokens? ks = some (.passage name)) : Text.parens name = Text.parens (Token.written ks) := by
  have hcovered := Token.parens_trim_covered hread
  unfold ofTokens? at h
  split at h
  · cases h
  · rename_i t hkinds
    obtain rfl := passage.inj (Option.some.inj h)
    obtain ⟨k, rfl, hk⟩ := List.map_eq_singleton_iff.mp hkinds
    obtain ⟨hgap, -, hquoted⟩ := hread k List.mem_cons_self
    rw [Token.written, Token.written, List.append_nil, Text.parens_append,
      Text.parens_of_forall_isBlank hgap, Nat.zero_add]
    exact (hquoted t hk).symm
  · split at h
    · cases h
    · obtain rfl := passage.inj (Option.some.inj h)
      exact hcovered
  · obtain rfl := passage.inj (Option.some.inj h)
    exact hcovered

namespace Condition

/-- The text of a condition that asks the query of an argument. -/
def asking (q : Text) : Text := ' ' :: (Doc.guardCall q).source

theorem asking_eq (q : Text) :
    asking q = ' ' :: '(' :: 'v' :: ("isited".toList ++ ':' :: (q ++ [')'])) := by
  show ' ' :: ('(' :: "visited".toList ++ ':' :: q ++ [')']) = _
  simp

/-! ### Its tokens -/

/-- The tokens in front of the argument. -/
def opening : List Token :=
  [⟨[' '], .leftParen, ['(']⟩, ⟨[], .word "visited".toList, "visited".toList⟩, ⟨[], .colon, [':']⟩]

/-- A question in a condition is read as its opening and the tokens of its text with the parenthesis
behind it. -/
private theorem read_asking (q : Text) : Token.read (asking q) = opening ++ Token.read (q ++ [')']) := by
  have hparen : Token.IsSeparator '(' := Token.isSeparator_of_mem (by simp)
  have hcolon : Token.IsSeparator ':' := Token.isSeparator_of_mem (by simp)
  have hstart : Token.startsWord 'v' = true := by decide +kernel
  have hword : ∀ c ∈ "visited".toList, Token.continuesWord c :=
    List.all_eq_true.mp (show "visited".toList.all Token.continuesWord = true by decide +kernel)
  have hvisited := Token.readBehind_word (hcolon.ends (q ++ [')'])) hstart hword (by decide) (by decide)
    (Token.kindOfSign '(').endsOperand
  rw [asking_eq, Token.read, Token.readBehind_blank (by decide), Token.read,
    Token.readBehind_separator hparen]
  refine congrArg (Token.indent ' ' ∘ (⟨[], Token.kindOfSign '(', ['(']⟩ :: ·)) (hvisited.trans ?_)
  rw [Token.readBehind_separator hcolon]
  rfl

variable {q : Text}

/-- The closing parenthesis is a token of its own, or the end of a quotation. -/
private theorem read_asking_cases (q : Text) :
    ((∀ k ∈ Token.read q, k.IsClosed) ∧ ∃ gap,
      Token.read (asking q) = opening ++ (Token.read q ++ [⟨gap, .rightParen, [')']⟩])) ∨
    ((∃ k ∈ Token.read q, ¬ k.IsClosed) ∧ ∃ front gap c body,
      Token.read q = front ++ [⟨gap, .quoted body, c :: body⟩] ∧
      Token.read (asking q) = opening ++ (front ++ [⟨gap, .quoted (body ++ [')']), c :: body ++ [')']⟩])) := by
  by_cases h : ∀ k ∈ Token.read q, k.IsClosed
  · obtain ⟨gap, hread⟩ := Token.readBehind_followed Token.isSeparator_paren h []
    refine .inl ⟨h, gap, ?_⟩
    rw [Token.readBehind_nil] at hread
    rw [read_asking]
    exact congrArg (opening ++ ·) hread
  · have hopen : ∃ k ∈ Token.read q, ¬ k.IsClosed := by simpa using h
    obtain ⟨front, gap, c, body, hread, hmore⟩ := Token.readBehind_open hopen
    refine .inr ⟨hopen, front, gap, c, body, hread, ?_⟩
    rw [read_asking]
    exact congrArg (opening ++ ·) hmore

/-- The question has one more pair of parentheses than its text. -/
private theorem parens_asking (q : Text) : Text.parens (asking q) = Text.parens q + 2 := by
  rw [asking_eq]
  simp [Text.parens]

/-! ### Arguments that are the same between parentheses -/

/-- **The condition is the query of its argument**, if the tokens of that are the same between
parentheses. -/
theorem ofText_asking (h : Token.Enclosable (Token.read q)) {query : Query}
    (hq : Query.ofText? q = some query) : ofText (asking q) = .truth (.visited query) := by
  obtain ⟨hclosed, hbalanced⟩ := h
  rcases read_asking_cases q with ⟨-, gap, hread⟩ | ⟨⟨k, hk, hopen⟩, -⟩
  · have hvisited : "visited".toList.map Char.toLower ∈ Expr.queryNames := by decide
    rw [ofText, hread]
    exact ofTokens_visited rfl rfl rfl hbalanced rfl hvisited hq
  · exact absurd (hclosed k hk) hopen

/-! ### All other arguments -/

/-- What stands around a part of tokens has one of the parentheses at their ends. -/
private theorem parens_around {ks more front call a b : List Token} {first last : Token}
    (hfirst : ks = first :: more) (hfirst' : 0 < Text.parens first.source)
    (hlast : ks = front ++ [last]) (hlast' : 0 < Text.parens last.source) (hne : ks ≠ call)
    (heq : ks = a ++ call ++ b) :
    0 < Text.parens (Token.written a) + Text.parens (Token.written b) := by
  cases a with
  | cons k a =>
    obtain ⟨rfl, -⟩ := List.cons.inj (hfirst.symm.trans heq)
    rw [Token.written, Text.parens_append, Text.parens_append]
    omega
  | nil =>
    rcases List.eq_nil_or_concat b with rfl | ⟨b, k, rfl⟩
    · exact absurd (heq.trans (by simp)) hne
    · rw [List.concat_eq_append, ← List.append_assoc, hlast] at heq
      obtain rfl := List.singleton_inj.mp (List.append_inj' heq rfl).2
      simp only [List.concat_eq_append, Token.written_append, Token.written, Text.parens_append]
      omega

private theorem eq_of_opening_append {us vs : List Token} {first name colon : Token}
    (h : opening ++ us = first :: name :: colon :: vs) : us = vs :=
  (List.cons.inj (List.cons.inj (List.cons.inj h).2).2).2

/-- A call is not all of the condition. -/
private theorem parens_around_call (h : ¬ Token.Enclosable (Token.read q)) {args call a b : List Token}
    (hcall : Token.IsCall args call) (heq : Token.read (asking q) = a ++ call ++ b) :
    0 < Text.parens (Token.written a) + Text.parens (Token.written b) := by
  have hfirst : 0 < Text.parens ['('] := by decide
  obtain ⟨first, name, colon, last, -, hlast, hargs, rfl⟩ := hcall
  rcases read_asking_cases q with ⟨hclosed, gap, hread⟩ | ⟨-, front, gap, c, body, -, hread⟩
  · have hparen : 0 < Text.parens [')'] := by decide
    refine parens_around hread hfirst (hread.trans (List.append_assoc _ _ _).symm) hparen ?_ heq
    rw [hread]
    -- A call of all the tokens would have balanced arguments, the tokens of `q`.
    intro hwhole
    obtain ⟨hq, -⟩ := List.append_inj' (eq_of_opening_append hwhole) rfl
    exact h ⟨hclosed, hq ▸ hargs⟩
  · have hparen : 0 < Text.parens (c :: body ++ [')']) := by
      rw [Text.parens_append]
      exact Nat.lt_add_left _ (by decide)
    refine parens_around hread hfirst (hread.trans (List.append_assoc _ _ _).symm) hparen ?_ heq
    rw [hread]
    -- Here the last token is a quotation, and a call ends with a parenthesis.
    intro hwhole
    obtain ⟨-, hend⟩ := List.append_inj' (eq_of_opening_append hwhole) rfl
    rw [← List.singleton_inj.mp hend] at hlast
    cases hlast

/-- **What such a condition asks for** has fewer parentheses than its argument. -/
theorem parens_lt_of_mem_queries (h : ¬ Token.Enclosable (Token.read q)) {name : Text}
    (hname : .passage name ∈ (ofText (asking q)).queries) : Text.parens name < Text.parens q := by
  obtain ⟨args, call, hcall, ⟨a, b, heq⟩, hargs⟩ := asked_of_ofTokens _ _ hname
  have haround := parens_around_call h hcall heq.symm
  have hall : ∀ k ∈ a ++ call ++ b, k.IsRead := by
    rw [heq]
    exact fun k hk => Token.isRead_of_mem hk
  have hsum : Text.parens (Token.written (a ++ call ++ b)) = Text.parens q + 2 := by
    rw [heq, Token.parens_written_read, parens_asking]
  obtain ⟨first, name', colon, last, hfirst, hlast, -, rfl⟩ := hcall
  have hone := (hall first (by simp)).paren (.inl hfirst)
  have htwo := (hall last (by simp)).paren (.inr hlast)
  rw [Query.parens_of_ofTokens? (fun k hk => hall k (by simp [hk])) hargs]
  simp only [Token.written_append, Token.written, Text.parens_append] at hsum
  omega

/-- The tokens of an argument that asks for a tag have no parentheses. -/
private theorem ne_paren_of_tag {ks : List Token} {part : Text}
    (hq : Query.ofTokens? ks = some (.tag part)) :
    ∀ k ∈ ks, k.kind ≠ .leftParen ∧ k.kind ≠ .rightParen := by
  unfold Query.ofTokens? at hq
  split at hq
  · cases hq
  · cases hq
  · rename_i hkinds
    intro k hk
    have hmem := List.mem_map_of_mem (f := Token.kind) hk
    rw [hkinds] at hmem
    constructor
    · intro hparen
      simp [hparen] at hmem
    · intro hparen
      simp [hparen] at hmem
  · cases hq

/-- An argument that asks for a tag leaves such a condition without a call. -/
theorem queries_asking_of_tag (h : ¬ Token.Enclosable (Token.read q)) {part : Text}
    (hq : Query.ofText? q = some (.tag part)) : (ofText (asking q)).queries = [] := by
  have hparens := ne_paren_of_tag hq
  have hbalanced : Token.Balanced (Token.read q) := Token.balanced_of_forall_ne hparens
  rcases read_asking_cases q with ⟨hclosed, -⟩ | ⟨-, front, gap, c, body, hfront, hread⟩
  · exact absurd ⟨hclosed, hbalanced⟩ h
  · refine List.eq_nil_iff_forall_not_mem.mpr fun q' hq' => ?_
    obtain ⟨args, call, ⟨first, name, colon, last, -, hlast, -, rfl⟩, hsub, -⟩ :=
      asked_of_ofTokens _ _ hq'
    have hmem : last ∈ Token.read (asking q) := hsub.subset (by simp)
    rw [hread, List.mem_append, List.mem_append, List.mem_singleton] at hmem
    rcases hmem with hmem | hmem | rfl
    · have hopening : ∀ k ∈ opening, k.kind ≠ .rightParen := by simp [opening]
      exact hopening last hmem hlast
    · exact (hparens last (by simp [hfront, hmem])).2 hlast
    · cases hlast

/-! ### Settings that tell them apart -/

/-- **The condition does the same** in two settings that answer the query of its argument differently, if
the tokens of the argument are not the same between parentheses. -/
theorem exists_textHolds_asking_eq (h : ¬ Token.Enclosable (Token.read q)) {query : Query}
    (hq : Query.ofText? q = some query) (words : Words) (limits : Limits) :
    ∃ visits tags, query.holds ⟨visits, tags, words, limits⟩ = true ∧
      query.holds ⟨[], tags, words, limits⟩ = false ∧
      textHolds ⟨visits, tags, words, limits⟩ (asking q) =
        textHolds ⟨[], tags, words, limits⟩ (asking q) := by
  cases query with
  | passage name =>
    have hname : Text.parens name = Text.parens q :=
      (Query.parens_of_ofTokens? (fun k hk => Token.isRead_of_mem hk) hq).trans
        (Token.parens_written_read q)
    refine ⟨[name], Table.empty, by simp [Query.holds, Setting.hasVisited],
      by simp [Query.holds, Setting.hasVisited], ?_⟩
    rw [textHolds, textHolds]
    refine holds_congr ?_ _ fun q' hq' => ?_
    · rfl
    cases q' with
    | passage name' =>
      -- A name with fewer parentheses is not the one that was visited.
      have hne : name' ≠ name := by
        rintro rfl
        exact absurd (parens_lt_of_mem_queries h hq') (hname ▸ Nat.lt_irrefl _)
      simp [Query.holds, Setting.hasVisited, hne]
    | tag part => simp [Query.holds, Setting.hasVisitedTag]
  | tag part =>
    refine ⟨[[]], Table.empty.insert [] [part], ?_, by simp [Query.holds, Setting.hasVisitedTag], ?_⟩
    · simp [Query.holds, Setting.hasVisitedTag, Table.get?_insert, Text.includes_self]
    · rw [textHolds, textHolds]
      refine holds_congr ?_ _ fun q' hq' => ?_
      · rfl
      rw [queries_asking_of_tag h hq] at hq'
      cases hq'

end Condition

end Hyperfiction

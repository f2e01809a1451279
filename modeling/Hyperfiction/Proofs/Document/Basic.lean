import Hyperfiction.Proofs.Markup.Search

/-!
# Documents

Markup is a flat text, but what an author means by it is a tree: text, assignments, chains whose
branches hold documents, and guards that hold one. A `Doc` is such a tree and `Doc.render` writes it as
markup. `Doc.WellFormed own inner` asks of its arguments that they close what they open and begin no
macro that a pass would take for one of its own, and leaves open what its texts are: `own` for those
outside all hooks, `inner` for those in hooks. If they are `Inline`, the shape of the tree can be seen
in the markup: hooks are balanced (`Doc.balanced_render`), and a chain ends where its branches end
(`Doc.endsAt_render`), so every chain and guard is found again (`Doc.find?_chain_render`,
`Doc.find?_guard_render`).
-/

namespace Hyperfiction

open Invocation

mutual

/-- A **document**: a sequence of texts, assignments, chains and guards. -/
inductive Doc where
  | done
  | text (t : Text) (rest : Doc)
  | set (args : Text) (rest : Doc)
  | chain (condition : Text) (body : Doc) (more : Branches) (rest : Doc)
  | guard (query : Text) (body : Doc) (rest : Doc)

/-- The branches of a chain behind its first. A last branch without condition is an `(else:)` or a
bare hook. -/
inductive Branches where
  | none
  | otherwise (bare : Bool) (body : Doc)
  | elseIf (condition : Text) (body : Doc) (more : Branches)

end

/-! ### Markup -/

/-- The macro of an assignment. -/
def Doc.setCall (args : Text) : Invocation := ⟨"set".toList, args⟩

/-- The macro that begins a chain. -/
def Doc.ifCall (condition : Text) : Invocation := ⟨"if".toList, condition⟩

/-- The macro that continues a chain. -/
def Doc.elseIfCall (condition : Text) : Invocation := ⟨"else-if".toList, condition⟩

/-- The macro that ends a chain. -/
def Doc.elseCall : Invocation := ⟨"else".toList, []⟩

/-- The macro of a guard. -/
def Doc.guardCall (query : Text) : Invocation := ⟨"visited".toList, query⟩

mutual

/-- The document as markup. -/
def Doc.render : Doc → Text
  | .done => []
  | .text t rest => t ++ rest.render
  | .set args rest => (Doc.setCall args).source ++ rest.render
  | .chain c body more rest =>
    (⟨⟨[], some (Doc.ifCall c), ⟨[], body.render⟩⟩, more.list⟩ : Chain).source ++ rest.render
  | .guard q body rest =>
    ((Doc.guardCall q).source ++ (⟨[], body.render⟩ : Hook).source) ++ rest.render

/-- The branches as they stand in a chain. -/
def Branches.list : Branches → List Branch
  | .none => []
  | .otherwise true body => [⟨[], Option.none, ⟨[], body.render⟩⟩]
  | .otherwise false body => [⟨[], some Doc.elseCall, ⟨[], body.render⟩⟩]
  | .elseIf c body more => ⟨[], some (Doc.elseIfCall c), ⟨[], body.render⟩⟩ :: more.list

end

/-- The chain of a first condition with its body and the branches behind. -/
def Doc.chainOf (c : Text) (body : Doc) (more : Branches) : Chain :=
  ⟨⟨[], some (Doc.ifCall c), ⟨[], body.render⟩⟩, more.list⟩

/-! ### Well-formed documents -/

/-- An argument that closes what it opens, has no square bracket and begins no assignment. -/
structure Doc.Argument (t : Text) : Prop where
  balanced : Bracket.round.Balanced t
  noOpener : '[' ∉ t
  noCloser : ']' ∉ t
  noSet : NoHead setNames t

/-- An argument of an assignment begins no chain or guard either. -/
structure Doc.SetArgument (t : Text) : Prop extends Doc.Argument t where
  noConditional : NoHead Conditional.names t

instance (t : Text) : Decidable (Doc.Argument t) :=
  decidable_of_iff (Bracket.round.Balanced t ∧ '[' ∉ t ∧ ']' ∉ t ∧ NoHead setNames t)
    ⟨fun h => ⟨h.1, h.2.1, h.2.2.1, h.2.2.2⟩,
      fun h => ⟨h.balanced, h.noOpener, h.noCloser, h.noSet⟩⟩

instance (t : Text) : Decidable (Doc.SetArgument t) :=
  decidable_of_iff (Doc.Argument t ∧ NoHead Conditional.names t)
    ⟨fun h => ⟨h.1, h.2⟩, fun h => ⟨h.toArgument, h.noConditional⟩⟩

/-- A text without square brackets in which no macro of a document begins. -/
structure Doc.Inline (t : Text) : Prop where
  isSealed : Sealed t
  noHead : NoHead (setNames ++ Conditional.names ++ Orphan.names) t
  noOpener : '[' ∉ t
  noCloser : ']' ∉ t

instance (t : Text) : Decidable (Doc.Inline t) :=
  decidable_of_iff (Sealed t ∧ NoHead (setNames ++ Conditional.names ++ Orphan.names) t ∧ '[' ∉ t ∧
    ']' ∉ t) ⟨fun h => ⟨h.1, h.2.1, h.2.2.1, h.2.2.2⟩,
      fun h => ⟨h.isSealed, h.noHead, h.noOpener, h.noCloser⟩⟩

mutual

/-- The arguments of the document are arguments, its texts outside of hooks are `own` and those in
hooks are `inner`. -/
def Doc.WellFormed (own inner : Text → Prop) : Doc → Prop
  | .done => True
  | .text t rest => own t ∧ rest.WellFormed own inner
  | .set args rest => Doc.SetArgument args ∧ rest.WellFormed own inner
  | .chain c body more rest =>
    Doc.Argument c ∧ body.WellFormed inner inner ∧ more.WellFormed inner ∧
      rest.WellFormed own inner
  | .guard q body rest =>
    Doc.Argument q ∧ Text.isBlankText q = false ∧ body.WellFormed inner inner ∧
      rest.WellFormed own inner

/-- The arguments of the branches are arguments and their texts are `inner`. -/
def Branches.WellFormed (inner : Text → Prop) : Branches → Prop
  | .none => True
  | .otherwise _ body => body.WellFormed inner inner
  | .elseIf c body more =>
    Doc.Argument c ∧ body.WellFormed inner inner ∧ more.WellFormed inner

end

mutual

/-- Whether a document is well formed can be computed if its texts can be told. -/
def Doc.decidableWellFormed {inner : Text → Prop} (hi : DecidablePred inner) :
    ∀ {own : Text → Prop} (_ : DecidablePred own) (d : Doc), Decidable (d.WellFormed own inner)
  | _, _, .done => .isTrue trivial
  | own, ho, .text t rest =>
    have : Decidable (rest.WellFormed own inner) := Doc.decidableWellFormed hi ho rest
    inferInstanceAs (Decidable (own t ∧ rest.WellFormed own inner))
  | own, ho, .set args rest =>
    have : Decidable (rest.WellFormed own inner) := Doc.decidableWellFormed hi ho rest
    inferInstanceAs (Decidable (Doc.SetArgument args ∧ rest.WellFormed own inner))
  | own, ho, .chain c body more rest =>
    have : Decidable (body.WellFormed inner inner) := Doc.decidableWellFormed hi hi body
    have : Decidable (more.WellFormed inner) := Branches.decidableWellFormed hi more
    have : Decidable (rest.WellFormed own inner) := Doc.decidableWellFormed hi ho rest
    inferInstanceAs (Decidable (Doc.Argument c ∧ body.WellFormed inner inner ∧
      more.WellFormed inner ∧ rest.WellFormed own inner))
  | own, ho, .guard q body rest =>
    have : Decidable (body.WellFormed inner inner) := Doc.decidableWellFormed hi hi body
    have : Decidable (rest.WellFormed own inner) := Doc.decidableWellFormed hi ho rest
    inferInstanceAs (Decidable (Doc.Argument q ∧ Text.isBlankText q = false ∧
      body.WellFormed inner inner ∧ rest.WellFormed own inner))

/-- Whether branches are well formed can be computed if their texts can be told. -/
def Branches.decidableWellFormed {inner : Text → Prop} (hi : DecidablePred inner) :
    ∀ more : Branches, Decidable (more.WellFormed inner)
  | .none => .isTrue trivial
  | .otherwise _ body => Doc.decidableWellFormed hi hi body
  | .elseIf c body more =>
    have : Decidable (body.WellFormed inner inner) := Doc.decidableWellFormed hi hi body
    have : Decidable (more.WellFormed inner) := Branches.decidableWellFormed hi more
    inferInstanceAs (Decidable (Doc.Argument c ∧ body.WellFormed inner inner ∧
      more.WellFormed inner))

end

instance {own inner : Text → Prop} [ho : DecidablePred own] [hi : DecidablePred inner] (d : Doc) :
    Decidable (d.WellFormed own inner) :=
  Doc.decidableWellFormed hi ho d

section Mono

variable {inner inner' : Text → Prop}

mutual

/-- A document is well formed for larger classes of texts, too. -/
theorem Doc.WellFormed.mono (hi : ∀ t, inner t → inner' t) :
    ∀ {d : Doc} {own own' : Text → Prop}, (∀ t, own t → own' t) →
      d.WellFormed own inner → d.WellFormed own' inner'
  | .done, _, _, _, _ => trivial
  | .text _ _, _, _, ho, h => ⟨ho _ h.1, Doc.WellFormed.mono hi ho h.2⟩
  | .set _ _, _, _, ho, h => ⟨h.1, Doc.WellFormed.mono hi ho h.2⟩
  | .chain _ _ _ _, _, _, ho, h =>
    ⟨h.1, Doc.WellFormed.mono hi hi h.2.1, Branches.WellFormed.mono hi h.2.2.1,
      Doc.WellFormed.mono hi ho h.2.2.2⟩
  | .guard _ _ _, _, _, ho, h =>
    ⟨h.1, h.2.1, Doc.WellFormed.mono hi hi h.2.2.1, Doc.WellFormed.mono hi ho h.2.2.2⟩

theorem Branches.WellFormed.mono (hi : ∀ t, inner t → inner' t) :
    ∀ {more : Branches}, more.WellFormed inner → more.WellFormed inner'
  | .none, _ => trivial
  | .otherwise _ _, h => Doc.WellFormed.mono hi hi h
  | .elseIf _ _ _, h =>
    ⟨h.1, Doc.WellFormed.mono hi hi h.2.1, Branches.WellFormed.mono hi h.2.2⟩

end

end Mono

/-! ### Brackets of the markup -/

namespace Doc

theorem SetArgument.argument {t : Text} (h : SetArgument t) : Argument t := h.toArgument

/-- A macro with the argument of a document is read as a whole. -/
theorem Argument.readable {t : Text} (h : Argument t) {name : Text} (hn : IsName name) :
    Readable ⟨name, t⟩ :=
  ⟨hn, h.balanced⟩

/-- A macro without square brackets in name and argument has none. -/
private theorem square_not_mem_source {name t : Text} {c : Char} (hc : c = '[' ∨ c = ']')
    (hn : c ∉ name) (ht : c ∉ t) : c ∉ (⟨name, t⟩ : Invocation).source := by
  rcases hc with rfl | rfl <;> simp [Invocation.source, hn, ht]

theorem Argument.noOpener_source {t : Text} (h : Argument t) {name : Text} (hn : '[' ∉ name) :
    '[' ∉ (⟨name, t⟩ : Invocation).source :=
  square_not_mem_source (.inl rfl) hn h.noOpener

theorem Argument.noCloser_source {t : Text} (h : Argument t) {name : Text} (hn : ']' ∉ name) :
    ']' ∉ (⟨name, t⟩ : Invocation).source :=
  square_not_mem_source (.inr rfl) hn h.noCloser

/-- The brackets of such a macro are balanced. -/
theorem Argument.balanced_source {t : Text} (h : Argument t) {name : Text} (ho : '[' ∉ name)
    (hc : ']' ∉ name) : Bracket.square.Balanced (⟨name, t⟩ : Invocation).source :=
  Bracket.balanced_of_not_mem (h.noOpener_source ho) (h.noCloser_source hc)

theorem argument_nil : Argument [] := ⟨rfl, by simp, by simp, rfl⟩

/-- A hook around a balanced body is balanced. -/
theorem balanced_hook {body : Text} (h : Bracket.square.Balanced body) :
    Bracket.square.Balanced (⟨[], body⟩ : Hook).source :=
  h.enclosed

mutual

/-- **The square brackets of the markup match.** -/
theorem balanced_render :
    ∀ {d : Doc}, d.WellFormed Inline Inline → Bracket.square.Balanced d.render
  | .done, _ => by
    rw [render]
    exact Bracket.balanced_nil _
  | .text t rest, h => by
    rw [render]
    exact (Bracket.balanced_of_not_mem h.1.noOpener h.1.noCloser).append (balanced_render h.2)
  | .set args rest, h => by
    rw [render]
    exact (h.1.argument.balanced_source (by decide) (by decide)).append (balanced_render h.2)
  | .chain c body more rest, h => by
    obtain ⟨hc, hbody, hmore, hrest⟩ := h
    have hcall : Bracket.square.Balanced (ifCall c).source :=
      hc.balanced_source (by decide) (by decide)
    have hfirst := hcall.append (balanced_hook (balanced_render hbody))
    rw [render]
    refine Bracket.Balanced.append ?_ (balanced_render hrest)
    simpa [Chain.source, Chain.branches, Branch.source] using
      hfirst.append (balanced_list hmore)
  | .guard q body rest, h => by
    obtain ⟨hq, -, hbody, hrest⟩ := h
    have hcall : Bracket.square.Balanced (guardCall q).source :=
      hq.balanced_source (by decide) (by decide)
    rw [render]
    exact (hcall.append (balanced_hook (balanced_render hbody))).append (balanced_render hrest)

/-- Branches are balanced, as they are written. -/
theorem balanced_list :
    ∀ {more : Branches}, more.WellFormed Inline →
      Bracket.square.Balanced (more.list.flatMap Branch.source)
  | .none, _ => by
    rw [Branches.list]
    exact Bracket.balanced_nil _
  | .otherwise true body, h => by
    rw [Branches.list]
    simpa [Branch.source] using balanced_hook (balanced_render h)
  | .otherwise false body, h => by
    have hcall : Bracket.square.Balanced elseCall.source :=
      argument_nil.balanced_source (by decide) (by decide)
    rw [Branches.list]
    simpa [Branch.source] using hcall.append (balanced_hook (balanced_render h))
  | .elseIf c body more, h => by
    obtain ⟨hc, hbody, hmore⟩ := h
    have hcall : Bracket.square.Balanced (elseIfCall c).source :=
      hc.balanced_source (by decide) (by decide)
    have hfirst := hcall.append (balanced_hook (balanced_render hbody))
    rw [Branches.list]
    simpa [Branch.source] using hfirst.append (balanced_list hmore)

end

/-! ### Chains and guards are found again -/

/-- No well-formed document begins with a bracket. -/
theorem head?_render : ∀ {d : Doc}, d.WellFormed Inline Inline → d.render.head? ≠ some '['
  | .done, _ => by simp [render]
  | .text t rest, h => by
    have hrest := head?_render h.2
    rw [render]
    cases t with
    | nil => exact hrest
    | cons c t =>
      intro hc
      have hsq : c = '[' := by simpa using hc
      exact h.1.noOpener (by simp [hsq])
  | .set _ _, _ | .chain _ _ _ _, _ | .guard _ _ _, _ => by
    simp [render, Invocation.source, Chain.source, Chain.branches, Branch.source]

/-- A hook around a well-formed document is read as one. -/
theorem readable_hook {body : Doc} (h : body.WellFormed Inline Inline) :
    (⟨[], body.render⟩ : Hook).Readable :=
  ⟨by simp, balanced_render h, head?_render h⟩

/-- **A chain ends before a document.** -/
theorem endsAt_render : ∀ {d : Doc}, d.WellFormed Inline Inline → Chain.EndsAt d.render
  | .done, _ => Chain.endsAt_nil
  | .text t rest, h =>
    Chain.EndsAt.append (.inl h.1.isSealed) (h.1.noHead.mono (by simp)) h.1.noOpener
      (endsAt_render h.2)
  | .set args rest, h => by
    have hm : (setCall args).Readable := h.1.argument.readable (by decide)
    exact Chain.endsAt_source hm
      (show isNamed Orphan.names "set".toList = false by decide) rest.render
  | .chain c body more rest, h => by
    have hm : (ifCall c).Readable := h.1.readable (by decide)
    have := Chain.endsAt_source hm (show isNamed Orphan.names "if".toList = false by decide)
      ((⟨[], body.render⟩ : Hook).source ++ (more.list.flatMap Branch.source ++ rest.render))
    simpa [render, Chain.source, Chain.branches, Branch.source] using this
  | .guard q body rest, h => by
    have hm : (guardCall q).Readable := h.1.readable (by decide)
    have := Chain.endsAt_source hm (show isNamed Orphan.names "visited".toList = false by decide)
      ((⟨[], body.render⟩ : Hook).source ++ rest.render)
    simpa [render] using this

/-- Written branches go on with a chain to its end. -/
theorem tail_list : ∀ {more : Branches}, more.WellFormed Inline → ∀ {t : Text}, Chain.EndsAt t →
    Chain.Tail more.list t
  | .none, _, t, ht => .none ht
  | .otherwise true body, h, t, _ => .bare t ⟨rfl, rfl, readable_hook h⟩
  | .otherwise false body, h, t, _ =>
    .closes (m := elseCall) t
      ⟨rfl, by simp, by decide, argument_nil.readable (by decide), readable_hook h⟩
  | .elseIf c body more, h, t, ht =>
    .continues (m := elseIfCall c)
      ⟨rfl, by simp, (show isNamed elseIfNames "else-if".toList by decide),
        h.1.readable (by decide), readable_hook h.2.1⟩
      (tail_list h.2.2 ht)

/-- The chain at the front of a document is found with all its branches. -/
theorem find?_chain_render {c : Text} {body rest : Doc} {more : Branches}
    (h : (Doc.chain c body more rest).WellFormed Inline Inline) :
    Conditional.find? (Doc.chain c body more rest).render =
      some ([], .chain (chainOf c body more), rest.render) := by
  obtain ⟨hc, hbody, hmore, hrest⟩ := h
  have hm : (ifCall c).Readable := hc.readable (by decide)
  have hn : isNamed ifNames (ifCall c).name := show isNamed ifNames "if".toList by decide
  have hread := Chain.read?_source_append hm hn (readable_hook hbody)
    (tail_list hmore (endsAt_render hrest))
  refine Conditional.find?_chain hm.isName hn ⟨(⟨[], body.render⟩ : Hook).source ++
    (more.list.flatMap Branch.source ++ rest.render), ?_⟩ hread
  simp [render, Chain.source, Chain.branches, Branch.source]

end Doc

/-- A query that is not blank asks something. -/
theorem Query.exists_ofText? {q : Text} (h : Text.isBlankText q = false) :
    ∃ query, Query.ofText? q = some query := by
  obtain ⟨c, u, hu⟩ : ∃ c u, q.dropWhile Text.isBlank = c :: u := by
    cases hu : q.dropWhile Text.isBlank with
    | nil =>
      have hall := List.dropWhile_eq_nil_iff.mp hu
      rw [Text.isBlankText, List.all_eq_true.mpr hall] at h
      exact absurd h (by simp)
    | cons c u => exact ⟨c, u, rfl⟩
  -- A character that is no blank makes a token, and any token makes a query.
  obtain ⟨k, ks, hks⟩ : ∃ k ks, Token.read q = k :: ks := by
    rw [Token.read, Token.readBehind_of_eq_cons hu]
    exact ⟨_, _, rfl⟩
  rw [ofText?, hks, ofTokens?]
  split
  · simp_all
  · exact ⟨_, rfl⟩
  · split <;> exact ⟨_, rfl⟩
  · exact ⟨_, rfl⟩

/-- The guard at the front of a document is found with its hook. -/
theorem Doc.find?_guard_render {q : Text} {body rest : Doc}
    (h : (Doc.guard q body rest).WellFormed Inline Inline) {query : Query}
    (hq : Query.ofText? q = some query) :
    Conditional.find? (Doc.guard q body rest).render =
      some ([], .guard ⟨guardCall q, ⟨[], body.render⟩, query⟩, rest.render) := by
  obtain ⟨harg, -, hbody, -⟩ := h
  have hm : (guardCall q).Readable := harg.readable (by decide)
  have hn : isNamed guardNames (guardCall q).name :=
    show isNamed guardNames "visited".toList by decide
  have hread := Guard.read?_source_append (g := ⟨guardCall q, ⟨[], body.render⟩, query⟩) hm hn hq
    (readable_hook hbody) rest.render
  refine Conditional.find?_guard hm.isName hn ⟨(⟨[], body.render⟩ : Hook).source ++ rest.render, ?_⟩
    hread
  simp [render]

end Hyperfiction

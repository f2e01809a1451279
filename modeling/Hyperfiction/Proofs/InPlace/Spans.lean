import Mathlib.Data.List.Forall2
import Hyperfiction.Proofs.InPlace.Conditionals

/-!
# Spans in a text

The readers of markup answer with spans. A span **fits** a text when it is a stretch of it that is not
empty and whose ends are boundaries (`Span.Fits`); what is taken from inside of a span is cut out between
two positions that lie in it in order (`Span.Holds`). All spans that are read at a position of a text fit
it, whatever the text and the position are, and the arguments of a macro and the bodies of hooks are inside
of theirs (`Position.spansFit`). In a chain that holds of each branch, whose macro stands before its hook,
and the hooks are in order (`Position.IsChain`). The spans of the tokens of a text fit it too
(`Token.fits_of_mem_spans`).
-/

namespace Hyperfiction

/-! ### Spans that fit -/

namespace Span

/-- Is the span a stretch of the text, not empty, from one boundary to another? -/
def Fits (t : Text) (s : Span) : Prop :=
  s.start < s.stop ∧ s.stop ≤ Text.width t ∧ t.IsBoundary s.start ∧ t.IsBoundary s.stop

/-- Is a part cut out of the text inside of the span, between two positions in order? -/
def Holds (t : Text) (s : Span) (start stop : Nat) (part : Text) : Prop :=
  s.start < start ∧ start ≤ stop ∧ stop < s.stop ∧ t.slice start stop = .ok part

/-- Is a body in the brackets at the ends of the span? -/
def IsHook (t : Text) (hook : Span) (body : Text) : Prop :=
  hook.Fits t ∧ hook.Holds t (hook.start + 1) (hook.stop - 1) body

/-- Is the span that of a macro: is its head at the start, and are its arguments between the head and the
bracket at the end? -/
def IsMacro (t : Text) (s : Span) (m : Invocation) : Prop :=
  s.Fits t ∧ ∃ first, Position.head? t s.start = some (m.name, first) ∧
    s.Holds t first (s.stop - 1) m.args

theorem fits_append (s m u : Text) (hm : m ≠ []) :
    Fits (s ++ (m ++ u)) ⟨Text.width s, Text.width s + Text.width m⟩ := by
  have hpos : 0 < Text.width m := Nat.pos_of_ne_zero fun h => hm (Text.width_eq_zero_iff.mp h)
  have hstop : Text.IsBoundary (s ++ (m ++ u)) (Text.width s + Text.width m) := by
    rw [← Text.width_append, ← List.append_assoc]
    exact Text.isBoundary_append (s ++ m) u
  refine ⟨?_, hstop.le_width, Text.isBoundary_append s (m ++ u), hstop⟩
  simp only
  omega

end Span

/-- The hook of a chain or a guard, which may stand behind a gap. -/
theorem Hook.isHook_append (s : Text) (k : Hook) (r : Text) :
    Span.IsHook (s ++ (k.source ++ r))
      ⟨Text.width s + Text.width k.gap, Text.width s + Text.width k.source⟩ k.body := by
  have htext : s ++ (k.source ++ r) = s ++ k.gap ++ (('[' :: k.body ++ [']']) ++ r) := by
    simp only [Hook.source, List.append_assoc, List.cons_append, List.nil_append]
  have hfits := Span.fits_append (s ++ k.gap) ('[' :: k.body ++ [']']) r (List.cons_ne_nil _ _)
  have hwidth : Text.width (s ++ k.gap) + Text.width ('[' :: k.body ++ [']']) =
      Text.width s + Text.width k.source := by
    simp only [Hook.source, Text.width_append, Nat.add_assoc]
  have hbody := InPlace.hookBody_append s k r
  have hsource := k.width_source
  rw [hwidth, ← htext, Text.width_append] at hfits
  rw [InPlace.hookBody, Guarded.minus_eq_ok (by simp only; omega), Guarded.ok_bind] at hbody
  refine ⟨hfits, ?_, ?_, ?_, hbody⟩
  · simp only
    omega
  · simp only
    omega
  · simp only
    omega

/-- A macro that can be read, where it is written. -/
theorem Invocation.isMacro_append (s : Text) {m : Invocation} (hm : m.Readable) (r : Text) :
    Span.IsMacro (s ++ (m.source ++ r)) ⟨Text.width s, Text.width s + Text.width m.source⟩ m := by
  have hargs := Text.slice_append (s ++ ('(' :: m.name ++ [':'])) m.args (')' :: r)
  have htext : s ++ ('(' :: m.name ++ [':']) ++ (m.args ++ ')' :: r) = s ++ (m.source ++ r) := by
    rw [Invocation.source]
    simp only [List.append_assoc, List.cons_append, List.nil_append]
  have hfirst : Text.width (s ++ ('(' :: m.name ++ [':'])) = Text.width s + Text.width m.name + 2 := by
    simp (disch := decide) [Text.utf8Size_of_lt]
    omega
  have hsource := m.width_source
  have hstop : Text.width s + Text.width m.source - 1 =
      Text.width s + Text.width m.name + 2 + Text.width m.args := by omega
  rw [htext, hfirst, ← hstop] at hargs
  refine ⟨Span.fits_append s m.source r m.source_ne_nil, Text.width s + Text.width m.name + 2, ?_, ?_, ?_,
    ?_, hargs⟩
  · rw [Position.head?_append, Invocation.head?_source_append hm.isName]
    rfl
  · simp only
    omega
  · simp only
    omega
  · simp only
    omega

namespace Position

variable {t : Text} {start : Nat}

/-! ### Hooks and macros -/

/-- **The span of a hook fits**, and holds its body. -/
theorem isHook_of_hook? {k : Located Text} (h : hook? t start = some k) : k.span.IsHook t k.item := by
  rcases InPlace.boundary_cases t start with hnone | ⟨s, u, rfl, rfl⟩
  · rw [hook?, hnone] at h
    cases h
  · rw [hook?_append, Option.map_eq_some_iff] at h
    obtain ⟨⟨body, r⟩, hread, rfl⟩ := h
    have hhook := Hook.isHook_append s ⟨[], body⟩ r
    have hu : u = Hook.source ⟨[], body⟩ ++ r := by
      rw [Hook.eq_append_of_body? hread, Hook.source]
      simp only [List.nil_append, List.append_assoc, List.cons_append]
    rw [← hu, Hook.width_source, Text.width_nil, Nat.zero_add, Nat.add_zero, ← Nat.add_assoc] at hhook
    exact hhook

/-- **The span of a macro fits**, and holds its arguments behind its head. -/
theorem isMacro_of_macro? {m : Located Invocation} (h : macro? t start = some m) :
    m.span.IsMacro t m.item := by
  rcases InPlace.boundary_cases t start with hnone | ⟨s, u, rfl, rfl⟩
  · rw [macro?, hnone] at h
    cases h
  · rw [macro?_append, Option.map_eq_some_iff] at h
    obtain ⟨⟨m, r⟩, hread, rfl⟩ := h
    obtain ⟨hm, rfl⟩ := Invocation.read?_eq_some_iff.mp hread
    exact Invocation.isMacro_append s hm r

theorem isMacro_of_findMacro? {names : List Text} {m : Located Invocation}
    (h : findMacro? t start names = some m) : m.span.IsMacro t m.item := by
  obtain ⟨i, -, hmacro⟩ := Option.bind_eq_some_iff.mp h
  exact isMacro_of_macro? hmacro

/-! ### Chains -/

/-- Where a branch is, in a chain that begins at a position: its body is in its hook, and its macro stands
before that. -/
structure IsBranch (t : Text) (first : Nat) (b : Branch) (hook : Span) : Prop where
  body : hook.IsHook t b.hook.body
  call : ∀ m ∈ b.call, ∃ s : Span, s.IsMacro t m ∧ first ≤ s.start ∧ s.stop ≤ hook.start

/-- Where a chain is: its span fits and holds the hooks of its branches in order. -/
structure IsChain (t : Text) (s : Span) (c : Chain) : Prop where
  fits : s.Fits t
  branches : List.Forall₂ (IsBranch t s.start) c.branches (Chain.hookSpans s.start c.branches)
  inside : ∀ hook ∈ Chain.hookSpans s.start c.branches, s.start ≤ hook.start ∧ hook.stop ≤ s.stop
  ordered : (Chain.hookSpans s.start c.branches).Pairwise fun hook later => hook.stop ≤ later.start

private theorem isBranch_append (s : Text) {b : Branch} (hb : ∀ m ∈ b.call, m.Readable) {first : Nat}
    (hfirst : first ≤ Text.width s) (r : Text) :
    IsBranch (s ++ (b.source ++ r)) first b
      ⟨Text.width s + Text.width b.gap + Text.width ((b.call.map Invocation.source).getD []) +
        Text.width b.hook.gap, Text.width s + Text.width b.source⟩ where
  body := by
    have hhook := Hook.isHook_append (s ++ (b.gap ++ (b.call.map Invocation.source).getD [])) b.hook r
    have htext : s ++ (b.gap ++ (b.call.map Invocation.source).getD []) ++ (b.hook.source ++ r) =
        s ++ (b.source ++ r) := by
      simp only [Branch.source, List.append_assoc]
    have hsource : Text.width (s ++ (b.gap ++ (b.call.map Invocation.source).getD [])) +
        Text.width b.hook.source = Text.width s + Text.width b.source := by
      simp only [Branch.source, Text.width_append, Nat.add_assoc]
    rw [htext, hsource] at hhook
    simp only [Text.width_append, ← Nat.add_assoc] at hhook
    exact hhook
  call := by
    intro m hm
    have hmacro := Invocation.isMacro_append (s ++ b.gap) (hb m hm) (b.hook.source ++ r)
    have hcall : (b.call.map Invocation.source).getD [] = m.source := by
      rw [Option.mem_def.mp hm]
      rfl
    have htext : s ++ b.gap ++ (m.source ++ (b.hook.source ++ r)) = s ++ (b.source ++ r) := by
      simp only [Branch.source, hcall, List.append_assoc]
    rw [htext] at hmacro
    refine ⟨_, hmacro, ?_, ?_⟩
    · simp only [Text.width_append]
      omega
    · simp only [hcall, Text.width_append]
      omega

/-- **The branches of a chain stand at their spans.** -/
private theorem forall₂_hookSpans (s : Text) {bs : List Branch}
    (hbs : ∀ b ∈ bs, ∀ m ∈ b.call, m.Readable) {first : Nat} (hfirst : first ≤ Text.width s) (r : Text) :
    List.Forall₂ (IsBranch (s ++ (bs.flatMap Branch.source ++ r)) first) bs
      (Chain.hookSpans (Text.width s) bs) := by
  induction bs generalizing s with
  | nil => exact .nil
  | cons b bs ih =>
    have hbranch := isBranch_append s (hbs b List.mem_cons_self) hfirst (bs.flatMap Branch.source ++ r)
    have hrest := ih (s ++ b.source) (fun c hc => hbs c (List.mem_cons_of_mem b hc))
      (by rw [Text.width_append]; omega)
    have hbehind : s ++ b.source ++ (bs.flatMap Branch.source ++ r) =
        s ++ ((b :: bs).flatMap Branch.source ++ r) := by
      simp only [List.flatMap_cons, List.append_assoc]
    rw [← List.append_assoc, hbehind] at hbranch
    rw [hbehind, Text.width_append] at hrest
    exact .cons hbranch hrest

private theorem mem_hookSpans {start : Nat} {bs : List Branch} {hook : Span}
    (h : hook ∈ Chain.hookSpans start bs) :
    start ≤ hook.start ∧ hook.stop ≤ start + Text.width (bs.flatMap Branch.source) := by
  induction bs generalizing start with
  | nil => cases h
  | cons b bs ih =>
    rw [List.flatMap_cons, Text.width_append]
    rcases List.mem_cons.mp h with rfl | hmem
    · refine ⟨?_, ?_⟩
      · simp only
        omega
      · simp only
        omega
    · have hlater := ih hmem
      omega

private theorem pairwise_hookSpans (start : Nat) (bs : List Branch) :
    (Chain.hookSpans start bs).Pairwise fun hook later => hook.stop ≤ later.start := by
  induction bs generalizing start with
  | nil => exact .nil
  | cons b bs ih => exact .cons (fun later hlater => (mem_hookSpans hlater).1) (ih _)

/-- The macros of the branches of a chain are read as they are. -/
private theorem readable_of_continued {bs : List Branch} {u : Text} (h : Chain.Continued bs u) :
    ∀ b ∈ bs, ∀ m ∈ b.call, m.Readable := by
  induction h with
  | stops _ => exact fun b hb => absurd hb List.not_mem_nil
  | @elseIf gap m k bs u _ hm _ _ _ ih =>
    intro b hb m' hm'
    rcases List.mem_cons.mp hb with rfl | hmem
    · rwa [← Option.some.inj (Option.mem_def.mp hm')]
    · exact ih b hmem m' hm'
  | @closed gap m k u _ hm _ _ =>
    intro b hb m' hm'
    obtain rfl := List.mem_singleton.mp hb
    rwa [← Option.some.inj (Option.mem_def.mp hm')]
  | bare _ _ =>
    intro b hb m' hm'
    obtain rfl := List.mem_singleton.mp hb
    cases hm'

/-- **The span of a chain fits**, and holds the hooks of its branches. -/
theorem isChain_of_chain? {c : Located Chain} (h : chain? t start = some c) :
    IsChain t c.span c.item := by
  rcases InPlace.boundary_cases t start with hnone | ⟨s, u, rfl, rfl⟩
  · rw [chain?, hnone] at h
    cases h
  · rw [chain?_append, Option.map_eq_some_iff] at h
    obtain ⟨⟨c, r⟩, hread, rfl⟩ := h
    obtain ⟨⟨m, hfirst⟩, hlater, rfl⟩ := Chain.read?_eq_some_iff.mp hread
    have hreadable : ∀ b ∈ c.branches, ∀ m ∈ b.call, m.Readable := by
      intro b hb m' hm'
      rcases List.mem_cons.mp hb with rfl | hmem
      · rw [hfirst.call, Option.mem_some_iff] at hm'
        rw [← hm']
        exact hfirst.readable
      · exact readable_of_continued hlater b hmem m' hm'
    exact ⟨Span.fits_append s c.source r c.source_ne_nil,
      forall₂_hookSpans s hreadable (Nat.le_refl _) r, fun hook => mem_hookSpans,
      pairwise_hookSpans _ _⟩

/-! ### Guards -/

/-- Where a guard is: its span fits, its macro is at the start, and its hook ends it. -/
structure IsGuard (t : Text) (s : Span) (g : Guard) : Prop where
  fits : s.Fits t
  call : Span.IsMacro t ⟨s.start, s.start + Text.width g.call.source⟩ g.call
  hook : (g.hookSpan s.start).IsHook t g.hook.body
  ordered : s.start + Text.width g.call.source ≤ (g.hookSpan s.start).start
  stop : (g.hookSpan s.start).stop = s.stop

/-- **The span of a guard fits**, and holds its macro and its hook. -/
theorem isGuard_of_guard? {g : Located Guard} (h : guard? t start = some g) :
    IsGuard t g.span g.item := by
  rcases InPlace.boundary_cases t start with hnone | ⟨s, u, rfl, rfl⟩
  · rw [guard?, hnone] at h
    cases h
  · rw [guard?_append, Option.map_eq_some_iff] at h
    obtain ⟨⟨g, r⟩, hread, rfl⟩ := h
    obtain ⟨⟨hreadable, -⟩, rfl⟩ := Guard.read?_eq_some_iff.mp hread
    have hcall := Invocation.isMacro_append s hreadable (g.hook.source ++ r)
    have hhook := Hook.isHook_append (s ++ g.call.source) g.hook r
    have htext : g.call.source ++ (g.hook.source ++ r) = g.source ++ r := by
      rw [Guard.source, List.append_assoc]
    rw [htext] at hcall
    rw [List.append_assoc, htext] at hhook
    simp only [Text.width_append] at hhook
    refine ⟨Span.fits_append s g.source r g.source_ne_nil, hcall, ?_, ?_, rfl⟩
    · simp only [Guard.hookSpan, Guard.source, Text.width_append, ← Nat.add_assoc]
      exact hhook
    · exact Nat.le_add_right _ _

/-- All that is read at a position of a text is where its span says. -/
structure SpansFit (t : Text) (start : Nat) : Prop where
  hook : ∀ k ∈ hook? t start, k.span.IsHook t k.item
  call : ∀ m ∈ macro? t start, m.span.IsMacro t m.item
  found : ∀ names, ∀ m ∈ findMacro? t start names, m.span.IsMacro t m.item
  chain : ∀ c ∈ chain? t start, IsChain t c.span c.item
  guard : ∀ g ∈ guard? t start, IsGuard t g.span g.item

/-- **All spans at a position fit.** -/
theorem spansFit (t : Text) (start : Nat) : SpansFit t start where
  hook := fun _ => isHook_of_hook?
  call := fun _ => isMacro_of_macro?
  found := fun _ _ => isMacro_of_findMacro?
  chain := fun _ => isChain_of_chain?
  guard := fun _ => isGuard_of_guard?

end Position

/-! ### Tokens -/

namespace Token

theorem source_ne_nil_of_mem_read {touches : Bool} {t : Text} {k : Token} (h : k ∈ readBehind touches t) :
    k.source ≠ [] := by
  induction hn : t.length using Nat.strongRecOn generalizing touches t with
  | ind n ih =>
    subst hn
    cases hrest : t.dropWhile Text.isBlank with
    | nil =>
      rw [readBehind_of_eq_nil hrest] at h
      cases h
    | cons c u =>
      rw [readBehind_of_eq_cons hrest] at h
      have hlt := length_readOne_rest (touches && (t.takeWhile Text.isBlank).isEmpty) c u
      have hsplit := congrArg List.length (List.takeWhile_append_dropWhile (p := Text.isBlank) (l := t))
      rw [hrest, List.length_append, List.length_cons] at hsplit
      rcases List.mem_cons.mp h with rfl | hmem
      · exact readOne_source_ne_nil _ c u
      · exact ih _ (by omega) hmem rfl

private theorem fits_spans (s : Text) (ks : List Token) (b : Text) (hne : ∀ k ∈ ks, k.source ≠ [])
    {span : Span} (h : span ∈ spans (Text.width s) ks) : span.Fits (s ++ (written ks ++ b)) := by
  induction ks generalizing s with
  | nil => cases h
  | cons k ks ih =>
    have htoken := Span.fits_append (s ++ k.gap) k.source (written ks ++ b) (hne k List.mem_cons_self)
    have hlater := ih (s ++ k.gap ++ k.source) fun l hl => hne l (List.mem_cons_of_mem k hl)
    have htext : s ++ k.gap ++ (k.source ++ (written ks ++ b)) = s ++ (written (k :: ks) ++ b) := by
      simp only [written, List.append_assoc]
    rw [htext, Text.width_append] at htoken
    rw [List.append_assoc _ k.source, htext] at hlater
    simp only [Text.width_append] at hlater
    rcases List.mem_cons.mp h with rfl | hmem
    · exact htoken
    · exact hlater hmem

/-- **The spans of tokens fit** the text that these are read from. -/
theorem fits_of_mem_spans {t : Text} {span : Span} (h : span ∈ spans 0 (read t)) : span.Fits t := by
  obtain ⟨b, ht, -⟩ := exists_written_readBehind false t
  have hfits := fits_spans [] (read t) b (fun k hk => source_ne_nil_of_mem_read hk) h
  rwa [List.nil_append, ← show t = written (read t) ++ b from ht] at hfits

end Token

end Hyperfiction

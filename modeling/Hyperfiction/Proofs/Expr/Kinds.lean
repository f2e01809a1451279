import Hyperfiction.Proofs.Expr.Grammar
import Hyperfiction.Proofs.Token.Pieces

/-!
# Expressions and the kinds of their tokens

What expression tokens make is decided by their kinds; neither their gaps nor their texts matter.
`Symbol.Derives s kinds e` says that tokens of these kinds derive `e`, with one rule for each production that
is needed to write expressions down. A text that is read as tokens of such kinds writes the expression
(`ofText?_of_reads`).
-/

namespace Hyperfiction

/-- The sign of an operation. -/
def Operation.sign : Operation → Char
  | add => '+'
  | sub => '-'
  | mul => '*'
  | div => '/'
  | mod => '%'

/-- The sign of an operation is one, and no operand ends with it. -/
theorem Operation.sign_mem (op : Operation) :
    op.sign ∈ Token.signs ∧ (Token.kindOfSign op.sign).endsOperand = false := by
  cases op <;> decide

/-- An operation on two texts, as it is written. -/
def Operation.written (op : Operation) (left : Text) (before behind : Gap) (right : Text) : Text :=
  left ++ (before.1 ++ op.sign :: (behind.1 ++ right))

/-- An operation is read as its operands with the sign between them. -/
theorem Token.Reads.operation {left right : Text} {kinds kinds' : List Kind} (hleft : Reads left kinds)
    (hright : Reads right kinds') (hne : kinds' ≠ []) (op : Operation) (before behind : Gap) :
    Reads (op.written left before behind right) (kinds ++ kindOfSign op.sign :: kinds') :=
  hleft.append (.gap before (List.cons_ne_nil _ _) (.sign op.sign_mem.1 op.sign_mem.2 (.gap behind hne hright)))
    (ends_gap before (ends_sign op.sign_mem.1 _))

namespace Expr

/-- Tokens of these kinds derive the expression. -/
def Symbol.Derives (s : Symbol) (kinds : List Token.Kind) (e : Expr) : Prop :=
  ∀ ks : List Token, ks.map Token.kind = kinds → ∃ d : Derivation s, d.tokens = ks ∧ d.tree = e

/-- Tokens of these kinds are the arguments of a call. -/
def Argue (kinds : List Token.Kind) (es : List Expr) : Prop :=
  ∀ ks : List Token, ks.map Token.kind = kinds → ∃ as : Arguments, as.tokens = ks ∧ as.trees = es

/-- **A text is parsed** to what the kinds of its tokens derive. -/
theorem ofText?_of_reads {t : Text} {kinds : List Token.Kind} {e : Expr} (ht : Token.Reads t kinds)
    (he : (Symbol.row .sum).Derives kinds e) : ofText? t = some e := by
  obtain ⟨ks, hread, hkinds⟩ := ht [] Token.ends_nil
  obtain ⟨d, rfl, rfl⟩ := he ks hkinds
  have hnil : Token.read [] = [] := Token.readBehind_nil false
  rw [List.append_nil, hnil, List.append_nil] at hread
  rw [ofText?, hread, d.ofTokens?_tokens]

namespace Symbol.Derives

variable {kinds kinds' : List Token.Kind} {k : Token.Kind} {e e' : Expr}

theorem leaf (hk : leaf? k = some e) : primary.Derives [k] e := by
  intro ks hks
  obtain ⟨token, rfl, rfl⟩ := List.map_eq_singleton_iff.mp hks
  exact ⟨.leaf token e hk, rfl, rfl⟩

theorem single {l : Level} (h : l.operand.Derives kinds e) : (row l).Derives kinds e := by
  intro ks hks
  obtain ⟨d, rfl, rfl⟩ := h ks hks
  exact ⟨.row d .none, List.append_nil _, rfl⟩

theorem unsigned (h : primary.Derives kinds e) : signed.Derives kinds e := by
  intro ks hks
  obtain ⟨d, rfl, rfl⟩ := (show (row .possessed).Derives kinds e from single h) ks hks
  exact ⟨.unsigned d, rfl, rfl⟩

theorem minus (h : signed.Derives kinds e) : signed.Derives (.minus :: kinds) (negated e) := by
  intro ks hks
  obtain ⟨sign, rest, rfl, hsign, hrest⟩ := List.map_eq_cons_iff.mp hks
  obtain ⟨d, rfl, rfl⟩ := h rest hrest
  exact ⟨.minus ⟨sign, hsign⟩ d, rfl, rfl⟩

/-- An operand without operators is a sum. -/
theorem alone (h : signed.Derives kinds e) : (row .sum).Derives kinds e :=
  single (l := .sum) (single (l := .product) h)

/-- Two operands with what joins them. -/
theorem joined {l : Level} {join : Expr → Expr → Expr} (h : l.operand.Derives kinds e)
    (hk : l.join? k = some join) (h' : l.operand.Derives kinds' e') :
    (row l).Derives (kinds ++ k :: kinds') (join e e') := by
  intro ks hks
  obtain ⟨us, vs, rfl, hus, hvs⟩ := List.map_eq_append_iff.mp hks
  obtain ⟨token, ws, rfl, rfl, hws⟩ := List.map_eq_cons_iff.mp hvs
  obtain ⟨d, rfl, rfl⟩ := h us hus
  obtain ⟨d', rfl, rfl⟩ := h' ws hws
  refine ⟨.row d (.more token join hk d' .none), ?_, rfl⟩
  simp only [Derivation.tokens, Tail.tokens, List.append_nil]

/-- **Two operands of an operation.** -/
theorem binary (op : Operation) (h : signed.Derives kinds e) (h' : signed.Derives kinds' e') :
    (row .sum).Derives (kinds ++ Token.kindOfSign op.sign :: kinds') (.binary op e e') := by
  cases op with
  | add | sub => exact joined (l := .sum) (single (l := .product) h) rfl (single (l := .product) h')
  | mul | div | mod => exact single (l := .sum) (joined (l := .product) h rfl h')

/-- **A call**, of a name that does not ask about visited passages. -/
theorem call {name : Text} {es : List Expr} (hname : ¬ AsksVisits name) (h : Argue kinds es) :
    primary.Derives (.leftParen :: .word name :: .colon :: (kinds ++ [.rightParen]))
      (.call (name.map Char.toLower) es) := by
  intro ks hks
  obtain ⟨left, us, rfl, hleft, hus⟩ := List.map_eq_cons_iff.mp hks
  obtain ⟨word, vs, rfl, hword, hvs⟩ := List.map_eq_cons_iff.mp hus
  obtain ⟨colon, ws, rfl, hcolon, hws⟩ := List.map_eq_cons_iff.mp hvs
  obtain ⟨args, last, rfl, hargs, hlast⟩ := List.map_eq_append_iff.mp hws
  obtain ⟨right, rfl, hright⟩ := List.map_eq_singleton_iff.mp hlast
  obtain ⟨as, rfl, rfl⟩ := h args hargs
  exact ⟨.enclosed ⟨left, hleft⟩ (.call name ⟨word, hword⟩ ⟨colon, hcolon⟩ hname as) ⟨right, hright⟩, rfl, rfl⟩

end Symbol.Derives

namespace Argue

variable {kinds kinds' : List Token.Kind} {e : Expr} {es : List Expr}

theorem none : Argue [] [] := by
  intro ks hks
  obtain rfl := List.map_eq_nil_iff.mp hks
  exact ⟨.none, rfl, rfl⟩

theorem last (h : (Symbol.row .sum).Derives kinds e) : Argue kinds [e] := by
  intro ks hks
  obtain ⟨d, rfl, rfl⟩ := h ks hks
  exact ⟨.last d, rfl, rfl⟩

theorem next (h : (Symbol.row .sum).Derives kinds e) (hrest : Argue kinds' es) :
    Argue (kinds ++ .comma :: kinds') (e :: es) := by
  intro ks hks
  obtain ⟨us, vs, rfl, hus, hvs⟩ := List.map_eq_append_iff.mp hks
  obtain ⟨comma, ws, rfl, hcomma, hws⟩ := List.map_eq_cons_iff.mp hvs
  obtain ⟨d, rfl, rfl⟩ := h us hus
  obtain ⟨as, rfl, rfl⟩ := hrest ws hws
  exact ⟨.next d ⟨comma, hcomma⟩ as, rfl, rfl⟩

/-- Expressions between commas are arguments. -/
theorem intercalate {α : Type} {kindsOf : α → List Token.Kind} {exprOf : α → Expr} {items : List α}
    (h : ∀ a ∈ items, (Symbol.row .sum).Derives (kindsOf a) (exprOf a)) :
    Argue ([.comma].intercalate (items.map kindsOf)) (items.map exprOf) := by
  induction items with
  | nil => exact none
  | cons a items ih =>
    have ha := h a List.mem_cons_self
    cases items with
    | nil => simpa using last ha
    | cons b items =>
      have hrest := ih fun c hc => h c (List.mem_cons_of_mem a hc)
      rw [List.map_cons, List.map_cons, List.intercalate_cons_cons, List.append_assoc]
      exact next ha hrest

end Argue

end Expr

end Hyperfiction

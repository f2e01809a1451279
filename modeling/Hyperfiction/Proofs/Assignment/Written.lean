import Hyperfiction.Eval.Expr
import Hyperfiction.Proofs.Assignment.Single
import Hyperfiction.Proofs.Expr.Kinds

/-!
# Assignments as they are written

A right side is written in one of nine forms (`Assignment.Written`): a decimal with or without a minus, `true`
or `false`, a quotation, a variable, an operation on a number, a list or a map with items behind it, or a list.
Blanks may stand between its parts. Each is read back as what it says (`Assignment.ofText_written`), whatever
the names, digits and quoted texts are.

Operands and items are atoms (`Atom`), and the text of an atom is read as tokens that derive its expression.
So a right side is read as the expression that it is written for (`Assignment.Written.ofText?_text`), and that
has the form of the right side. Only a quotation has none: it is assigned as the text that its token covers,
without the quotes.
-/

namespace Hyperfiction

/-! ### Operands and items -/

/-- An expression without operators or parentheses. -/
inductive Atom where
  | number (n : PlainDecimal)
  | minus (n : PlainDecimal)
  | boolean (holds : Bool)
  | quoted (q : Quotation)
  | word (w : Word)
  | var (m : Variable)
  | it

namespace Atom

/-- The atom as it is written. -/
def text : Atom → Text
  | number n => n.text
  | minus n => '-' :: n.text
  | boolean true => "true".toList
  | boolean false => "false".toList
  | quoted q => q.text
  | word w => w.1
  | var m => '$' :: m.1
  | it => "it".toList

/-- The expression that the atom stands for. -/
def expr : Atom → Expr
  | number n => .number n.value
  | minus n => .number (-n.value)
  | boolean holds => .boolean holds
  | quoted q => .quoted q.inside
  | word w => .word w.1
  | var m => .var m.1
  | it => .it

/-- The kinds of the tokens of the atom. -/
def kinds : Atom → List Token.Kind
  | number n => [.number n.value]
  | minus n => [.minus, .number n.value]
  | boolean true => [.yes]
  | boolean false => [.no]
  | quoted q => [.quoted q.inside]
  | word w => [.word w.1]
  | var m => [.var m.1]
  | it => [.it]

theorem kinds_ne_nil : ∀ a : Atom, a.kinds ≠ []
  | number _ | minus _ | boolean true | boolean false | quoted _ | word _ | var _ | it => List.cons_ne_nil _ _

/-- The lexer reads what is written for an atom. -/
theorem reads : ∀ a : Atom, Token.Reads a.text a.kinds
  | number n => Token.reads_plainDecimal n
  | minus n => .sign (by decide) rfl (Token.reads_plainDecimal n)
  | boolean true => Token.reads_keyword (t := "true".toList) (by decide)
  | boolean false => Token.reads_keyword (t := "false".toList) (by decide)
  | quoted q => Token.reads_quotation q
  | word w => Token.reads_word w
  | var m => Token.reads_variable m
  | it => Token.reads_keyword (t := "it".toList) (by decide)

/-- The tokens of an atom derive its expression. -/
theorem derives : ∀ a : Atom, Expr.Symbol.signed.Derives a.kinds a.expr
  | minus n => .minus (.unsigned (.leaf (e := .number n.value) rfl))
  | number _ | boolean true | boolean false | quoted _ | word _ | var _ | it => .unsigned (.leaf rfl)

end Atom

namespace Assignment

/-- What an assignment reads its old value from: a variable, or `it`. -/
inductive Origin where
  | var (m : Variable)
  | it

namespace Origin

/-- The atom that it is written as. -/
def atom : Origin → Atom
  | var m => .var m
  | it => .it

/-- What is read. -/
def source : Origin → Source
  | var m => .var m.1
  | it => .it

end Origin

/-- What an operation is with: a decimal without a minus, or a variable. -/
inductive Operand where
  | number (n : PlainDecimal)
  | var (m : Variable)

/-- The atom that it is written as. -/
def Operand.atom : Operand → Atom
  | number n => .number n
  | var m => .var m

/-- The items between the parentheses of a call, each with the blanks on its two sides, and the blanks before
the parenthesis that closes it. -/
structure Items where
  places : List (Gap × Atom × Gap)
  last : Gap

namespace Items

/-- The items as they are written, with commas between them. -/
def text (items : Items) : Text :=
  [','].intercalate (items.places.map fun (before, item, behind) => before.1 ++ (item.text ++ behind.1)) ++
    items.last.1

/-- The expressions of the items, in order. -/
def exprs (items : Items) : List Expr := items.places.map fun (_, item, _) => item.expr

/-- The kinds of the tokens of the items, with commas between them. -/
def kinds (items : Items) : List Token.Kind :=
  [.comma].intercalate (items.places.map fun (_, item, _) => item.kinds)

/-- Written items are the arguments of a call. -/
theorem argue (items : Items) : Expr.Argue items.kinds items.exprs :=
  .intercalate fun (_, item, _) _ => item.derives.alone

/-- **Items are read** up to the parenthesis behind them. -/
theorem reads (items : Items) : Token.Reads (items.text ++ [')']) (items.kinds ++ [.rightParen]) := by
  obtain ⟨places, last⟩ := items
  have hclose : Token.Reads (last.1 ++ [')']) [.rightParen] := .gap last (List.cons_ne_nil _ _) .rightParen
  have hends : Token.Ends (last.1 ++ [')']) := Token.ends_gap last (Token.ends_sign (by decide) [])
  simp only [text, kinds, List.append_assoc]
  induction places with
  | nil => exact hclose
  | cons place places ih =>
    obtain ⟨before, item, behind⟩ := place
    -- An item ends before what stands behind it: the parenthesis, or a comma and the other items.
    have hitem {t : Text} {ks : List Token.Kind} (ht : Token.Reads t ks) (hne : ks ≠ [])
        (hends : Token.Ends t) :
        Token.Reads (before.1 ++ (item.text ++ (behind.1 ++ t))) (item.kinds ++ ks) :=
      .gap before (List.append_ne_nil_of_left_ne_nil item.kinds_ne_nil ks)
        (item.reads.append (.gap behind hne ht) (Token.ends_gap behind hends))
    cases places with
    | nil =>
      have hone := hitem hclose (List.cons_ne_nil _ _) hends
      simpa using hone
    | cons next places =>
      have hmore := hitem (.sign (c := ',') (by decide) rfl ih) (List.cons_ne_nil _ _)
        (Token.ends_sign (by decide) _)
      simp only [List.map_cons, List.intercalate_cons_cons, List.append_assoc, List.singleton_append] at hmore ⊢
      exact hmore

end Items

/-- The call of a word with these items, as it is written. -/
def called (name : Word) (items : Items) : Text := '(' :: (name.1 ++ ':' :: (items.text ++ [')']))

/-- The lexer reads what is written for a call. -/
theorem reads_called (name : Word) (items : Items) :
    Token.Reads (called name items)
      (.leftParen :: .word name.1 :: .colon :: (items.kinds ++ [.rightParen])) :=
  .call name items.reads

/-! ### Right sides -/

/-- The name of lists. -/
def listName : Word := ⟨"a".toList, by decide +kernel⟩

/-- The name of maps. -/
def mapName : Word := ⟨"dm".toList, by decide +kernel⟩

/-- A right side in the form in which it is written. -/
inductive Written where
  | number (n : PlainDecimal)
  | minus (n : PlainDecimal)
  | boolean (holds : Bool)
  /-- A text without quotes in it. -/
  | quoted (q : Quotation) (plain : ∀ c ∈ q.inside, c ≠ '"' ∧ c ≠ '\'')
  | copy (m : Variable)
  | arithmetic (origin : Origin) (before : Gap) (op : Operation) (behind : Gap) (operand : Operand)
  | append (origin : Origin) (before behind : Gap) (items : Items)
  | merge (origin : Origin) (before behind : Gap) (items : Items)
  | list (items : Items)

namespace Written

/-- The right side as it is written. -/
def text : Written → Text
  | number n => (Atom.number n).text
  | minus n => (Atom.minus n).text
  | boolean holds => (Atom.boolean holds).text
  | quoted q _ => (Atom.quoted q).text
  | copy m => (Atom.var m).text
  | arithmetic origin before op behind operand =>
    op.written origin.atom.text before behind operand.atom.text
  | append origin before behind items =>
    Operation.add.written origin.atom.text before behind (called listName items)
  | merge origin before behind items =>
    Operation.add.written origin.atom.text before behind (called mapName items)
  | list items => called listName items

/-- What is assigned. -/
def rightSide : Written → RightSide
  | number n => .number n.value
  | minus n => .number (-n.value)
  | boolean holds => .boolean holds
  | quoted q _ => .text q.inside
  | copy m => .copy m.1
  | arithmetic origin _ op _ operand => .arithmetic origin.source op operand.atom.expr
  | append origin _ _ items => .append origin.source items.exprs
  | merge origin _ _ items => .merge origin.source items.exprs
  | list items => .list items.exprs

/-- The expression that is written. -/
def expr : Written → Expr
  | number n => (Atom.number n).expr
  | minus n => (Atom.minus n).expr
  | boolean holds => (Atom.boolean holds).expr
  | quoted q _ => (Atom.quoted q).expr
  | copy m => (Atom.var m).expr
  | arithmetic origin _ op _ operand => .binary op origin.atom.expr operand.atom.expr
  | append origin _ _ items => .binary .add origin.atom.expr (.call listName.1 items.exprs)
  | merge origin _ _ items => .binary .add origin.atom.expr (.call mapName.1 items.exprs)
  | list items => .call listName.1 items.exprs

/-- A written call that asks about no visits derives a call. -/
private theorem derives_called (name : Word) (hvisits : ¬ Expr.AsksVisits name.1)
    (hlower : name.1.map Char.toLower = name.1) (items : Items) :
    Expr.Symbol.signed.Derives (.leftParen :: .word name.1 :: .colon :: (items.kinds ++ [.rightParen]))
      (.call name.1 items.exprs) := by
  have hcall := Expr.Symbol.Derives.call hvisits items.argue
  rw [hlower] at hcall
  exact .unsigned hcall

private theorem derives_list (items : Items) :
    Expr.Symbol.signed.Derives (.leftParen :: .word listName.1 :: .colon :: (items.kinds ++ [.rightParen]))
      (.call listName.1 items.exprs) :=
  derives_called listName (show "a".toList ∉ Expr.queryNames by decide) rfl items

private theorem derives_map (items : Items) :
    Expr.Symbol.signed.Derives (.leftParen :: .word mapName.1 :: .colon :: (items.kinds ++ [.rightParen]))
      (.call mapName.1 items.exprs) :=
  derives_called mapName (show "dm".toList ∉ Expr.queryNames by decide) rfl items

/-- **A right side is read** as the expression that is written. -/
theorem ofText?_text (w : Written) : Expr.ofText? w.text = some w.expr := by
  have hatom (a : Atom) : Expr.ofText? a.text = some a.expr :=
    Expr.ofText?_of_reads a.reads a.derives.alone
  cases w with
  | number n => exact hatom (.number n)
  | minus n => exact hatom (.minus n)
  | boolean holds => exact hatom (.boolean holds)
  | quoted q plain => exact hatom (.quoted q)
  | copy m => exact hatom (.var m)
  | arithmetic origin before op behind operand =>
    exact Expr.ofText?_of_reads
      (origin.atom.reads.operation operand.atom.reads operand.atom.kinds_ne_nil op before behind)
      (.binary op origin.atom.derives operand.atom.derives)
  | append origin before behind items =>
    exact Expr.ofText?_of_reads
      (origin.atom.reads.operation (reads_called listName items) (List.cons_ne_nil _ _) .add before behind)
      (.binary .add origin.atom.derives (derives_list items))
  | merge origin before behind items =>
    exact Expr.ofText?_of_reads
      (origin.atom.reads.operation (reads_called mapName items) (List.cons_ne_nil _ _) .add before behind)
      (.binary .add origin.atom.derives (derives_map items))
  | list items => exact Expr.ofText?_of_reads (reads_called listName items) (derives_list items).alone

/-- Every form but a quotation is that of a right side. -/
theorem ofExpr?_expr (w : Written) :
    RightSide.ofExpr? w.expr = some w.rightSide ∨ ∃ (q : Quotation) (plain : _), w = quoted q plain := by
  cases w with
  | quoted q plain => exact .inr ⟨q, plain, rfl⟩
  | arithmetic origin before op behind operand => cases origin <;> cases operand <;> exact .inl rfl
  | append origin before behind items | merge origin before behind items => cases origin <;> exact .inl rfl
  | _ => exact .inl rfl

end Written

/-- The quotes around a text without quotes are all that goes when it is read. -/
theorem unquoted_trim_text (q : Quotation) (plain : ∀ c ∈ q.inside, c ≠ '"' ∧ c ≠ '\'') :
    RightSide.unquoted (Text.trim q.text) = q.inside := by
  obtain ⟨quote, inside, hquote, hclosed⟩ := q
  have hblank : Text.isBlank quote = false := by rcases hquote with rfl | rfl <;> decide
  have htrim : Text.trim (quote :: inside ++ [quote]) = quote :: inside ++ [quote] := by
    have hstart : Text.trimStart (quote :: inside ++ [quote]) = quote :: inside ++ [quote] :=
      List.dropWhile_cons_of_neg (by rw [hblank]; exact Bool.false_ne_true)
    have hend : Text.EndsPlain (quote :: inside ++ [quote]) := by
      intro c hc
      rw [List.getLast?_concat] at hc
      obtain rfl : quote = c := Option.some.inj hc
      exact hblank
    rw [Text.trim, hstart, hend.trimEnd_eq]
  have hkept : inside.filter (fun c => c != '"' && c != '\'') = inside := by
    refine List.filter_eq_self.mpr fun c hc => ?_
    obtain ⟨hdouble, hsingle⟩ := plain c hc
    simp [hdouble, hsingle]
  have hgone : [quote].filter (fun c => c != '"' && c != '\'') = [] := by
    rcases hquote with rfl | rfl <;> rfl
  change RightSide.unquoted (Text.trim (quote :: inside ++ [quote])) = inside
  rw [htrim, RightSide.unquoted, List.cons_append, ← List.singleton_append, List.filter_append,
    List.filter_append, hkept, hgone, List.nil_append, List.append_nil]

/-- A quotation without quotes in it is assigned as the text between its quotes. -/
theorem ofTokens_quotation (q : Quotation) (plain : ∀ c ∈ q.inside, c ≠ '"' ∧ c ≠ '\'') :
    RightSide.ofTokens (Token.read q.text) = .text q.inside := by
  have hread : Token.read q.text = [⟨[], .quoted q.inside, q.text⟩] := by
    have hfront := Token.readBehind_quotation q []
    rwa [List.append_nil, Token.readBehind_nil] at hfront
  have hcovered : Token.covered (Token.read q.text) = q.text := by
    rw [hread]
    exact List.append_nil _
  have hexpr : Expr.ofTokens? (Token.read q.text) = some (.quoted q.inside) :=
    Written.ofText?_text (.quoted q plain)
  rw [RightSide.ofTokens, hexpr, hcovered, unquoted_trim_text q plain]
  rfl

/-- **An assignment is read as it is written**: a target and a right side in one of the forms make one
assignment, of what is written to the target. -/
theorem ofText_written (x : Variable) (w : Written) :
    ofText ('$' :: x.1 ++ " to ".toList ++ w.text) = [⟨x.1, w.rightSide⟩] := by
  rcases w.ofExpr?_expr with hform | ⟨q, plain, rfl⟩
  · exact ofText_single x.2 w.ofText?_text hform
  · have hquotation : RightSide.ofTokens (Token.read (Written.quoted q plain).text) = .text q.inside :=
      ofTokens_quotation q plain
    rw [ofText_target x.2 (Written.ofText?_text _), hquotation]
    rfl

end Assignment

end Hyperfiction

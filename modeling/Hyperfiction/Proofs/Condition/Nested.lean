import Hyperfiction.Proofs.Condition.Asking
import Hyperfiction.Proofs.InPlace.Conditions

/-!
# Conditions written with parentheses

A text whose quotations are closed, whose parentheses have partners and which begins no call is the same
condition between parentheses (`Condition.IsPart`). Its tokens are then the tokens between those of the two
parentheses, whatever stands around these, so every rule that looks for a connective outside parentheses
passes over it. With `not`, `and` and `or` between such groups any tree of conditions can be written: a
`Condition.Nesting` is written down with parentheses (`Condition.Nesting.written`) and read as its own tree
(`Condition.ofText_nested`).
-/

namespace Hyperfiction

namespace Token

theorem enclosable_append {us vs : List Token} (hu : Enclosable us) (hv : Enclosable vs) :
    Enclosable (us ++ vs) :=
  ⟨List.forall_mem_append.mpr ⟨hu.1, hv.1⟩, hu.2.append_iff.mpr hv.2⟩

/-- A token that is neither a quotation nor a parenthesis. -/
theorem enclosable_singleton {k : Token} (hk : k.kind.isPlain) : Enclosable [k] := by
  refine ⟨fun k' hk' => ?_, balanced_singleton ?_⟩
  · obtain rfl := List.mem_singleton.mp hk'
    refine isClosed_iff.mpr fun t ht => ?_
    rw [ht] at hk
    cases hk
  · cases hkind : k.kind <;> first | rfl | (rw [hkind] at hk; cases hk)

theorem isClosed_of_paren {k : Token} (hk : k.kind = .leftParen ∨ k.kind = .rightParen) : k.IsClosed := by
  refine isClosed_iff.mpr fun t ht => ?_
  rcases hk with hk | hk <;> cases hk.symm.trans ht

/-- What may be enclosed may be so in parentheses. -/
theorem enclosable_group {first last : Token} {inside : List Token} (hfirst : first.kind = .leftParen)
    (hlast : last.kind = .rightParen) (h : Enclosable inside) :
    Enclosable (first :: (inside ++ [last])) := by
  refine ⟨List.forall_mem_cons.mpr ⟨isClosed_of_paren (.inl hfirst), ?_⟩,
    balanced_group hfirst hlast h.2⟩
  exact List.forall_mem_append.mpr
    ⟨h.1, List.forall_mem_singleton.mpr (isClosed_of_paren (.inr hlast))⟩

end Token

namespace Condition

/-- The text is the same condition between parentheses as without them. -/
structure IsPart (p : Text) : Prop where
  enclosable : Token.Enclosable (Token.read p)
  opensNoCall : ¬ InPlace.OpensCall (Token.read p)

/-- The text in a pair of parentheses. -/
def enclosed (p : Text) : Text := '(' :: (p ++ [')'])

/-- The text that negates a text in parentheses. -/
def negated (p : Text) : Text := "not".toList ++ ' ' :: enclosed p

/-! ### Groups of tokens -/

/-- A pair of parentheses that opens no call is left out. -/
theorem ofTokens_group {first last : Token} {inside : List Token} (hfirst : first.kind = .leftParen)
    (hlast : last.kind = .rightParen) (hbalanced : Token.Balanced inside)
    (hcall : ¬ InPlace.OpensCall inside) : ofTokens (first :: (inside ++ [last])) = ofTokens inside := by
  have hclosing : Token.closing? 0 (inside ++ [last]) = some (inside, []) :=
    Token.closing?_eq_some_iff.mpr ⟨last, hlast, rfl, hbalanced⟩
  rw [ofTokens_of_ne (by rw [hfirst]; exact Token.Kind.noConfusion),
    (InPlace.unwrapped?_eq_some_iff hfirst).mpr ⟨hcall, hclosing⟩]

/-- A word that makes one condition of several. -/
inductive Connective where
  | and
  | or

namespace Connective

def word : Connective → Text
  | and => "and".toList
  | or => "or".toList

def kind : Connective → Token.Kind
  | and => .and
  | or => .or

/-- The separator of the parts that the connective joins. -/
def separates : Connective → Token.Kind → Bool
  | and => isAnd
  | or => isOr

/-- The condition of the parts. -/
def join : Connective → List Condition → Condition
  | and => all
  | or => any

/-- Parts in parentheses with the connective between each two. -/
def row (c : Connective) (ps : List Text) : Text :=
  (' ' :: (c.word ++ [' '])).intercalate (ps.map enclosed)

end Connective

/-- The tokens are groups of the given tokens with a connective between each two. -/
inductive IsRow (c : Connective) : List (List Token) → List Token → Prop
  | last {first last : Token} {inside : List Token} (hfirst : first.kind = .leftParen)
      (hlast : last.kind = .rightParen) : IsRow c [inside] (first :: (inside ++ [last]))
  | cons {first last between : Token} {inside rest : List Token} {more : List (List Token)}
      (hfirst : first.kind = .leftParen) (hlast : last.kind = .rightParen)
      (hbetween : between.kind = c.kind) (h : IsRow c more rest) :
      IsRow c (inside :: more) (first :: (inside ++ last :: between :: rest))

namespace IsRow

variable {c : Connective} {parts : List (List Token)} {ks : List Token}

theorem exists_cons (h : IsRow c parts ks) : ∃ first rest, ks = first :: rest ∧ first.kind = .leftParen := by
  cases h with
  | last hfirst _ => exact ⟨_, _, rfl, hfirst⟩
  | cons hfirst _ _ _ => exact ⟨_, _, rfl, hfirst⟩

theorem opensNoCall (h : IsRow c parts ks) : ¬ InPlace.OpensCall ks := by
  obtain ⟨first, rest, rfl, hfirst⟩ := h.exists_cons
  rintro ⟨name, word, colon, more, heq, hword, -⟩
  obtain ⟨rfl, -⟩ := List.cons.inj heq
  cases hfirst.symm.trans hword

/-- A longer gap in front makes no difference. -/
theorem indent (h : IsRow c parts ks) (b : Char) : IsRow c parts (Token.indent b ks) := by
  cases h with
  | last hfirst hlast => exact .last hfirst hlast
  | cons hfirst hlast hbetween h => exact .cons hfirst hlast hbetween h

/-- A row of parts that may be enclosed may be so itself. -/
theorem enclosable (h : IsRow c parts ks) (hparts : ∀ inside ∈ parts, Token.Enclosable inside) :
    Token.Enclosable ks := by
  induction h with
  | last hfirst hlast => exact Token.enclosable_group hfirst hlast (hparts _ List.mem_cons_self)
  | @cons first last between inside rest more hfirst hlast hbetween _ ih =>
    obtain ⟨hinside, hmore⟩ := List.forall_mem_cons.mp hparts
    have hplain : between.kind.isPlain := by rw [hbetween]; cases c <;> rfl
    -- A row is a group, a connective and the rest of the row, and each of them is enclosable.
    have hgroup := Token.enclosable_group hfirst hlast hinside
    have hrest := Token.enclosable_append (Token.enclosable_singleton hplain) (ih hmore)
    have hall := Token.enclosable_append hgroup hrest
    rwa [List.cons_append, List.append_assoc] at hall

/-! ### The condition of a row -/

section Parts

variable (h : IsRow c parts ks) (hparts : ∀ inside ∈ parts, Token.Balanced inside)
include h hparts

/-- The tokens are taken apart at the connectives between the groups. -/
theorem splitTop (hcall : ∀ inside ∈ parts, ¬ InPlace.OpensCall inside) :
    ((Token.splitTop c.separates 0 ks).1 :: (Token.splitTop c.separates 0 ks).2).map ofTokens =
      parts.map ofTokens := by
  have hparen : c.separates .leftParen = false := by cases c <;> rfl
  have hkind : c.separates c.kind = true := by cases c <;> rfl
  induction h with
  | last hfirst hlast =>
    have hinside := hparts _ List.mem_cons_self
    rw [Token.splitTop_group hfirst hinside hlast hparen, Token.splitTop]
    exact congrArg ([·]) (ofTokens_group hfirst hlast hinside (hcall _ List.mem_cons_self))
  | @cons first last between inside rest more hfirst hlast hbetween _ ih =>
    obtain ⟨hinside, hmore⟩ := List.forall_mem_cons.mp hparts
    obtain ⟨hcallInside, hcallMore⟩ := List.forall_mem_cons.mp hcall
    have hbehind : Token.splitTop c.separates 0 (between :: rest) =
        ([], (Token.splitTop c.separates 0 rest).1 :: (Token.splitTop c.separates 0 rest).2) := by
      rw [Token.splitTop, if_pos ⟨rfl, by rw [hbetween, hkind]⟩]
    rw [Token.splitTop_group hfirst hinside hlast hparen, hbehind, List.map_cons, ih hmore hcallMore,
      List.map_cons, ofTokens_group hfirst hlast hinside hcallInside]

/-- A separator that is not the connective finds nothing. -/
theorem splitTop_of_ne {isSeparator : Token.Kind → Bool} (hparen : isSeparator .leftParen = false)
    (hkind : isSeparator c.kind = false) : Token.splitTop isSeparator 0 ks = (ks, []) := by
  induction h with
  | last hfirst hlast =>
    rw [Token.splitTop_group hfirst (hparts _ List.mem_cons_self) hlast hparen, Token.splitTop]
  | @cons first last between inside rest more hfirst hlast hbetween _ ih =>
    obtain ⟨hinside, hmore⟩ := List.forall_mem_cons.mp hparts
    have hnesting : (0 : Int) + between.kind.nesting = 0 := by rw [hbetween]; cases c <;> rfl
    have hbehind : Token.splitTop isSeparator 0 (between :: rest) = (between :: rest, []) := by
      rw [Token.splitTop, if_neg (by simp [hbetween, hkind]), hnesting, ih hmore]
    rw [Token.splitTop_group hfirst hinside hlast hparen, hbehind]

/-- The first parenthesis of two groups or more is closed before their end. -/
theorem unwrapped?_eq_none (htwo : 2 ≤ parts.length) : unwrapped? ks = none := by
  cases h with
  | last => exact absurd htwo (Nat.not_succ_le_self 1)
  | @cons first last between inside rest more hfirst hlast hbetween _ =>
    rw [Option.eq_none_iff_forall_ne_some]
    intro around haround
    obtain ⟨-, hclosing⟩ := (InPlace.unwrapped?_eq_some_iff hfirst).mp haround
    have hinside : Token.closing? 0 (inside ++ last :: between :: rest) =
        some (inside, between :: rest) :=
      Token.closing?_eq_some_iff.mpr ⟨last, hlast, rfl, hparts _ List.mem_cons_self⟩
    rw [hinside] at hclosing
    cases (Prod.mk.inj (Option.some.inj hclosing)).2

/-- **A row of groups** is the condition that the connective makes of the groups. -/
theorem ofTokens_eq (hcall : ∀ inside ∈ parts, ¬ InPlace.OpensCall inside) (htwo : 2 ≤ parts.length) :
    ofTokens ks = c.join (parts.map ofTokens) := by
  have hnone := h.unwrapped?_eq_none hparts htwo
  have hsplit := h.splitTop hparts hcall
  have hand (hkind : isAnd c.kind = false) : Token.splitTop isAnd 0 ks = (ks, []) :=
    h.splitTop_of_ne hparts rfl hkind
  obtain ⟨p, q, more, hfound⟩ : ∃ p q more, Token.splitTop c.separates 0 ks = (p, q :: more) := by
    have hlength := congrArg List.length hsplit
    cases hfound : Token.splitTop c.separates 0 ks with
    | mk p found =>
      cases found with
      | nil =>
        rw [hfound, List.length_map, List.length_map, List.length_singleton] at hlength
        omega
      | cons q more => exact ⟨p, q, more, rfl⟩
  rw [hfound] at hsplit
  obtain ⟨first, rest, rfl, hfirst⟩ := h.exists_cons
  rw [ofTokens_of_ne (by rw [hfirst]; exact Token.Kind.noConfusion), hnone, ← hsplit]
  cases c with
  | and =>
    rw [show Token.splitTop isAnd 0 (first :: rest) = (p, q :: more) from hfound]
    rfl
  | or =>
    -- `and` is looked for first, and there is none outside the groups.
    rw [hand rfl, show Token.splitTop isOr 0 (first :: rest) = (p, q :: more) from hfound]
    rfl

end Parts

end IsRow

/-! ### Reading a row -/

/-- **What is enclosed is read by itself**, between the tokens of its parentheses. -/
private theorem readBehind_enclosed {p : Text} (h : ∀ k ∈ Token.read p, k.IsClosed) (touches : Bool)
    (u : Text) : ∃ gap, Token.readBehind touches (enclosed p ++ u) =
      ⟨[], .leftParen, ['(']⟩ ::
        (Token.read p ++ ⟨gap, .rightParen, [')']⟩ :: Token.readBehind true u) := by
  obtain ⟨gap, hbehind⟩ := Token.readBehind_followed Token.isSeparator_paren h u
  refine ⟨gap, ?_⟩
  rw [enclosed, List.cons_append, List.append_assoc,
    Token.readBehind_separator (Token.isSeparator_of_mem (by simp))]
  exact congrArg (⟨[], .leftParen, ['(']⟩ :: ·) hbehind

/-- A connective is read as such, and indents what follows it. -/
private theorem readBehind_connective (c : Connective) (touches : Bool) (u : Text) :
    Token.readBehind touches (' ' :: (c.word ++ [' ']) ++ u) =
      ⟨[' '], c.kind, c.word⟩ :: Token.indent ' ' (Token.read u) := by
  have hword : Token.read (c.word ++ ' ' :: u) =
      ⟨[], Token.kindOfWord c.word, c.word⟩ :: Token.indent ' ' (Token.read u) :=
    Token.readBehind_keyword (by cases c <;> simp [Connective.word]) false u
  rw [List.cons_append, List.append_assoc, List.singleton_append, Token.readBehind_blank (by decide),
    hword]
  cases c <;> rfl

theorem Connective.row_singleton (c : Connective) (p : Text) : c.row [p] = enclosed p :=
  List.intercalate_singleton

theorem Connective.row_cons_cons (c : Connective) (p q : Text) (ps : List Text) :
    c.row (p :: q :: ps) = enclosed p ++ (' ' :: (c.word ++ [' ']) ++ c.row (q :: ps)) := by
  rw [row, List.map_cons, List.map_cons, List.intercalate_cons_cons, List.append_assoc]
  rfl

/-- The parts of a written row are read one by one. -/
theorem Connective.isRow_readBehind (c : Connective) {p : Text} {ps : List Text}
    (h : ∀ q ∈ p :: ps, ∀ k ∈ Token.read q, k.IsClosed) (touches : Bool) :
    IsRow c ((p :: ps).map Token.read) (Token.readBehind touches (c.row (p :: ps))) := by
  induction ps generalizing p touches with
  | nil =>
    obtain ⟨gap, hread⟩ := readBehind_enclosed (h p List.mem_cons_self) touches []
    rw [List.append_nil, Token.readBehind_nil] at hread
    rw [row_singleton, hread]
    exact .last rfl rfl
  | cons q ps ih =>
    obtain ⟨hp, hps⟩ := List.forall_mem_cons.mp h
    obtain ⟨gap, hread⟩ := readBehind_enclosed hp touches
      (' ' :: (c.word ++ [' ']) ++ c.row (q :: ps))
    rw [row_cons_cons, hread, readBehind_connective]
    exact .cons rfl rfl rfl ((ih hps false).indent ' ')

theorem read_not (u : Text) :
    Token.read ("not".toList ++ ' ' :: u) =
      ⟨[], .not, "not".toList⟩ :: Token.indent ' ' (Token.read u) :=
  Token.readBehind_keyword (by simp) false u

/-! ### Conditions of texts -/

theorem isRow_enclosed {p : Text} (h : IsPart p) :
    IsRow .and [Token.read p] (Token.read (enclosed p)) := by
  rw [← Connective.row_singleton .and]
  exact Connective.and.isRow_readBehind (List.forall_mem_singleton.mpr h.enclosable.1) false

theorem ofTokens_enclosed {p : Text} (h : IsPart p) {ks : List Token}
    (hks : IsRow .and [Token.read p] ks) : ofTokens ks = ofText p := by
  cases hks with
  | last hfirst hlast => exact ofTokens_group hfirst hlast h.enclosable.2 h.opensNoCall
  | cons _ _ _ h => cases h

/-- **Parentheses around a part** make no difference. -/
theorem ofText_enclosed {p : Text} (h : IsPart p) : ofText (enclosed p) = ofText p :=
  ofTokens_enclosed h (isRow_enclosed h)

/-- **A negated part** is the negation of its condition. -/
theorem ofText_negated {p : Text} (h : IsPart p) : ofText (negated p) = .not (ofText p) := by
  rw [ofText, negated, read_not, ofTokens_not rfl, ofTokens_enclosed h ((isRow_enclosed h).indent ' ')]

section Rows

variable {ps : List Text} (h : ∀ p ∈ ps, IsPart p) (htwo : 2 ≤ ps.length)
include h htwo

/-- A written row is read as a row of its parts. -/
theorem isRow_read_row (c : Connective) : IsRow c (ps.map Token.read) (Token.read (c.row ps)) := by
  cases ps with
  | nil => cases htwo
  | cons p ps => exact c.isRow_readBehind (fun q hq => (h q hq).enclosable.1) false

/-- **Parts that a connective joins** make the condition of their conditions. -/
theorem ofText_row (c : Connective) : ofText (c.row ps) = c.join (ps.map ofText) := by
  have hrow := isRow_read_row h htwo c
  have hbalanced : ∀ inside ∈ ps.map Token.read, Token.Balanced inside :=
    List.forall_mem_map.mpr fun p hp => (h p hp).enclosable.2
  have hcall : ∀ inside ∈ ps.map Token.read, ¬ InPlace.OpensCall inside :=
    List.forall_mem_map.mpr fun p hp => (h p hp).opensNoCall
  rw [ofText, hrow.ofTokens_eq hbalanced hcall (by rwa [List.length_map]), List.map_map]
  rfl

end Rows

/-! ### Trees of conditions -/

theorem isPart_of_isRow {c : Connective} {parts : List (List Token)} {p : Text}
    (h : IsRow c parts (Token.read p)) (hparts : ∀ inside ∈ parts, Token.Enclosable inside) :
    IsPart p :=
  ⟨h.enclosable hparts, h.opensNoCall⟩

theorem isPart_enclosed {p : Text} (h : IsPart p) : IsPart (enclosed p) :=
  isPart_of_isRow (isRow_enclosed h) (List.forall_mem_singleton.mpr h.enclosable)

theorem isPart_negated {p : Text} (h : IsPart p) : IsPart (negated p) := by
  have hrow := (isRow_enclosed h).indent ' '
  have hall := Token.enclosable_append (@Token.enclosable_singleton ⟨[], .not, "not".toList⟩ rfl)
    (hrow.enclosable (List.forall_mem_singleton.mpr h.enclosable))
  constructor
  · rw [negated, read_not]
    exact hall
  · rw [negated, read_not]
    rintro ⟨name, word, colon, more, heq, hword, -⟩
    obtain ⟨rfl, -⟩ := List.cons.inj heq
    cases hword

theorem isPart_row {ps : List Text} (h : ∀ p ∈ ps, IsPart p) (htwo : 2 ≤ ps.length) (c : Connective) :
    IsPart (c.row ps) :=
  isPart_of_isRow (isRow_read_row h htwo c) (List.forall_mem_map.mpr fun p hp => (h p hp).enclosable)

mutual

/-- A tree of parts, with its groups, negations and connectives. -/
inductive Nesting where
  | part (p : Text) (h : IsPart p)
  | group (n : Nesting)
  | not (n : Nesting)
  | join (c : Connective) (ns : Nestings)

/-- Two or more trees. -/
inductive Nestings where
  | two (n m : Nesting)
  | more (n : Nesting) (ns : Nestings)

end

mutual

/-- The text of a tree: what is below a connective stands in parentheses. -/
def Nesting.written : Nesting → Text
  | .part p _ => p
  | .group n => enclosed n.written
  | .not n => negated n.written
  | .join c ns => c.row ns.written

def Nestings.written : Nestings → List Text
  | .two n m => [n.written, m.written]
  | .more n ns => n.written :: ns.written

end

mutual

/-- The condition of a tree, with the conditions of its parts as they are read alone. -/
def Nesting.condition : Nesting → Condition
  | .part p _ => ofText p
  | .group n => n.condition
  | .not n => .not n.condition
  | .join c ns => c.join ns.conditions

def Nestings.conditions : Nestings → List Condition
  | .two n m => [n.condition, m.condition]
  | .more n ns => n.condition :: ns.conditions

end

theorem Nestings.two_le_length : ∀ ns : Nestings, 2 ≤ ns.written.length
  | .two _ _ => Nat.le_refl 2
  | .more _ ns => Nat.le_succ_of_le ns.two_le_length

mutual

/-- A tree is written as a part again, and read as its condition. -/
theorem Nesting.read_written : ∀ n : Nesting, IsPart n.written ∧ ofText n.written = n.condition
  | .part p h => ⟨h, rfl⟩
  | .group n => by
    obtain ⟨hpart, hread⟩ := n.read_written
    exact ⟨isPart_enclosed hpart, (ofText_enclosed hpart).trans hread⟩
  | .not n => by
    obtain ⟨hpart, hread⟩ := n.read_written
    exact ⟨isPart_negated hpart, (ofText_negated hpart).trans (congrArg Condition.not hread)⟩
  | .join c ns => by
    obtain ⟨hparts, hread⟩ := ns.read_written
    have htwo := ns.two_le_length
    exact ⟨isPart_row hparts htwo c, (ofText_row hparts htwo c).trans (congrArg c.join hread)⟩

/-- Written conditions are parts, and are read as the conditions they were written for. -/
theorem Nestings.read_written :
    ∀ ns : Nestings, (∀ p ∈ ns.written, IsPart p) ∧ ns.written.map ofText = ns.conditions
  | .two n m => by
    obtain ⟨hn, hreadn⟩ := n.read_written
    obtain ⟨hm, hreadm⟩ := m.read_written
    refine ⟨List.forall_mem_cons.mpr ⟨hn, List.forall_mem_singleton.mpr hm⟩, ?_⟩
    rw [Nestings.written, Nestings.conditions, List.map_cons, List.map_singleton, hreadn, hreadm]
  | .more n ns => by
    obtain ⟨hn, hreadn⟩ := n.read_written
    obtain ⟨hns, hreadns⟩ := ns.read_written
    refine ⟨List.forall_mem_cons.mpr ⟨hn, hns⟩, ?_⟩
    rw [Nestings.written, Nestings.conditions, List.map_cons, hreadn, hreadns]

end

/-- **Conditions in parentheses compose.** Parentheses around a part make no difference, a `not` before
them negates it, and `and` and `or` between two or more parts in parentheses make the condition of all of
them and of any of them. So what is written with parentheses throughout is read as its own tree. -/
theorem ofText_nested :
    (∀ p, IsPart p → ofText (enclosed p) = ofText p ∧
      ofText ("not ".toList ++ enclosed p) = .not (ofText p)) ∧
    (∀ ps : List Text, 2 ≤ ps.length → (∀ p ∈ ps, IsPart p) →
      ofText (" and ".toList.intercalate (ps.map enclosed)) = .all (ps.map ofText) ∧
      ofText (" or ".toList.intercalate (ps.map enclosed)) = .any (ps.map ofText)) ∧
    ∀ n : Nesting, ofText n.written = n.condition := by
  refine ⟨fun p hp => ⟨ofText_enclosed hp, ofText_negated hp⟩, fun ps htwo hps => ⟨?_, ?_⟩,
    fun n => n.read_written.2⟩
  · exact ofText_row hps htwo .and
  · exact ofText_row hps htwo .or

/-- A choice in parentheses, negated, and beside a quotation with a parenthesis and a connective in it. -/
theorem ofText_nested_choice :
    (ofText "($a is 1 or $b)".toList = ofText "$a is 1 or $b".toList ∧
      ofText "not ($a is 1 or $b)".toList = .not (ofText "$a is 1 or $b".toList)) ∧
    ofText "($a is 1 or $b) and ('x) and' is $c)".toList =
      .all [ofText "$a is 1 or $b".toList, ofText "'x) and' is $c".toList] ∧
    ofText "($a is 1 or $b) or ('x) and' is $c)".toList =
      .any [ofText "$a is 1 or $b".toList, ofText "'x) and' is $c".toList] := by
  have hfirst : IsPart "$a is 1 or $b".toList := ⟨by decide +kernel, by decide +kernel⟩
  have hsecond : IsPart "'x) and' is $c".toList := ⟨by decide +kernel, by decide +kernel⟩
  have hboth : ∀ p ∈ ["$a is 1 or $b".toList, "'x) and' is $c".toList], IsPart p :=
    List.forall_mem_cons.mpr ⟨hfirst, List.forall_mem_singleton.mpr hsecond⟩
  have htwo : 2 ≤ ["$a is 1 or $b".toList, "'x) and' is $c".toList].length := Nat.le_refl 2
  exact ⟨ofText_nested.1 _ hfirst, ofText_nested.2.1 _ htwo hboth⟩

end Condition

end Hyperfiction

import Hyperfiction.Expr.Basic
import Hyperfiction.Token.Group
import Hyperfiction.Token.Lexer

/-!
# Reading expressions

```
sum       := product (("+" | "-") product)*
product   := signed (("*" | "/" | "%") signed)*
signed    := "-" signed | possessed
possessed := primary ("'s" primary)*
primary   := number | quotation | true | false | it | $name | word
           | "(" word ":" arguments ")" | "(" sum ")"
```

The operators of one line bind to the left, and a minus before a number makes a negative number. A
parenthesis before a word and a colon always opens a call; the calls `visited` and `history` ask a
query of the tokens up to the matching parenthesis, all others have arguments between commas, with a
comma allowed behind the last. What stands in parentheses is read by itself, so the readers are a tower
over the depth of parentheses (`Expr.sumAt`), which no expression exceeds that its tokens can hold.
-/

namespace Hyperfiction.Expr

/-- A way to take an expression off the front of tokens. -/
abbrev Reader := List Token → Option (Expr × List Token)

/-- Reads all of the tokens as one expression. -/
def whole (read : Reader) (ks : List Token) : Option Expr :=
  match read ks with
  | some (e, []) => some e
  | _ => none

/-- Goes on reading operands behind `left`, as long as a token joins them. An operand has at least one
token, so what is left gets shorter. -/
def joinMore (operand : Reader) (join? : Token.Kind → Option (Expr → Expr → Expr)) (left : Expr)
    (ks : List Token) : Option (Expr × List Token) :=
  match ks with
  | [] => some (left, [])
  | k :: ks =>
    match join? k.kind with
    | none => some (left, k :: ks)
    | some join =>
      match operand ks with
      | none => none
      | some (right, rest) =>
        if rest.length ≤ ks.length then joinMore operand join? (join left right) rest else none
termination_by ks.length
decreasing_by simp only [List.length_cons]; omega

/-- Reads operands that tokens join to the left. -/
def joined (operand : Reader) (join? : Token.Kind → Option (Expr → Expr → Expr)) : Reader :=
  fun ks =>
    match operand ks with
    | none => none
    | some (e, rest) => joinMore operand join? e rest

/-- The sums that a token makes. -/
def sum? : Token.Kind → Option (Expr → Expr → Expr)
  | .plus => some (binary .add)
  | .minus => some (binary .sub)
  | _ => none

/-- The products that a token makes. -/
def product? : Token.Kind → Option (Expr → Expr → Expr)
  | .star => some (binary .mul)
  | .slash => some (binary .div)
  | .percent => some (binary .mod)
  | _ => none

/-- The possessive that a token makes. -/
def possessed? : Token.Kind → Option (Expr → Expr → Expr)
  | .possessive => some item
  | _ => none

/-- An expression behind a minus. -/
def negated : Expr → Expr
  | .number x => .number (-x)
  | e => .neg e

/-- Reads an operand behind any number of minus signs. -/
def signed (operand : Reader) : Reader
  | [] => operand []
  | k :: ks =>
    match k.kind with
    | .minus => (signed operand ks).map fun p => (negated p.1, p.2)
    | _ => operand (k :: ks)

/-- Reads the arguments of a call, with nothing left. -/
def arguments (read : Reader) (ks : List Token) : Option (List Expr) :=
  match ks with
  | [] => some []
  | k :: ks =>
    match read (k :: ks) with
    | some (e, []) => some [e]
    | some (e, c :: rest) =>
      match c.kind with
      | .comma =>
        if rest.length ≤ ks.length then (arguments read rest).map (e :: ·) else none
      | _ => none
    | none => none
termination_by ks.length
decreasing_by simp only [List.length_cons]; omega

/-- The calls that ask about visited passages. -/
def queryNames : List Text := ["visited".toList, "history".toList]

/-- A call with the tokens of its arguments. -/
def call? (read : Reader) (name : Text) (args : List Token) : Option Expr :=
  let name := name.map Char.toLower
  if queryNames.contains name then (Query.ofTokens? args).map visited
  else (arguments read args).map (call name)

/-- Reads what stands in parentheses: a call, or one expression. -/
def group? (read : Reader) (ks : List Token) : Option Expr :=
  match ks with
  | ⟨_, .word name, _⟩ :: ⟨_, .colon, _⟩ :: args => call? read name args
  | _ => whole read ks

/-- Reads an operand; `read` reads what stands in its parentheses. -/
def primary (read : Reader) : Reader
  | [] => none
  | k :: ks =>
    match k.kind with
    | .number x => some (.number x, ks)
    | .quoted t => some (.quoted t, ks)
    | .yes => some (.boolean true, ks)
    | .no => some (.boolean false, ks)
    | .it => some (.it, ks)
    | .var name => some (.var name, ks)
    | .word t => some (.word t, ks)
    | .leftParen =>
      match Token.closing? 0 ks with
      | none => none
      | some (inside, rest) => (group? read inside).map (·, rest)
    | _ => none

/-- Reads a sum whose parentheses are nested less deep than a bound. -/
def sumAt : Nat → Reader
  | 0 => fun _ => none
  | depth + 1 =>
    joined (joined (signed (joined (primary (sumAt depth)) possessed?)) product?) sum?

/-- The expression that is made of all the tokens. -/
def ofTokens? (ks : List Token) : Option Expr := whole (sumAt ks.length) ks

/-- The expression that a text writes. -/
def ofText? (t : Text) : Option Expr := ofTokens? (Token.read t)

end Hyperfiction.Expr

namespace Hyperfiction.Query

/-- The query that the argument of a guard asks. -/
def ofText? (t : Text) : Option Query := ofTokens? (Token.read t)

end Hyperfiction.Query

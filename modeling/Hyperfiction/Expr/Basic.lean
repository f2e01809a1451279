import Hyperfiction.Number.Operation
import Hyperfiction.Text.Letter
import Hyperfiction.Token.Basic

/-!
# Expressions

The operands of conditions, prints and assignments, and the queries about visited passages.
-/

namespace Hyperfiction

/-- What a guard asks about the passages visited. -/
inductive Query where
  /-- Was the passage of this name visited? -/
  | passage (name : Text)
  /-- Was a passage visited with a tag that includes this text? -/
  | tag (part : Text)
deriving DecidableEq

/-- An expression. -/
inductive Expr where
  | number (x : Float)
  | quoted (t : Text)
  | boolean (holds : Bool)
  /-- A bare word. -/
  | word (t : Text)
  | var (name : Text)
  /-- The variable that is being assigned. -/
  | it
  | neg (e : Expr)
  | binary (op : Operation) (left right : Expr)
  /-- A macro in an expression; its name is in lower case. -/
  | call (name : Text) (args : List Expr)
  | visited (query : Query)
  /-- An item of a list, an entry of a map or a property of either. -/
  | item (object index : Expr)

namespace Query

/-- The query that tokens ask: a quotation alone is a name, `where its tags contains` asks for a tag,
and everything else is a name as written. -/
def ofTokens? (ks : List Token) : Option Query :=
  match ks.map Token.kind with
  | [] => none
  | [.quoted name] => some (.passage name)
  | [.word a, .word b, .word c, .contains, .quoted part] =>
    if a = "where".toList ∧ b = "its".toList ∧ c = "tags".toList then some (.tag part)
    else some (.passage (Text.trim (Token.covered ks)))
  | _ => some (.passage (Text.trim (Token.covered ks)))

end Query

end Hyperfiction

import Hyperfiction.Text.Basic

/-!
# Tokens of macro arguments

A token is a stretch of an argument together with the blanks before it. Operators of several words
(`is not`, `does not contain`) are one token. The text that a run of tokens covers (`Token.covered`)
begins at the first token and ends at the last one, with the blanks in between as written.
-/

namespace Hyperfiction

/-- What a token is. -/
inductive Token.Kind where
  | number (x : Float)
  /-- A quoted text, without its quotes. -/
  | quoted (t : Text)
  /-- A name behind `$`, without it. -/
  | var (name : Text)
  | word (t : Text)
  | yes
  | no
  | it
  | to
  | is
  | isNot
  | not
  | contains
  | doesNotContain
  | and
  | or
  | plus
  | minus
  | star
  | slash
  | percent
  | less
  | greater
  | atMost
  | atLeast
  | leftParen
  | rightParen
  | comma
  | colon
  /-- The `'s` of a possessive. -/
  | possessive
  /-- A character that begins nothing. -/
  | unknown (c : Char)

/-- A token: the blanks before it, what it is, and its text. -/
structure Token where
  gap : Text
  kind : Token.Kind
  source : Text

namespace Token

namespace Kind

/-- Does the token compare its two sides? -/
def isComparison : Kind → Bool
  | is | isNot | contains | doesNotContain | less | greater | atMost | atLeast => true
  | _ => false

/-- Can `'s` right behind the token be a possessive? -/
def endsOperand : Kind → Bool
  | var _ | word _ | rightParen | quoted _ | it => true
  | _ => false

end Kind

/-- The text that a run of tokens covers, each with the gap before it. -/
def written : List Token → Text
  | [] => []
  | k :: ks => k.gap ++ k.source ++ written ks

/-- The text that a run of tokens covers, from the start of the first to the end of the last. -/
def covered : List Token → Text
  | [] => []
  | k :: ks => k.source ++ written ks

/-- The spans of tokens in the text that they were read from. -/
def spans (start : Nat) : List Token → List Span
  | [] => []
  | k :: ks =>
    let first := start + Text.width k.gap
    ⟨first, first + Text.width k.source⟩ :: spans (first + Text.width k.source) ks

@[simp] theorem written_append (ks ls : List Token) :
    written (ks ++ ls) = written ks ++ written ls := by
  induction ks with
  | nil => rfl
  | cons k ks ih => simp [written, ih]

end Token

end Hyperfiction

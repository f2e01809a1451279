import Hyperfiction.Text.Case
import Hyperfiction.Value

/-!
# Commands of a preview

A line of a preview is a command: a word, in any case, and perhaps more behind a blank. A line that is a
number alone follows the choice of that number.
-/

namespace Hyperfiction

/-- What the author asks for. -/
inductive Command where
  | quit
  | help
  /-- Enter the passage of a name. -/
  | go (name : Text)
  | vars
  /-- Bind a variable. -/
  | assign (name : Text) (value : Value)
  | history
  | restart
  /-- Follow a choice, counted from 1. -/
  | choose (number : Nat)
  /-- A command without what belongs to it, and how it is used. -/
  | incomplete (usage : Text)
  /-- A word that is no command. -/
  | unknown (word : Text)

namespace Command

/-- What stands before and behind the first blank of a text. -/
def splitBlank? (t : Text) : Option (Text × Text) :=
  match t.dropWhile fun c => !Text.isBlank c with
  | [] => none
  | _ :: rest => some (t.takeWhile fun c => !Text.isBlank c, rest)

/-- The number of a choice: digits, perhaps with a plus before them, below `2^64`. -/
def choiceNumber? (t : Text) : Option Nat :=
  let digits := match t with
    | '+' :: rest => rest
    | _ => t
  if digits.isEmpty || !digits.all Char.isDigit then none
  else
    let n := Text.digitsValue digits
    if n < UInt64.size then some n else none

/-- The text without the double quotes at its ends. -/
def unquoted (t : Text) : Text :=
  let isQuote (c : Char) : Bool := c == '"'
  ((t.dropWhile isQuote).reverse.dropWhile isQuote).reverse

/-- The value that an author writes for a variable: a truth value, a number or else a text. -/
def value (t : Text) : Value :=
  if t = "true".toList then .boolean true
  else if t = "false".toList then .boolean false
  else match Number.ofText? t with
    | some x => .number x
    | none => .text (unquoted t)

/-- The command of a word and what stands behind it. -/
def ofWord (line word rest : Text) : Command :=
  let isOneOf (names : List String) : Bool := names.any fun name => word == name.toList
  if isOneOf ["quit", "exit", "q"] then quit
  else if isOneOf ["help", "h", "?"] then help
  else if isOneOf ["go"] then
    if rest.isEmpty then incomplete "go <passage>".toList else go rest
  else if isOneOf ["vars"] then vars
  else if isOneOf ["set"] then
    match splitBlank? rest with
    | none => incomplete "set <var> <value>".toList
    | some (name, t) => assign (name.dropWhile (· == '$')) (value (Text.trim t))
  else if isOneOf ["history"] then history
  else if isOneOf ["restart"] then restart
  else match choiceNumber? line with
    | some n => choose n
    | none => unknown word

/-- The command of a line, unless the line is blank. -/
def ofLine? (t : Text) : Option Command :=
  let line := Text.trim t
  if line.isEmpty then none
  else match splitBlank? line with
    | none => some (ofWord line (Text.toLower line) [])
    | some (word, rest) => some (ofWord line (Text.toLower word) (Text.trim rest))

end Command

end Hyperfiction

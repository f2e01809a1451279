import Hyperfiction.Passage

/-!
# Writing JSON

Values and passages as JSON text without blanks. Quotes, backslashes and control characters are escaped.
-/

namespace Hyperfiction.Json

/-- The lower hexadecimal digit of a number below 16. -/
def hexDigit (n : Nat) : Char := if n < 10 then Char.ofNat ('0'.toNat + n) else Char.ofNat ('a'.toNat + n - 10)

/-- A character as it stands between quotes. -/
def escaped (c : Char) : Text :=
  if c = '"' then ['\\', '"']
  else if c = '\\' then ['\\', '\\']
  else if c = '\x08' then ['\\', 'b']
  else if c = '\x0c' then ['\\', 'f']
  else if c = '\n' then ['\\', 'n']
  else if c = '\r' then ['\\', 'r']
  else if c = '\t' then ['\\', 't']
  else if c < ' ' then ['\\', 'u', '0', '0', hexDigit (c.toNat / 16), hexDigit (c.toNat % 16)]
  else [c]

/-- A text in quotes. -/
def ofText (t : Text) : Text := '"' :: t.flatMap escaped ++ ['"']

/-- Parts with commas between them. -/
def joined (parts : List Text) : Text := [','].intercalate parts

/-- A list of written values. -/
def ofList (items : List Text) : Text := '[' :: joined items ++ [']']

/-- A written value behind its name. -/
def field (name value : Text) : Text := ofText name ++ ':' :: value

/-- An object of fields. -/
def ofFields (fields : List Text) : Text := '\x7b' :: joined fields ++ ['\x7d']

mutual

/-- A value. -/
def ofValue : Value → Text
  | .boolean b => if b then "true".toList else "false".toList
  | .number x => Number.toJsonText x
  | .text t => ofText t
  | .list items => ofList (ofItems items)
  | .map entries => ofFields (ofEntries entries)

/-- The items of a list. -/
def ofItems : List Value → List Text
  | [] => []
  | v :: vs => ofValue v :: ofItems vs

/-- The entries of a map. -/
def ofEntries : List (Text × Value) → List Text
  | [] => []
  | (k, v) :: es => field k (ofValue v) :: ofEntries es

end

/-- A choice. -/
def ofChoice (c : Choice) : Text :=
  ofFields [field "text".toList (ofText c.text), field "target".toList (ofText c.target)]

/-- A passage. -/
def ofPassage (p : Passage) : Text :=
  ofFields [field "name".toList (ofText p.name), field "content".toList (ofText p.content),
    field "choices".toList (ofList (p.choices.map ofChoice)),
    field "tags".toList (ofList (p.tags.map ofText)),
    field "state_changes".toList (ofFields (ofEntries p.changes.entries))]

end Hyperfiction.Json

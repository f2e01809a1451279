import Hyperfiction.CharSet.Age
import Hyperfiction.CharSet.Break
import Hyperfiction.CharSet.Script

/-!
# Sets by their names

The sets that a text can name: the classes of ASCII, and by loose names the categories, scripts and
properties of Unicode, and the values of properties that have several.
-/

namespace Hyperfiction.CharSet

/-! ### ASCII -/

/-- The letters of ASCII. -/
def asciiLetters : CharSet := (between 'A' 'Z').union (between 'a' 'z')

/-- The digits of ASCII. -/
def asciiDigits : CharSet := between '0' '9'

/-- The blanks of ASCII. -/
def asciiBlank : CharSet := ofTable "9..D 20"

/-- The letters, digits and the underscore of ASCII. -/
def asciiWord : CharSet := unions [asciiLetters, asciiDigits, one '_']

/-- The characters of ASCII. -/
def ascii : CharSet := ofTable "0..7F"

/-- The class of ASCII that a name stands for. -/
def ofClassName? (name : String) : Option CharSet :=
  match name with
  | "alnum" => some (asciiLetters.union asciiDigits)
  | "alpha" => some asciiLetters
  | "ascii" => some ascii
  | "blank" => some (ofTable "9 20")
  | "cntrl" => some (ofTable "0..1F 7F")
  | "digit" => some asciiDigits
  | "graph" => some (between '!' '~')
  | "lower" => some (between 'a' 'z')
  | "print" => some (between ' ' '~')
  | "punct" => some ((between '!' '~').diff (asciiLetters.union asciiDigits))
  | "space" => some asciiBlank
  | "upper" => some (between 'A' 'Z')
  | "word" => some asciiWord
  | "xdigit" => some (unions [asciiDigits, between 'A' 'F', between 'a' 'f'])
  | _ => none

/-! ### Words -/

/-- The characters of words: letters, marks, decimal digits, connectors and joiners. -/
def word : CharSet := unions [alphabetic, marks, decimalNumbers, connectors, joinControls]

/-! ### Loose names -/

/-- A name in lower case without blanks, `-`, `_` and what is not ASCII, and without `is` before it. Only
`isc` is kept whole: it does not stand for `c`. -/
def looseName (name : Text) : String :=
  let isPlain (c : Char) : Bool := c.toNat < 128 && c != ' ' && c != '-' && c != '_'
  let plain (t : Text) : Text := (t.filter isPlain).map Char.toLower
  match name with
  | i :: s :: rest =>
    if i.toLower = 'i' ∧ s.toLower = 's' then
      String.ofList (if plain rest = ['c'] then "isc".toList else plain rest)
    else String.ofList (plain name)
  | _ => String.ofList (plain name)

/-- The long names of categories, and the abbreviations for them. -/
def categoryNames : List (String × String) := [
  ("letter", "l"), ("casedletter", "lc"), ("uppercaseletter", "lu"), ("lowercaseletter", "ll"),
  ("titlecaseletter", "lt"), ("modifierletter", "lm"), ("otherletter", "lo"),
  ("mark", "m"), ("combiningmark", "m"), ("nonspacingmark", "mn"), ("spacingmark", "mc"),
  ("enclosingmark", "me"), ("number", "n"), ("decimalnumber", "nd"), ("digit", "nd"),
  ("letternumber", "nl"), ("othernumber", "no"), ("punctuation", "p"), ("punct", "p"),
  ("connectorpunctuation", "pc"), ("dashpunctuation", "pd"), ("openpunctuation", "ps"),
  ("closepunctuation", "pe"), ("initialpunctuation", "pi"), ("finalpunctuation", "pf"),
  ("otherpunctuation", "po"), ("symbol", "s"), ("mathsymbol", "sm"), ("currencysymbol", "sc"),
  ("modifiersymbol", "sk"), ("othersymbol", "so"), ("separator", "z"),
  ("spaceseparator", "zs"), ("lineseparator", "zl"), ("paragraphseparator", "zp"),
  ("other", "c"), ("control", "cc"), ("cntrl", "cc"), ("format", "cf"), ("unassigned", "cn"),
  ("privateuse", "co")]

/-- The set of a category. -/
def ofCategory? (name : String) : Option CharSet :=
  let short := ((categoryNames.find? fun e => e.1 == name).map (·.2)).getD name
  match short with
  | "any" => some all
  | "ascii" => some ascii
  | "assigned" => some assigned
  | "cn" => some unassigned
  | "lc" => some casedLetters
  | "c" => some ((categoriesOf 'c').union unassigned)
  | _ =>
    match short.toList with
    | [initial] => if "lmnpsz".toList.contains initial then some (categoriesOf initial) else none
    | _ => (categories.find? fun e => e.1 == short).map (·.2)

/-- The set of a script. -/
def ofScript? (name : String) : Option CharSet := (Script.ofName? name).map Script.chars

/-- The set of the class of a name among some. -/
def ofClass? (classes : List (List String × CharSet)) (name : String) : Option CharSet :=
  (classes.find? fun e => e.1.contains name).map (·.2)

/-- The set that a name stands for: a property, a category or a script. -/
def ofName? (name : Text) : Option CharSet :=
  let name := looseName name
  ofPropertyName? name |>.or (ofCategory? name) |>.or (ofScript? name)

/-- The set of the characters for which a property has a value. -/
def ofValue? (property value : Text) : Option CharSet :=
  let value := looseName value
  match looseName property with
  | "gc" | "generalcategory" => ofCategory? value
  | "sc" | "script" => ofScript? value
  | "scx" | "scriptextensions" => (Script.ofName? value).map Script.extended
  | "age" => ofAge? value
  | "gcb" | "graphemeclusterbreak" => ofClass? graphemeBreaks value
  | "wb" | "wordbreak" => ofClass? wordBreaks value
  | "sb" | "sentencebreak" => ofClass? sentenceBreaks value
  | _ => none

end Hyperfiction.CharSet

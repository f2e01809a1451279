import Hyperfiction.Number.Read
import Hyperfiction.Number.Written
import Hyperfiction.Table

/-!
# Values of story variables

A variable holds a truth value, a number, a text, a list or a map. Text counts as a number where it
writes a plain decimal, and every value has a text; equality and membership in conditions are
**loose**: they compare numbers where both sides count as one and texts otherwise
(`Value.looselyEquals`, `Value.includes`). `Value.same` is the strict comparison that decides
whether a variable has changed.
-/

namespace Hyperfiction

/-- The value of a story variable. The entries of a map stand in the order of their keys. -/
inductive Value where
  | boolean (holds : Bool)
  | number (x : Float)
  | text (t : Text)
  | list (items : List Value)
  | map (entries : List (Text × Value))

instance : Inhabited Value := ⟨.boolean false⟩

namespace Value

/-- The number that a value counts as: a number itself, or a text that writes a plain decimal. -/
def toNumber? : Value → Option Float
  | .number x => some x
  | .text t => Number.ofText? t
  | _ => none

mutual

/-- The text of a value: the items of a list behind commas, the entries of a map as `key: value`. -/
def toText : Value → Text
  | .boolean b => if b then "true".toList else "false".toList
  | .number x => Number.toText x
  | .text t => t
  | .list items => [','].intercalate (itemTexts items)
  | .map entries => [',', ' '].intercalate (entryTexts entries)

/-- The texts of the items of a list. -/
def itemTexts : List Value → List Text
  | [] => []
  | v :: vs => toText v :: itemTexts vs

/-- The texts of the entries of a map. -/
def entryTexts : List (Text × Value) → List Text
  | [] => []
  | (k, v) :: es => (k ++ ':' :: ' ' :: toText v) :: entryTexts es

end

/-- Does a bare value hold as a condition? Zero and the empty text do not. -/
def isTrue : Value → Bool
  | .boolean b => b
  | .number x => x != 0
  | .text t => !t.isEmpty
  | .list _ => true
  | .map _ => true

/-- Equality of conditions: between numbers where both sides count as one, between texts otherwise. -/
def looselyEquals (v w : Value) : Bool :=
  match v.toNumber?, w.toNumber? with
  | some x, some y => x == y
  | _, _ => v.toText == w.toText

/-- Membership of conditions: an item of a list with the same text, a key of a map, a part of the text
of anything else. -/
def includes (v needle : Value) : Bool :=
  match v with
  | .list items => items.any fun item => item.toText == needle.toText
  | .map entries => (Entries.get? entries needle.toText).isSome
  | other => Text.includes other.toText needle.toText

/-- The item of a list at a place counted from 1, or from the end if the place is negative. -/
def item? (v : Value) (place : Int) : Option Value :=
  match v with
  | .list items =>
    if 0 < place then items[(place - 1).toNat]?
    else if place < 0 ∧ 0 ≤ items.length + place then items[(items.length + place).toNat]?
    else none
  | _ => none

mutual

/-- Strict equality: the same form, equal numbers, texts, items and entries. An undefined number
differs from itself and the two zeros are equal. -/
def same : Value → Value → Bool
  | .boolean a, .boolean b => a == b
  | .number x, .number y => x == y
  | .text s, .text t => s == t
  | .list vs, .list ws => sameItems vs ws
  | .map es, .map fs => sameEntries es fs
  | _, _ => false

/-- Strict equality of lists, item by item. -/
def sameItems : List Value → List Value → Bool
  | [], [] => true
  | v :: vs, w :: ws => same v w && sameItems vs ws
  | _, _ => false

/-- Strict equality of maps, entry by entry. -/
def sameEntries : List (Text × Value) → List (Text × Value) → Bool
  | [], [] => true
  | (k, v) :: es, (l, w) :: fs => k == l && same v w && sameEntries es fs
  | _, _ => false

end

end Value

/-- The variables of a story at one moment. -/
abbrev Snapshot := Table Value

namespace Snapshot

/-- Those variables that are not bound to the same value in `before`. -/
def changesSince (now before : Snapshot) : Snapshot :=
  now.filter fun name value => !((before.get? name).any (value.same ·))

end Snapshot

end Hyperfiction

import Hyperfiction.Text.Basic

/-!
# Object notation

Stories and their settings are written in RON, an object notation with named and unnamed structures,
lists, maps and optional values. A `Ron.Node` is what a text of it says; what it is meant for decides
how it is read further (`Ron.Node.text`, `Ron.Node.option`, `Ron.Node.fields`, …).
-/

namespace Hyperfiction.Ron

/-- Why a text does not say what it should. -/
inductive Fault where
  /-- The text breaks off or goes on where it should not. -/
  | malformed
  | badEscape
  | badNumber
  | tooDeep
  /-- A value of another kind is expected. -/
  | unexpectedKind
  | unexpectedName (name : Text)
  | missingField (name : Text)
  | duplicateField (name : Text)
deriving DecidableEq

/-- What a text of the notation says. -/
inductive Node where
  | unit (name : Option Text)
  | truth (holds : Bool)
  | char (c : Char)
  | text (t : Text)
  /-- A whole number without sign, of at most 64 bits. -/
  | natural (n : Nat)
  /-- Any other number. -/
  | number
  | none
  | some (n : Node)
  | list (items : List Node)
  | tuple (name : Option Text) (items : List Node)
  | struct (name : Option Text) (fields : List (Text × Node))
  | map (entries : List (Node × Node))

namespace Node

/-- The text that a node is. -/
def toText : Node → Except Fault Text
  | text t => .ok t
  | _ => .error .unexpectedKind

/-- The natural number of at most 64 bits that a node is. -/
def toNat : Node → Except Fault Nat
  | natural n => .ok n
  | _ => .error .unexpectedKind

/-- The items that a node lists, each as `read` takes it. -/
def toList {α : Type} (read : Node → Except Fault α) : Node → Except Fault (List α)
  | list items => items.mapM read
  | _ => .error .unexpectedKind

/-- The optional value that a node is, as `read` takes it. -/
def toOption {α : Type} (read : Node → Except Fault α) : Node → Except Fault (Option α)
  | none => .ok Option.none
  | some n => do return Option.some (← read n)
  | _ => .error .unexpectedKind

/-- The fields of a structure that has the name `name` or none. -/
def toFields (name : Text) (n : Node) : Except Fault (List (Text × Node)) :=
  let named (given : Option Text) (fields : List (Text × Node)) :
      Except Fault (List (Text × Node)) :=
    match given with
    | Option.none => .ok fields
    | Option.some other => if other = name then .ok fields else .error (.unexpectedName other)
  match n with
  | struct given fields => named given fields
  | tuple given [] => named given []
  | unit Option.none => .ok []
  | _ => .error .unexpectedKind

/-- The field that goes by one of some names, as `read` takes it; it may be there once. -/
def field? {α : Type} (names : List Text) (read : Node → Except Fault α)
    (fields : List (Text × Node)) : Except Fault (Option α) :=
  match fields.filter fun f => names.contains f.1 with
  | [] => .ok Option.none
  | [(_, n)] => do return Option.some (← read n)
  | (name, _) :: _ => .error (.duplicateField name)

/-- The field that goes by one of some names, as `read` takes it; it has to be there once. -/
def field {α : Type} (names : List Text) (read : Node → Except Fault α)
    (fields : List (Text × Node)) : Except Fault α := do
  match ← field? names read fields with
  | Option.some a => return a
  | Option.none => throw (.missingField (names.headD []))

end Node

end Hyperfiction.Ron

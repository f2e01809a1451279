import Hyperfiction.Text.Basic

/-!
# Arguments

The program is told what to do with which story: `lint PATH [--config PATH]`, or
`preview PATH [--config PATH] [--seed NUMBER] [--start NAME]`.
-/

namespace Hyperfiction

/-- What is done with a story. -/
inductive Task where
  | lint
  | preview
deriving DecidableEq

/-- What the program is told. -/
structure Arguments where
  task : Task
  path : Text
  config : Option Text := none
  seed : Option Nat := none
  start : Option Text := none

namespace Arguments

/-- How the program is used. -/
def usage : Text :=
  "usage: hyperfiction (lint | preview) PATH [--config PATH] [--seed NUMBER] [--start NAME]".toList

/-- The arguments with those of a list, which are options with their values. -/
def withOptions? (a : Arguments) : List String → Option Arguments
  | [] => some a
  | "--config" :: value :: rest => withOptions? { a with config := some value.toList } rest
  | "--seed" :: value :: rest =>
    match Text.digitsValue? 10 value.toList with
    | some n =>
      if a.task = .preview ∧ n < 2 ^ 64 ∧ value ≠ "" then withOptions? { a with seed := some n } rest
      else none
    | none => none
  | "--start" :: value :: rest =>
    if a.task = .preview then withOptions? { a with start := some value.toList } rest else none
  | _ => none

/-- The arguments of a list. -/
def ofList? : List String → Option Arguments
  | "lint" :: path :: rest => withOptions? { task := .lint, path := path.toList } rest
  | "preview" :: path :: rest => withOptions? { task := .preview, path := path.toList } rest
  | _ => none

end Arguments

end Hyperfiction

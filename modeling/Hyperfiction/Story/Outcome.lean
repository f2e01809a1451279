import Hyperfiction.Text.Basic

/-!
# Outcomes

What a program that was run on a story leaves behind.
-/

namespace Hyperfiction

/-- What a run of a program shows and whether it succeeds. -/
structure Outcome where
  output : Text := []
  /-- What is told beside the output, line by line. -/
  complaints : List Text := []
  succeeds : Bool := true

/-- A failure, behind what was shown before it. -/
def Outcome.failure (output t : Text) : Outcome :=
  { output := output, complaints := ["ERROR: ".toList ++ t], succeeds := false }

end Hyperfiction

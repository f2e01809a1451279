import Hyperfiction.Pattern.Program

/-!
# Filters

Filters remove parts of the text of a passage, each from what the one before it left: every occurrence of
a text, every stretch between two markers with them, or every match of a pattern. Matches do not overlap
and are taken from left to right; an empty text or marker removes nothing.
-/

namespace Hyperfiction

/-- A filter as configured. -/
inductive FilterRule where
  | pattern (source : Text)
  | between (start stop : Text)
  | literal (t : Text)
deriving DecidableEq

/-- A filter made ready to run. -/
inductive Filter where
  | pattern (p : Program)
  | between (start stop : Text)
  | literal (t : Text)

namespace Filter

/-- The filter of a rule; the source of a pattern may be none. -/
def ofRule : FilterRule → Except PatternError Filter
  | .pattern source => do return .pattern (← Program.ofText source)
  | .between start stop => .ok (.between start stop)
  | .literal t => .ok (.literal t)

private theorem length_breakOn? {needle t b u : Text} (h : Text.breakOn? needle t = some (b, u)) :
    t.length = b.length + needle.length + u.length := by
  rw [Text.eq_append_of_breakOn? h]
  simp only [List.length_append]
  omega

/-- The text without the occurrences of a text that is not empty. -/
def stripLiteral (needle t : Text) : Text :=
  match h : Text.breakOn? needle t with
  | none => t
  | some (before, behind) =>
    if hn : needle = [] then t
    else
      have : behind.length < t.length := by
        have := length_breakOn? h
        have := List.length_pos_iff.2 hn
        omega
      before ++ stripLiteral needle behind
termination_by t.length

/-- The text without the stretches from one marker through the next other one; markers are not empty. A
start without end stays. -/
def stripBetween (start stop t : Text) : Text :=
  match h : Text.breakOn? start t with
  | none => t
  | some (before, behind) =>
    match h' : Text.breakOn? stop behind with
    | none => t
    | some (_, rest) =>
      if hn : start = [] ∨ stop = [] then t
      else
        have : rest.length < t.length := by
          have := length_breakOn? h
          have := length_breakOn? h'
          have := List.length_pos_iff.2 (not_or.1 hn).1
          omega
        before ++ stripBetween start stop rest
termination_by t.length

/-- The text as a filter leaves it. -/
def apply : Filter → Text → Text
  | pattern p, t => p.strip t
  | between start stop, t => stripBetween start stop t
  | literal needle, t => stripLiteral needle t

/-- The filters of rules, in order; the first rule that is none decides. -/
def ofRules (rules : List FilterRule) : Except PatternError (List Filter) := rules.mapM ofRule

/-- The text as filters leave it, one after the other. -/
def applyAll (filters : List Filter) (t : Text) : Text := filters.foldl (fun t f => f.apply t) t

end Filter

end Hyperfiction

import Hyperfiction.Assignment.Run
import Hyperfiction.Eval.Condition
import Hyperfiction.Render.Print

/-!
# Chains and guards resolved

A chain becomes the body of its first branch that holds, a guard its body if its query holds, and
nothing otherwise. A body that is taken has its own chains and guards resolved first, then its
assignments run, then its prints are written; a body nested deeper than the limit is taken as it stands.
`reduceChains` goes over a text once from left to right, and what a chain becomes is not searched again.
-/

namespace Hyperfiction

namespace Chain

/-- The place of the first branch that holds; the conditions behind it are not evaluated. -/
def select (w : Setting) : List Branch → Act (Option Nat)
  | [] => pure none
  | b :: bs => do
    let holds ← match b.condition? with
      | some t => Condition.textHolds w t
      | none => pure true
    if holds then pure (some 0)
    else
      let i ← select w bs
      pure (i.map (· + 1))

end Chain

namespace Conditional

/-- What a conditional becomes, where `body` resolves the body that is taken. -/
def resolve (w : Setting) (body : Text → Act Text) : Conditional → Act Text
  | chain c => do
    let i ← Chain.select w c.branches
    match i.bind fun i => c.branches[i]? with
    | some b => body b.hook.body
    | none => pure []
  | guard g => if g.query.holds w then body g.hook.body else pure []
  | stray => pure ['(']

end Conditional

/-- The text with its chains and guards resolved, where `body` resolves the bodies that are taken. -/
def reduceWith (w : Setting) (body : Text → Act Text) (t : Text) : Act Text :=
  let cs := Conditional.finder.cuts t
  Cuts.rewrite Conditional.source (Conditional.resolve w body) w.limits.maxReductions cs.items cs.tail

/-- What a body becomes that is taken, with room for `room` more levels of bodies. -/
def reduceBody (w : Setting) : Nat → Text → Act Text
  | 0, t => pure t
  | room + 1, t => do
    let reduced ← reduceWith w (reduceBody w room) t
    let run ← runSets w.words reduced
    resolvePrints w run

/-- The text with its chains and guards resolved. -/
def reduceChains (w : Setting) (t : Text) : Act Text :=
  reduceWith w (reduceBody w w.limits.maxDepth) t

end Hyperfiction

import Hyperfiction.Text.Letter

/-!
# Matching brackets

A bracket is closed by the first closer of its class at which closers outnumber openers. Only the one
class counts: other brackets and quotes in between have no influence. `closing?` splits the text behind
an open bracket at its closer; `closing?_eq_some_iff` says that it finds exactly that closer.
-/

namespace Hyperfiction

/-- A class of brackets. -/
inductive Bracket where
  | round
  | square
  | curly
deriving DecidableEq

namespace Bracket

/-- The character that opens. -/
def opener : Bracket → Char
  | .round => '('
  | .square => '['
  | .curly => '{'

/-- The character that closes. -/
def closer : Bracket → Char
  | .round => ')'
  | .square => ']'
  | .curly => '}'

/-- The class that a character opens. -/
def ofOpener? : Char → Option Bracket
  | '(' => some .round
  | '[' => some .square
  | '{' => some .curly
  | _ => none

theorem opener_ne_closer (b : Bracket) : b.opener ≠ b.closer := by cases b <;> decide

/-- The depth behind a character at depth `n`; a closer at depth 0 has none. -/
def step? (b : Bracket) (n : Nat) (c : Char) : Option Nat :=
  if c = b.opener then some (n + 1)
  else if c = b.closer then (if n = 0 then none else some (n - 1))
  else some n

/-- The depth behind a text that starts at depth `n`, if none of its closers stands at depth 0. -/
def depth? (b : Bracket) (n : Nat) (t : Text) : Option Nat := t.foldlM b.step? n

/-- Does the text close each bracket that it opens, and no other? -/
def Balanced (b : Bracket) (t : Text) : Prop := b.depth? 0 t = some 0

instance (b : Bracket) (t : Text) : Decidable (b.Balanced t) :=
  inferInstanceAs (Decidable (b.depth? 0 t = some 0))

/-- The text before and behind the closer that matches an open bracket, with `n` more brackets opened
since. -/
def closing? (b : Bracket) (n : Nat) : Text → Option (Text × Text)
  | [] => none
  | c :: t =>
    match b.step? n c with
    | none => some ([], t)
    | some k => (closing? b k t).map fun p => (c :: p.1, p.2)

/-- The depth behind a text that starts at depth `n`, where a closer at depth 0 changes nothing. -/
def depthAfter (b : Bracket) (n : Nat) (t : Text) : Nat :=
  t.foldl (fun n c => (b.step? n c).getD 0) n

theorem step?_eq_none_iff {b : Bracket} {n : Nat} {c : Char} :
    b.step? n c = none ↔ c = b.closer ∧ n = 0 := by
  have := b.opener_ne_closer
  unfold step?
  split
  · grind
  · split <;> grind

theorem depth?_cons (b : Bracket) (n : Nat) (c : Char) (t : Text) :
    b.depth? n (c :: t) = (b.step? n c).bind fun k => b.depth? k t := rfl

theorem depth?_append (b : Bracket) (n : Nat) (s t : Text) :
    b.depth? n (s ++ t) = (b.depth? n s).bind fun k => b.depth? k t := by
  simp [depth?, List.foldlM_append, Option.bind_eq_bind]

/-- The closer found is the first one at which closers outnumber openers. -/
theorem closing?_eq_some_iff {b : Bracket} {n : Nat} {t u v : Text} :
    b.closing? n t = some (u, v) ↔ t = u ++ b.closer :: v ∧ b.depth? n u = some 0 := by
  induction t generalizing n u with
  | nil => simp [closing?]
  | cons c t ih =>
    simp only [closing?]
    cases hs : b.step? n c with
    | none =>
      obtain ⟨rfl, rfl⟩ := step?_eq_none_iff.1 hs
      cases u with
      | nil => simp [depth?]
      | cons d u => simp only [List.cons_append, List.cons.injEq]; grind [depth?_cons]
    | some k =>
      have hne : ¬(c = b.closer ∧ n = 0) := fun h => by simp [step?_eq_none_iff.2 h] at hs
      cases u with
      | nil =>
        simp only [Option.map_eq_some_iff, Prod.mk.injEq, reduceCtorEq, false_and, and_false,
          exists_false, List.nil_append, List.cons.injEq, false_iff]
        rintro ⟨⟨rfl, rfl⟩, h⟩
        exact hne ⟨rfl, by simpa [depth?] using h⟩
      | cons d u =>
        simp only [Option.map_eq_some_iff, Prod.mk.injEq, List.cons.injEq, Prod.exists,
          List.cons_append]
        constructor
        · rintro ⟨u', v', h, ⟨rfl, rfl⟩, rfl⟩
          obtain ⟨rfl, hd⟩ := ih.1 h
          exact ⟨⟨rfl, rfl⟩, by simpa [depth?_cons, hs] using hd⟩
        · rintro ⟨⟨rfl, rfl⟩, h⟩
          exact ⟨u, v, ih.2 ⟨rfl, by simpa [depth?_cons, hs] using h⟩, ⟨rfl, rfl⟩, rfl⟩

theorem eq_append_of_closing? {b : Bracket} {n : Nat} {t u v : Text}
    (h : b.closing? n t = some (u, v)) : t = u ++ b.closer :: v :=
  (closing?_eq_some_iff.1 h).1

end Bracket

end Hyperfiction

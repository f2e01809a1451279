import Mathlib.Data.List.Basic
import Hyperfiction.Text.Basic

/-!
# Texts without spans

What stands outside the spans of a text is the text without the characters that begin inside of one
(`Text.outside`). Spans in order are left out one by one: a piece of the text that no span goes over is
kept (`Text.outside_keep`), and one that a span goes over is removed (`Text.outside_remove`).
-/

namespace Hyperfiction

/-- Does the span go over the position? -/
def Span.covers (s : Span) (n : Nat) : Bool := decide (s.start ≤ n ∧ n < s.stop)

namespace Text

/-- The text without those characters that begin inside of a span. `position` is where the first character
stands. -/
def outside (spans : List Span) (position : Nat) : Text → Text
  | [] => []
  | c :: t =>
    if spans.any (·.covers position) then outside spans (position + c.utf8Size) t
    else c :: outside spans (position + c.utf8Size) t

/-- What is outside of spans in two texts is so in each. -/
theorem outside_append (spans : List Span) (n : Nat) (s t : Text) :
    outside spans n (s ++ t) = outside spans n s ++ outside spans (n + width s) t := by
  induction s generalizing n with
  | nil => simp [outside]
  | cons c s ih =>
    rw [List.cons_append, outside, outside, ih, width_cons, Nat.add_assoc]
    split <;> rfl

/-- A text in front of all spans is left as it is. -/
theorem outside_of_before {spans : List Span} {n : Nat} {t : Text}
    (h : ∀ s ∈ spans, n + width t ≤ s.start) : outside spans n t = t := by
  induction t generalizing n with
  | nil => rfl
  | cons c t ih =>
    have hpos := c.utf8Size_pos
    have hcovers : spans.any (·.covers n) = false := by
      rw [List.any_eq_false]
      intro s hs
      have := h s hs
      rw [width_cons] at this
      simp only [Span.covers, decide_eq_true_eq]
      omega
    have hrest : ∀ s ∈ spans, n + c.utf8Size + width t ≤ s.start := by
      intro s hs
      have := h s hs
      rw [width_cons] at this
      omega
    rw [outside, hcovers, ih hrest]
    rfl

/-- Nothing is left of a text inside of a span. -/
theorem outside_of_mem {spans : List Span} {s : Span} (hs : s ∈ spans) {n : Nat} {t : Text}
    (hstart : s.start ≤ n) (hstop : n + width t ≤ s.stop) : outside spans n t = [] := by
  induction t generalizing n with
  | nil => rfl
  | cons c t ih =>
    have hpos := c.utf8Size_pos
    rw [width_cons] at hstop
    have hcovers : spans.any (·.covers n) = true := by
      refine List.any_eq_true.mpr ⟨s, hs, ?_⟩
      simp only [Span.covers, decide_eq_true_eq]
      omega
    rw [outside, hcovers, if_pos rfl, ih (by omega) (by omega)]

/-- A span that ends in front of a text makes no difference to it. -/
theorem outside_cons_of_behind {spans : List Span} {s : Span} {n : Nat} (h : s.stop ≤ n) (t : Text) :
    outside (s :: spans) n t = outside spans n t := by
  induction t generalizing n with
  | nil => rfl
  | cons c t ih =>
    have hcovers : s.covers n = false := by
      simp only [Span.covers, decide_eq_false_iff_not]
      omega
    rw [outside, outside, List.any_cons, hcovers, Bool.false_or, ih (by omega)]

variable {spans : List Span} {s before source : Text}
  (hspans : ∀ x ∈ spans, width (s ++ before ++ source) ≤ x.start)
include hspans

/-- What is not in a span is left, with the text before it. -/
theorem outside_keep (behind : Text) :
    outside spans (width s) (before ++ (source ++ behind)) =
      before ++ source ++ outside spans (width (s ++ before ++ source)) behind := by
  have hfront : outside spans (width s) (before ++ source) = before ++ source := by
    refine outside_of_before fun x hx => ?_
    have := hspans x hx
    simp only [width_append] at this ⊢
    omega
  rw [← List.append_assoc, outside_append, hfront, ← width_append, ← List.append_assoc]

/-- What a span goes over is left out. -/
theorem outside_remove (behind : Text) :
    outside (⟨width (s ++ before), width (s ++ before ++ source)⟩ :: spans) (width s)
        (before ++ (source ++ behind)) =
      before ++ outside spans (width (s ++ before ++ source)) behind := by
  have hfront : outside (⟨width (s ++ before), width (s ++ before ++ source)⟩ :: spans) (width s) before =
      before := by
    refine outside_of_before fun x hx => ?_
    rcases List.mem_cons.mp hx with rfl | hx
    · simp only [width_append]
      omega
    · have := hspans x hx
      simp only [width_append] at this
      omega
  have hsource : outside (⟨width (s ++ before), width (s ++ before ++ source)⟩ :: spans)
      (width (s ++ before)) source = [] :=
    outside_of_mem List.mem_cons_self (Nat.le_refl _) (by simp only [width_append]; omega)
  rw [outside_append, hfront, ← width_append, outside_append, hsource, List.nil_append, ← width_append,
    outside_cons_of_behind (Nat.le_refl _)]

end Text

end Hyperfiction

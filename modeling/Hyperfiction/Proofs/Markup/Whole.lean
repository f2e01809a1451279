import Hyperfiction.Proofs.Markup.Links

/-!
# Whole macros

A macro that stands in a text is taken for what it is by every pass if it closes what it opens, has no
square brackets, and begins in its arguments none of the macros that the pass looks for. Such a macro is
**whole** (`Invocation.Whole`).
-/

namespace Hyperfiction

/-- The text has no square brackets. -/
def Text.NoSquare (t : Text) : Prop := '[' ∉ t ∧ ']' ∉ t

instance : DecidablePred Text.NoSquare := fun _ => inferInstanceAs (Decidable (_ ∧ _))

namespace Text.NoSquare

variable {s t : Text} {c : Char}

theorem nil : NoSquare [] := ⟨nofun, nofun⟩

/-- Two texts have no square brackets if neither has any. -/
theorem append_iff : NoSquare (s ++ t) ↔ s.NoSquare ∧ t.NoSquare := by
  simp only [NoSquare, List.mem_append, not_or]
  tauto

theorem append (hs : s.NoSquare) (ht : t.NoSquare) : NoSquare (s ++ t) := append_iff.mpr ⟨hs, ht⟩

theorem of_subset (ht : t.NoSquare) (h : ∀ c ∈ s, c ∈ t) : s.NoSquare :=
  ⟨fun hmem => ht.1 (h _ hmem), fun hmem => ht.2 (h _ hmem)⟩

end Text.NoSquare

namespace Invocation

/-- A **whole** macro of some names: it closes what it opens, has no square brackets, and its arguments begin
none of the macros in `apart`. -/
structure Whole (names apart : List Text) (m : Invocation) : Prop where
  readable : m.Readable
  named : isNamed names m.name
  noHead : NoHead apart m.args
  noSquare : m.args.NoSquare

instance (names apart : List Text) (m : Invocation) : Decidable (Whole names apart m) :=
  decidable_of_iff ((IsName m.name ∧ Bracket.round.Balanced m.args) ∧ isNamed names m.name ∧
      NoHead apart m.args ∧ m.args.NoSquare)
    ⟨fun h => ⟨⟨h.1.1, h.1.2⟩, h.2.1, h.2.2.1, h.2.2.2⟩,
      fun h => ⟨⟨h.readable.isName, h.readable.balanced⟩, h.named, h.noHead, h.noSquare⟩⟩

/-- A macro has those brackets only that its arguments have. -/
theorem not_mem_source {m : Invocation} (hm : IsName m.name) {c : Char} (hc : c ∈ ['[', ']', '{', '}'])
    (hargs : c ∉ m.args) : c ∉ m.source := by
  have hplain : ['[', ']', '{', '}'].all (fun c => !isNameChar c && c != '(' && c != ':' && c != ')') := by
    decide
  have hc := List.all_eq_true.mp hplain c hc
  simp only [Bool.and_eq_true, Bool.not_eq_true', bne_iff_ne, ne_eq] at hc
  have hname : c ∉ m.name := fun hmem => by simpa [hc.1.1.1] using hm.2 c hmem
  simp [source, hname, hargs, hc.1.1.2, hc.1.2, hc.2]

namespace Whole

variable {names apart more : List Text} {m : Invocation}

/-- A whole macro begins fewer macros as well. -/
theorem mono (h : Whole names apart m) (hsub : more ⊆ apart) : Whole names more m :=
  ⟨h.readable, h.named, h.noHead.mono hsub, h.noSquare⟩

/-- The macro is none of those that its arguments begin none of, if its names are none of theirs. -/
theorem noHead_source (h : Whole names apart m) (hdisjoint : ∀ n ∈ names, n ∉ apart) :
    NoHead apart m.source := by
  refine Invocation.noHead_source h.readable.isName ?_ h.noHead
  have hn := h.named
  simp only [isNamed, List.contains_eq_mem, decide_eq_true_eq, decide_eq_false_iff_not] at hn ⊢
  exact hdisjoint _ hn

theorem noSquare_source (h : Whole names apart m) : m.source.NoSquare :=
  ⟨not_mem_source h.readable.isName (by decide) h.noSquare.1,
    not_mem_source h.readable.isName (by decide) h.noSquare.2⟩

end Whole

end Invocation

end Hyperfiction

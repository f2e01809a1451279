import Hyperfiction.Proofs.InPlace.Spans
import Hyperfiction.Proofs.Text.Outside
import Hyperfiction.Proofs.Token.Followed

/-!
# Tokens that tile a text

The lexer takes single characters, stretches of letters and digits, words behind gaps and whole quotations,
and it takes everything: spans **tile** a text (`Span.Tile`) when they are stretches of it in order that leave
out nothing but blanks, and the spans of its tokens do (`InPlace.tokens_tile`). So the tokens of a query
reach from the first character of the trimmed text to its last one, and a query that asks for a passage by
its bare name asks for the trimmed text.
-/

namespace Hyperfiction

/-- The spans are stretches of a text, none of them empty, one behind the other, and only blanks of the text
stand outside of them. -/
structure Span.Tile (t : Text) (spans : List Span) : Prop where
  fits : ∀ s ∈ spans, s.Fits t
  ordered : spans.Pairwise fun s later => s.start < later.start ∧ s.stop ≤ later.start
  blank : ∀ c ∈ Text.outside spans 0 t, Text.isBlank c

namespace Token

/-! ### The spans of tokens -/

theorem le_start_of_mem_spans {n : Nat} {ks : List Token} {s : Span} (h : s ∈ spans n ks) : n ≤ s.start := by
  induction ks generalizing n with
  | nil => cases h
  | cons k ks ih =>
    rcases List.mem_cons.mp h with rfl | hmem
    · exact Nat.le_add_right _ _
    · have := ih hmem
      omega

/-- Each token ends before the next one begins. -/
theorem pairwise_spans (n : Nat) (ks : List Token) :
    (spans n ks).Pairwise fun s later => s.stop ≤ later.start := by
  induction ks generalizing n with
  | nil => exact .nil
  | cons k ks ih => exact .cons (fun later hlater => le_start_of_mem_spans hlater) (ih _)

/-- Outside of the tokens stand their gaps, and what is behind the last one. -/
theorem outside_spans (s : Text) (ks : List Token) (b : Text) :
    Text.outside (spans (Text.width s) ks) (Text.width s) (written ks ++ b) = ks.flatMap gap ++ b := by
  induction ks generalizing s with
  | nil => exact Text.outside_of_before nofun
  | cons k ks ih =>
    have hspans : spans (Text.width s) (k :: ks) =
        ⟨Text.width (s ++ k.gap), Text.width (s ++ k.gap ++ k.source)⟩ ::
          spans (Text.width (s ++ k.gap ++ k.source)) ks := by
      simp only [spans, Text.width_append]
    have htext : written (k :: ks) ++ b = k.gap ++ (k.source ++ (written ks ++ b)) := by
      simp only [written, List.append_assoc]
    rw [hspans, htext, Text.outside_remove fun x hx => le_start_of_mem_spans hx, ih, List.flatMap_cons,
      List.append_assoc]

/-- **The spans of tokens tile** the text that they are read from. -/
theorem tile_spans (t : Text) : Span.Tile t (spans 0 (read t)) where
  fits := fun _ => fits_of_mem_spans
  ordered := by
    refine (pairwise_spans 0 (read t)).imp_of_mem fun hs _ hle => ⟨?_, hle⟩
    exact Nat.lt_of_lt_of_le (fits_of_mem_spans hs).1 hle
  blank := by
    obtain ⟨b, ht, hb⟩ := exists_written_readBehind false t
    have houtside : Text.outside (spans 0 (read t)) 0 t = (read t).flatMap gap ++ b := by
      conv => lhs; arg 3; rw [ht]
      exact outside_spans [] (read t) b
    intro c hc
    rw [houtside] at hc
    rcases List.mem_append.mp hc with hc | hc
    · obtain ⟨k, hk, hc⟩ := List.mem_flatMap.mp hc
      exact (isRead_of_mem hk).gap c hc
    · exact List.all_eq_true.mp hb c hc

/-! ### Queries -/

/-- From its first token to its last one a text is the text without the blanks around it. -/
theorem trim_covered (t : Text) : Text.trim (covered (read t)) = Text.trim t := by
  obtain ⟨b, ht, hb⟩ := exists_written_readBehind false t
  have hblank : ∀ c ∈ b, Text.isBlank c := List.all_eq_true.mp hb
  obtain ⟨gap, hgap, hwritten⟩ : ∃ gap : Text, (∀ c ∈ gap, Text.isBlank c) ∧
      written (readBehind false t) = gap ++ covered (read t) := by
    cases hread : read t with
    | nil => exact ⟨[], nofun, congrArg written hread⟩
    | cons k ks =>
      have hk : k ∈ read t := by
        rw [hread]
        exact List.mem_cons_self
      have hisRead : k.IsRead := isRead_of_mem hk
      refine ⟨k.gap, hisRead.gap, (congrArg written hread).trans ?_⟩
      rw [written, covered, List.append_assoc]
  conv => rhs; rw [ht, hwritten]
  exact (Text.trim_between_blanks hgap _ hblank).symm

/-- Only in a text of blanks there are no tokens. -/
theorem read_eq_nil_iff {t : Text} : read t = [] ↔ Text.isBlankText t := by
  rw [read, Text.isBlankText, List.all_eq_true, ← List.dropWhile_eq_nil_iff]
  refine ⟨fun h => ?_, readBehind_of_eq_nil⟩
  cases hrest : t.dropWhile Text.isBlank with
  | nil => rfl
  | cons c u =>
    rw [readBehind_of_eq_cons hrest] at h
    cases h

/-- A text of which the first token is a quotation begins with a quote, but for blanks. -/
theorem quote_of_read_eq_cons {t : Text} {k : Token} {ks : List Token} {body : Text}
    (h : read t = k :: ks) (hk : k.kind = .quoted body) :
    ∃ c ∈ (Text.trimStart t).head?, c = '"' ∨ c = '\'' := by
  cases hstart : Text.trimStart t with
  | nil =>
    rw [read, readBehind_of_eq_nil hstart] at h
    cases h
  | cons c u =>
    refine ⟨c, rfl, ?_⟩
    rw [read, readBehind_of_eq_cons hstart] at h
    obtain ⟨rfl, -⟩ := List.cons.inj h
    simp only at hk
    rcases readOne_cases (false && (t.takeWhile Text.isBlank).isEmpty) c u with
      ⟨hc, -⟩ | ⟨hc, -⟩ | ⟨hc, hone⟩ | hplain
    · exact hc
    · exact hc
    · rw [hone] at hk
      rcases hc with rfl | rfl <;> cases hk
    · rw [hk] at hplain
      cases hplain

end Token

/-- The kinds of the tokens that ask for a tag. -/
def Query.tagKinds (part : Text) : List Token.Kind :=
  [.word "where".toList, .word "its".toList, .word "tags".toList, .contains, .quoted part]

/-- A question that is neither a quotation nor about a tag is about the passage that its tokens cover. -/
theorem Query.ofTokens?_eq_passage {ks : List Token} (hne : ks ≠ [])
    (hquoted : ∀ name, ks.map Token.kind ≠ [.quoted name])
    (htag : ∀ part, ks.map Token.kind ≠ tagKinds part) :
    ofTokens? ks = some (.passage (Text.trim (Token.covered ks))) := by
  rw [ofTokens?]
  split
  · rename_i hnil
    exact absurd (List.map_eq_nil_iff.mp hnil) hne
  · rename_i name hname
    exact absurd hname (hquoted name)
  · rename_i hkinds
    refine if_neg ?_
    rintro ⟨rfl, rfl, rfl⟩
    exact htag _ hkinds
  · rfl

namespace InPlace

theorem TokenAt.map_span_list (n : Nat) (ks : List Token) :
    (TokenAt.list n ks).map TokenAt.span = Token.spans n ks := by
  induction ks generalizing n with
  | nil => rfl
  | cons k ks ih => rw [TokenAt.list_cons, List.map_cons, ih, Token.spans]

/-- **Tokens tile the text** that they are read from. A query that is no blank, that does not begin with a
quote and that does not ask for a tag asks for the passage whose name is the text as it is trimmed. -/
theorem tokens_tile (t : Text) :
    ∃ ks, tokens t = .ok ks ∧ Span.Tile t (ks.map TokenAt.span) ∧
      (¬ Text.isBlankText t → (∀ c ∈ (Text.trimStart t).head?, c ≠ '"' ∧ c ≠ '\'') →
        (∀ part, ks.map TokenAt.kind ≠ Query.tagKinds part) →
        queryOf t = .ok (some (.passage (Text.trim t)))) := by
  refine ⟨TokenAt.list 0 (Token.read t), tokens_eq t, ?_, fun hblank hquote htag => ?_⟩
  · rw [TokenAt.map_span_list]
    exact Token.tile_spans t
  · rw [TokenAt.map_kind_list] at htag
    have hne : Token.read t ≠ [] := fun h => hblank (Token.read_eq_nil_iff.mp h)
    have hquoted (name : Text) : (Token.read t).map Token.kind ≠ [.quoted name] := by
      intro hkinds
      obtain ⟨k, hread, hk⟩ := List.map_eq_singleton_iff.mp hkinds
      obtain ⟨c, hc, hcases⟩ := Token.quote_of_read_eq_cons hread hk
      exact hcases.elim (hquote c hc).1 (hquote c hc).2
    rw [queryOf_eq, Query.ofText?, Query.ofTokens?_eq_passage hne hquoted htag, Token.trim_covered]

/-- A name with blanks around it, a possessive and an ordinal number in it is asked for as it is. -/
theorem tokens_tile_possessive :
    let t : Text := " Anna's 2nd house ".toList
    (∃ ks, tokens t = .ok ks ∧ Span.Tile t (ks.map TokenAt.span)) ∧
      queryOf t = .ok (some (.passage "Anna's 2nd house".toList)) := by
  intro t
  obtain ⟨ks, hks, htile, hquery⟩ := tokens_tile t
  have hfour : ks.length = 4 := by
    have hread : (TokenAt.list 0 (Token.read t)).length = 4 := by decide +kernel
    rwa [← Except.ok.inj (hks.symm.trans (tokens_eq t))] at hread
  have htag (part : Text) : ks.map TokenAt.kind ≠ Query.tagKinds part := by
    intro hkinds
    have hfive := congrArg List.length hkinds
    rw [List.length_map, hfour] at hfive
    exact absurd hfive (show 4 ≠ 5 by decide)
  have hquote : ∀ c ∈ (Text.trimStart t).head?, c ≠ '"' ∧ c ≠ '\'' := by
    have hfirst : (Text.trimStart t).head? = some 'A' := by decide +kernel
    intro c hc
    obtain rfl : 'A' = c := Option.some.inj (hfirst.symm.trans hc)
    decide
  have htrim : Text.trim t = "Anna's 2nd house".toList := by decide +kernel
  have hpassage := hquery (by decide +kernel) hquote htag
  rw [htrim] at hpassage
  exact ⟨⟨ks, hks, htile⟩, hpassage⟩

end InPlace

end Hyperfiction

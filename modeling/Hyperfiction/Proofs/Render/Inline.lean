import Hyperfiction.Proofs.InPlace.Layout
import Hyperfiction.Proofs.Render.Printed

/-!
# Variables in running text

Two readers decide where the name of a variable ends: tokens take letters and numerals of every script,
inline names only letters and digits of ASCII. So what is written `$name` in running text is the variable
that `(print: $name)` reads exactly if the name is made of those (`Inline.replaces_variable_iff`); of any
other name only the front is looked up, as the name of another variable.

What names are looked up in a text is said by the text alone (`Inline.names`), and a text none of whose
names is bound is left as it is (`substitute_of_unbound`).
-/

namespace Hyperfiction

namespace Inline

/-! ### Inline names -/

/-- May the text stand behind a `$` as an inline name? -/
def IsName (n : Text) : Prop := n ≠ [] ∧ (∀ c ∈ n, isInlineChar c) ∧ ¬ n.head?.any Char.isDigit

instance (n : Text) : Decidable (IsName n) := inferInstanceAs (Decidable (_ ∧ _ ∧ _))

/-- The inline name at the front of a text that stands behind a `$`. -/
def name? (u : Text) : Option Text :=
  let name := u.takeWhile isInlineChar
  if name ≠ [] ∧ ¬ name.head?.any Char.isDigit then some name else none

/-- The inline names of a text, in order. -/
def names : Text → List Text
  | [] => []
  | c :: t => (if c = '$' then (name? t).toList else []) ++ names t

theorem continuesWord_of_isInlineChar {c : Char} (h : isInlineChar c) : Token.continuesWord c := by
  have hlow := InPlace.lt_of_isInlineChar c h
  rwa [Token.continuesWord_of_lt (by omega)]

/-- What ends the name of a variable ends an inline name. -/
theorem ends_of_continuesWord {u : Text} (h : u.head?.any Token.continuesWord = false) :
    u.head?.any isInlineChar = false := by
  cases u with
  | nil => rfl
  | cons c u =>
    rw [List.head?_cons, Option.any_some, Bool.eq_false_iff] at h ⊢
    exact fun hinline => h (continuesWord_of_isInlineChar hinline)

theorem IsName.isVariable {n : Text} (h : IsName n) : Text.IsVariable n :=
  ⟨h.1, fun c hc => continuesWord_of_isInlineChar (h.2.1 c hc)⟩

/-- Where a word may begin, so may an inline name. -/
theorem isName_of_startsWord {n : Text} (hstart : n.head?.any Token.startsWord)
    (h : ∀ c ∈ n, isInlineChar c) : IsName n := by
  cases n with
  | nil => cases hstart
  | cons c n =>
    refine ⟨List.cons_ne_nil _ _, h, ?_⟩
    rw [List.head?_cons, Option.any_some, Token.isDigit_of_startsWord hstart]
    exact Bool.false_ne_true

theorem isName_of_name? {u n : Text} (h : name? u = some n) : IsName n := by
  simp only [name?] at h
  split at h
  · rename_i hname
    obtain rfl := Option.some.inj h
    exact ⟨hname.1, fun c hc => List.mem_takeWhile_imp hc, hname.2⟩
  · cases h

theorem IsName.name?_eq {n : Text} (h : IsName n) : name? n = some n := by
  have hself : n.takeWhile isInlineChar = n := List.takeWhile_eq_self_iff.mpr h.2.1
  simp only [name?, hself, if_pos (show n ≠ [] ∧ ¬ n.head?.any Char.isDigit from ⟨h.1, h.2.2⟩)]

/-! ### What is looked up -/

variable {s : Snapshot}

/-- **A variable is read** if its name is bound. -/
theorem read?_eq (s : Snapshot) (u : Text) :
    read? s u = (name? u).bind fun n => (s.get? n).map fun v => ((n, v), u.dropWhile isInlineChar) := by
  cases hname : name? u with
  | none =>
    simp only [name?, ite_eq_right_iff, reduceCtorEq, imp_false] at hname
    rw [read?, if_neg hname, Option.bind_none]
  | some n =>
    have hbare := (isName_of_name? hname).isVariable.bareName
    simp only [name?, Option.ite_none_right_eq_some, Option.some.injEq] at hname
    obtain ⟨hguard, rfl⟩ := hname
    rw [read?, if_pos hguard, Snapshot.lookup?_eq, hbare, Option.bind_some]

/-- Where no inline name can go on, none is read across. -/
theorem read?_append {u : Text} (hu : u.head?.any isInlineChar = false) (t : Text) :
    read? s (t ++ u) = (read? s t).map fun p => (p.1, p.2 ++ u) := by
  simp only [read?_eq, name?, Text.takeWhile_append_of_ends hu, Text.dropWhile_append_of_ends hu]
  split
  · rw [Option.bind_some, Option.bind_some, Option.map_map]
    rfl
  · rfl

end Inline

/-- **A text falls in two** where no inline name can go on. -/
theorem substitute_append {u : Text} (hu : u.head?.any isInlineChar = false) (s : Snapshot) (t : Text) :
    substitute s (t ++ u) = substitute s t ++ substitute s u := by
  -- Behind a name that is replaced the text goes on, so the induction is on the length.
  induction hn : t.length using Nat.strongRecOn generalizing t with
  | ind n ih =>
    subst hn
    cases t with
    | nil => rw [substitute, List.nil_append, List.nil_append]
    | cons c t =>
      have happend : (if c = '$' then Inline.read? s (t ++ u) else none) =
          (if c = '$' then Inline.read? s t else none).map fun p => (p.1, p.2 ++ u) := by
        split
        · exact Inline.read?_append hu t
        · rfl
      rw [List.cons_append]
      cases hread : (if c = '$' then Inline.read? s t else none) with
      | none =>
        rw [hread] at happend
        rw [substitute_of_none hread, substitute_of_none happend, ih t.length (Nat.lt_succ_self _) t rfl,
          List.cons_append]
      | some found =>
        rw [hread] at happend
        split at hread
        · rename_i hc
          subst hc
          rw [if_pos rfl] at happend
          have hlen : found.2.length < ('$' :: t).length := by
            rw [Inline.eq_append_of_read? hread, List.length_cons, List.length_append]
            omega
          rw [substitute_of_read? hread, substitute_of_read? happend, ih _ hlen _ rfl, List.append_assoc]
        · cases hread

/-- **An inline name** becomes the value of its variable. -/
theorem substitute_name {s : Snapshot} {n : Text} (hn : Inline.IsName n) {v : Value}
    (hv : s.get? n = some v) : substitute s ('$' :: n) = v.toText := by
  have hread : Inline.read? s n = some ((n, v), []) := by
    rw [Inline.read?_eq, hn.name?_eq, Option.bind_some, hv, Option.map_some,
      List.dropWhile_eq_nil_iff.mpr hn.2.1]
  rw [substitute_of_read? hread, substitute, List.append_nil]

/-- **A text none of whose inline names is bound** is left as it is. -/
theorem substitute_of_unbound {s : Snapshot} {t : Text} (h : ∀ n ∈ Inline.names t, s.get? n = none) :
    substitute s t = t := by
  induction t with
  | nil => rw [substitute]
  | cons c t ih =>
    simp only [Inline.names, List.mem_append] at h
    have hread : (if c = '$' then Inline.read? s t else none) = none := by
      split
      · rename_i hc
        rw [Inline.read?_eq, Option.bind_eq_none_iff]
        intro n hname
        rw [h n (.inl (by rw [if_pos hc, hname]; exact List.mem_singleton_self n)), Option.map_none]
      · rfl
    rw [substitute_of_none hread, ih fun n hn => h n (.inr hn)]

/-! ### Variables of both readers -/

/-- A name that is no inline name is not looked up, even where it is the only one that is bound. -/
theorem substitute_of_not_isName {n : Text} (hn : ¬ Inline.IsName n) (v : Value) :
    (substitute (Table.empty.insert n v) ('$' :: n)).head? = some '$' := by
  have hread : Inline.read? (Table.empty.insert n v) n = none := by
    rw [Inline.read?_eq, Option.bind_eq_none_iff]
    intro m hm
    have hne : m ≠ n := by
      rintro rfl
      exact hn (Inline.isName_of_name? hm)
    rw [Table.get?_insert, if_neg hne, Table.get?_empty, Option.map_none]
  rw [substitute_of_none (by rw [if_pos rfl, hread]), List.head?_cons]

/-- **Inline names and printed names.** For every name that is read as one variable and begins with a
letter or `_`: the variable is printed whatever the letters are, and it stands for its value in running
text, at every place where its name ends, exactly if each character is a letter or digit of ASCII or `_`. -/
theorem Inline.replaces_variable_iff {n : Text} (hstart : n.head?.any Token.startsWord)
    (hread : Token.read ('$' :: n) = [⟨[], .var n, '$' :: n⟩]) :
    (∀ (w : Setting) (r : Run) (v : Value), r.store.get? n = some v →
      (printMacro w (Doc.printCall n)).run r = (v.toText, r)) ∧
    ((∀ (s : Snapshot) (v : Value) (before behind : Text), s.get? n = some v →
        behind.head?.any Token.continuesWord = false →
        substitute s (before ++ ('$' :: n ++ behind)) =
          substitute s before ++ (v.toText ++ substitute s behind)) ↔
      ∀ c ∈ n, isInlineChar c) := by
  have hvar := Token.read_eq_var_iff.mp hread
  refine ⟨fun w r v hv => ?_, fun h c hc => ?_, fun h s v before behind hv hends => ?_⟩
  · rw [printMacro_printCall w hvar]
    change (((r.store.lookup? n).map Value.toText).getD [], r) = _
    rw [Snapshot.lookup?_eq, hvar.bareName, hv]
    rfl
  -- In the store that binds the name alone nothing is replaced, so the `$` stays.
  · by_contra hinline
    have hname : ¬ IsName n := fun hn => hinline (hn.2.1 c hc)
    have hempty := h (Table.empty.insert n (.text [])) (.text []) [] []
      (by rw [Table.get?_insert, if_pos rfl]) rfl
    have hdollar := substitute_of_not_isName hname (.text [])
    rw [List.append_nil, List.nil_append, substitute] at hempty
    rw [hempty] at hdollar
    cases hdollar
  · rw [substitute_append rfl, substitute_append (ends_of_continuesWord hends),
      substitute_name (isName_of_startsWord hstart h) hv]

/-- A name of ASCII in front of an apostrophe, which ends it. -/
theorem Inline.replaces_variable_iff_possessive :
    "crew_2".toList.head?.any Token.startsWord ∧
    Token.read ('$' :: "crew_2".toList) = [⟨[], .var "crew_2".toList, '$' :: "crew_2".toList⟩] ∧
    substitute (Table.empty.insert "crew_2".toList (.text "Ann".toList)) "Is it $crew_2's?".toList =
      "Is it Ann's?".toList := by
  have hstart : "crew_2".toList.head?.any Token.startsWord := by decide +kernel
  have hread : Token.read ('$' :: "crew_2".toList) =
      [⟨[], .var "crew_2".toList, '$' :: "crew_2".toList⟩] :=
    Token.read_eq_var_iff.mpr (by decide +kernel)
  have hchars : ∀ c ∈ "crew_2".toList, isInlineChar c := List.all_eq_true.mp (by decide)
  have hreplaced := (Inline.replaces_variable_iff hstart hread).2.mpr hchars
    (Table.empty.insert "crew_2".toList (.text "Ann".toList)) (.text "Ann".toList) "Is it ".toList
    "'s?".toList (by rw [Table.get?_insert, if_pos rfl]) (by decide +kernel)
  refine ⟨hstart, hread, hreplaced.trans ?_⟩
  decide +kernel

/-- Of a name with a letter outside of ASCII only the front is looked up, as another variable, or nothing
is; it is printed as the variable that it names. -/
theorem Inline.not_replaces_variable :
    let s : Snapshot := (Table.empty.insert "né".toList (.text "x".toList)).insert "n".toList
      (.text "y".toList)
    let e : Snapshot := Table.empty.insert "é".toList (.text "x".toList)
    Token.read "$né".toList = [⟨[], .var "né".toList, "$né".toList⟩] ∧
      "né".toList.head?.any Token.startsWord ∧ s.get? "né".toList = some (.text "x".toList) ∧
      substitute s "$né".toList = "yé".toList ∧
      ((printMacro ⟨[], Table.empty, fun _ => 0, {}⟩ (Doc.printCall "né".toList)).run ⟨s, 0⟩).1 =
        "x".toList ∧
      substitute e "$é".toList = "$é".toList ∧
      ((printMacro ⟨[], Table.empty, fun _ => 0, {}⟩ (Doc.printCall "é".toList)).run ⟨e, 0⟩).1 =
        "x".toList := by
  refine ⟨Token.read_eq_var_iff.mpr (by decide +kernel), by decide +kernel, ?_, by decide +kernel⟩
  rw [Table.get?_insert, if_neg (by decide), Table.get?_insert, if_pos rfl]

end Hyperfiction

import Hyperfiction.Proofs.Assignment.Calls
import Hyperfiction.Proofs.Expr.Kinds
import Hyperfiction.Proofs.Table
import Mathlib.Data.List.ReduceOption

/-!
# Keys and values in place

The arguments of a map take turns as keys and values. Those without a value are left out before they are
paired, where a map is assigned and where it is evaluated, so what stands behind one of them moves up a
place. The pairs are those of the arguments as written (`Value.pairsInPlace`) as long as the two sides of a
pair are both there or both missing; behind the first pair of which one side is missing nothing may have a
value (`Value.aligned`). Whatever else is missing, there are arguments that are paired wrong
(`Assignment.merge_in_place_iff`): words, in a sum that is written out and read back
(`Expr.ofText?_writtenSum`).
-/

namespace Hyperfiction

namespace Value

/-! ### Pairs -/

/-- Entries from keys and values in places that take turns. A pair with a side missing makes none. -/
def pairsInPlace : List (Option Value) → List (Text × Value)
  | some key :: some v :: rest => (key.toText, v) :: pairsInPlace rest
  | _ :: _ :: rest => pairsInPlace rest
  | _ => []

/-- Do the values that are there keep their places in pairs when the places without a value are left out? -/
def aligned : List Bool → Bool
  | key :: v :: rest => if key = v then aligned rest else rest.all not
  | _ => true

/-- Two neighbours make an entry if both have values. -/
theorem pairsInPlace_cons_cons (a b : Option Value) (rest : List (Option Value)) :
    pairsInPlace (a :: b :: rest) =
      (a.bind fun key => b.map fun v => (key.toText, v)).toList ++ pairsInPlace rest := by
  cases a <;> cases b <;> rfl

/-- The entries are the pairs of places that both have a value. -/
theorem mem_pairsInPlace_iff {vs : List (Option Value)} {e : Text × Value} :
    e ∈ pairsInPlace vs ↔ ∃ i key v, vs[2 * i]? = some (some key) ∧ vs[2 * i + 1]? = some (some v) ∧
      e = (key.toText, v) := by
  match vs with
  | [] => simp [pairsInPlace]
  | [_] => simp [pairsInPlace]
  | a :: b :: rest =>
    rw [pairsInPlace_cons_cons, List.mem_append, mem_pairsInPlace_iff]
    constructor
    · rintro (h | ⟨i, key, v, hkey, hv, rfl⟩)
      · obtain ⟨key, hkey, h⟩ := Option.bind_eq_some_iff.mp (Option.mem_toList.mp h)
        obtain ⟨v, hv, rfl⟩ := Option.map_eq_some_iff.mp h
        exact ⟨0, key, v, congrArg some hkey, congrArg some hv, rfl⟩
      · exact ⟨i + 1, key, v, hkey, hv, rfl⟩
    · rintro ⟨i, key, v, hkey, hv, rfl⟩
      cases i with
      | zero =>
        obtain rfl := Option.some.inj hkey
        obtain rfl := Option.some.inj hv
        exact .inl List.mem_cons_self
      | succ i => exact .inr ⟨i, key, v, hkey, hv, rfl⟩

/-- Each key is the text of a value. -/
theorem exists_of_mem_pairsInPlace {vs : List (Option Value)} {e : Text × Value} (h : e ∈ pairsInPlace vs) :
    ∃ key, some key ∈ vs ∧ e.1 = key.toText := by
  obtain ⟨i, key, v, hkey, -, rfl⟩ := mem_pairsInPlace_iff.mp h
  exact ⟨key, List.mem_of_getElem? hkey, rfl⟩

theorem pairsInPlace_of_none {vs : List (Option Value)} (h : ∀ v ∈ vs, v = none) : pairsInPlace vs = [] := by
  refine List.eq_nil_iff_forall_not_mem.mpr fun e he => ?_
  obtain ⟨key, hkey, -⟩ := exists_of_mem_pairsInPlace he
  cases h _ hkey

theorem all_not_iff {vs : List (Option Value)} : (vs.map Option.isSome).all not ↔ ∀ v ∈ vs, v = none := by
  simp

/-- **Pairs keep their places** if the values that are there are aligned. -/
theorem pairs_reduceOption {vs : List (Option Value)} (h : aligned (vs.map Option.isSome)) :
    pairs vs.reduceOption = pairsInPlace vs := by
  -- Behind a pair of which one side is missing nothing is left, and a value alone makes no entry.
  have hrest {rest : List (Option Value)} (h : (rest.map Option.isSome).all not) :
      rest.reduceOption = [] ∧ pairsInPlace rest = [] :=
    ⟨List.filterMap_eq_nil_iff.mpr (all_not_iff.mp h), pairsInPlace_of_none (all_not_iff.mp h)⟩
  match vs with
  | [] => rfl
  | [none] => rfl
  | [some _] => rfl
  | none :: none :: rest => exact @pairs_reduceOption rest h
  | some key :: some v :: rest => exact congrArg ((key.toText, v) :: ·) (@pairs_reduceOption rest h)
  | some key :: none :: rest =>
    obtain ⟨hnone, hpairs⟩ := hrest h
    rw [List.reduceOption_cons_of_some, List.reduceOption_cons_of_none, hnone, pairsInPlace_cons_cons, hpairs]
    rfl
  | none :: some v :: rest =>
    obtain ⟨hnone, hpairs⟩ := hrest h
    rw [List.reduceOption_cons_of_none, List.reduceOption_cons_of_some, hnone, pairsInPlace_cons_cons, hpairs]
    rfl

/-! ### Values out of place -/

/-- The text, if it is there. -/
def given (t : Text) (has : Bool) : Option Text := if has then some t else none

/-- Texts in some of the places: `a` in the first pair of which one side is missing, `b` everywhere else. -/
def shifted : List Bool → List (Option Text)
  | key :: v :: rest =>
    if key = v then given ['b'] key :: given ['b'] v :: shifted rest
    else given ['a'] key :: given ['a'] v :: rest.map (given ['b'])
  | rest => rest.map (given ['b'])

theorem isSome_given (t : Text) (has : Bool) : (given t has).isSome = has := by cases has <;> rfl

theorem map_isSome_given (t : Text) (has : List Bool) :
    (has.map (given t)).map Option.isSome = has := by
  rw [List.map_map]
  exact (List.map_congr_left fun b _ => isSome_given t b).trans (List.map_id has)

theorem map_isSome_shifted (has : List Bool) : (shifted has).map Option.isSome = has := by
  match has with
  | [] => rfl
  | [has] => exact map_isSome_given ['b'] [has]
  | key :: v :: rest =>
    rw [shifted]
    split
    · simp only [List.map_cons, isSome_given, map_isSome_shifted rest]
    · simp only [List.map_cons, isSome_given, map_isSome_given]

theorem eq_of_given {t u : Text} {has : Bool} (h : some u = given t has) : u = t := by
  cases has with
  | false => cases h
  | true => exact Option.some.inj h

theorem eq_of_mem_given {t u : Text} {has : List Bool} (h : some u ∈ has.map (given t)) : u = t := by
  obtain ⟨b, -, hb⟩ := List.mem_map.mp h
  exact eq_of_given hb.symm

/-- There are no other texts. -/
theorem eq_of_mem_shifted {has : List Bool} {t : Text} (h : some t ∈ shifted has) :
    t = ['a'] ∨ t = ['b'] := by
  match has with
  | [] => cases h
  | [_] => exact .inr (eq_of_mem_given h)
  | key :: v :: rest =>
    rw [shifted] at h
    split at h
    · rw [List.mem_cons, List.mem_cons] at h
      rcases h with h | h | h
      · exact .inr (eq_of_given h)
      · exact .inr (eq_of_given h)
      · exact eq_of_mem_shifted h
    · rw [List.mem_cons, List.mem_cons] at h
      rcases h with h | h | h
      · exact .inl (eq_of_given h)
      · exact .inl (eq_of_given h)
      · exact .inr (eq_of_mem_given h)

/-- All these texts are words. -/
theorem isWord_of_mem_shifted (has : List Bool) (t : Text) (h : some t ∈ shifted has) : Text.IsWord t := by
  rcases eq_of_mem_shifted h with rfl | rfl <;> decide +kernel

theorem map_isSome_values (ts : List (Option Text)) :
    (ts.map (Option.map text)).map Option.isSome = ts.map Option.isSome := by
  rw [List.map_map]
  exact List.map_congr_left fun t _ => Option.isSome_map

/-- In its place no `a` is the key of a pair. -/
theorem ne_of_mem_pairsInPlace_shifted {has : List Bool} {e : Text × Value}
    (h : e ∈ pairsInPlace ((shifted has).map (Option.map text))) : e.1 ≠ ['a'] := by
  have hb {key : Value} (hkey : key = .text ['b']) : key.toText ≠ ['a'] := by
    rw [hkey]
    exact (by decide : ['b'] ≠ ['a'])
  match has with
  | [] => exact absurd h List.not_mem_nil
  | [b] => cases b <;> exact absurd h List.not_mem_nil
  | true :: true :: rest =>
    rcases List.mem_cons.mp h with rfl | h
    · exact hb rfl
    · exact ne_of_mem_pairsInPlace_shifted h
  | false :: false :: rest => exact @ne_of_mem_pairsInPlace_shifted rest e h
  -- The pair of the `a` has a side missing, and behind it there are no keys but `b`.
  | true :: false :: rest | false :: true :: rest =>
    obtain ⟨key, hmem, hkey⟩ :=
      @exists_of_mem_pairsInPlace ((rest.map (given ['b'])).map (Option.map text)) e h
    obtain ⟨o, ho, hvalue⟩ := List.mem_map.mp hmem
    obtain ⟨u, rfl, rfl⟩ := Option.map_eq_some_iff.mp hvalue
    rw [hkey]
    exact hb (congrArg text (eq_of_mem_given ho))

/-- With what is missing left out, an `a` is the key of a pair. -/
theorem exists_mem_pairs_shifted {has : List Bool} (h : ¬ aligned has) :
    ∃ e ∈ pairs ((shifted has).map (Option.map text)).reduceOption, e.1 = ['a'] := by
  -- Behind the pair with a side missing there is a value left, which the `a` is paired with.
  have hrest (rest : List Bool) (h : ¬ rest.all not) :
      ∃ v vs, ((rest.map (given ['b'])).map (Option.map text)).reduceOption = v :: vs := by
    refine List.exists_cons_of_ne_nil fun hnil => h (List.all_eq_true.mpr fun b hb => ?_)
    have hnone := List.filterMap_eq_nil_iff.mp hnil _
      (List.mem_map_of_mem (List.mem_map_of_mem hb))
    cases b with
    | false => rfl
    | true => cases hnone
  match has with
  | [] | [_] => exact absurd rfl h
  | true :: true :: rest =>
    obtain ⟨e, he, hkey⟩ := @exists_mem_pairs_shifted rest h
    exact ⟨e, List.mem_cons_of_mem _ he, hkey⟩
  | false :: false :: rest => exact @exists_mem_pairs_shifted rest h
  | true :: false :: rest | false :: true :: rest =>
    obtain ⟨v, vs, hleft⟩ := hrest rest h
    refine ⟨(['a'], v), ?_, rfl⟩
    change _ ∈ pairs (text ['a'] :: ((rest.map (given ['b'])).map (Option.map text)).reduceOption)
    rw [hleft]
    exact List.mem_cons_self

/-- **Pairs lose their places** if the values that are there are not aligned. -/
theorem insertAll_pairs_ne {has : List Bool} (h : ¬ aligned has) :
    Entries.insertAll [] (pairs ((shifted has).map (Option.map text)).reduceOption) ≠
      Entries.insertAll [] (pairsInPlace ((shifted has).map (Option.map text))) := by
  intro heq
  have hbound := (Entries.isSome_get?_insertAll_iff [] _ ['a']).mpr (.inl (exists_mem_pairs_shifted h))
  rw [heq, Entries.isSome_get?_insertAll_iff] at hbound
  rcases hbound with ⟨e, he, hkey⟩ | hnil
  · exact ne_of_mem_pairsInPlace_shifted he hkey
  · cases hnil

end Value

/-! ### Arguments -/

/-- The entries of the map that a variable holds, or none. -/
def Snapshot.entriesOf (s : Snapshot) (name : Text) : Entries Value :=
  match s.lookup? name with
  | some (.map es) => es
  | _ => []

namespace Expr

/-- A word as an argument, or an argument that never has a value. -/
def wordOrIt : Option Text → Expr
  | some t => .word t
  | none => .it

theorem literal?_wordOrIt (s : Snapshot) (t : Option Text) : s.literal? (wordOrIt t) = t.map .text := by
  cases t <;> rfl

/-- An assignment reads a word for each value that is there, and nothing for the others. -/
theorem map_literal?_wordOrIt (s : Snapshot) (ts : List (Option Text)) :
    (ts.map wordOrIt).map s.literal? = ts.map (Option.map .text) := by
  rw [List.map_map]
  exact List.map_congr_left fun t _ => literal?_wordOrIt s t

/-- Evaluation gives the same values as assignments read, and draws nothing. -/
theorem mapM_evaluate_wordOrIt (w : Setting) (ts : List (Option Text)) :
    (ts.map wordOrIt).mapM (evaluate w) = pure (ts.map (Option.map .text)) := by
  induction ts with
  | nil => rfl
  | cons t ts ih =>
    have hone : (wordOrIt t).evaluate w = pure (t.map .text) := by
      cases t <;> (rw [wordOrIt, evaluate]; rfl)
    rw [List.map_cons, List.mapM_cons, hone, ih, pure_bind, pure_bind, List.map_cons]

/-- Those arguments that have a value are evaluated to the values that are there. -/
theorem evaluateAll_eq_mapM (w : Setting) (args : List Expr) :
    evaluateAll w args = List.reduceOption <$> args.mapM (evaluate w) := by
  induction args with
  | nil => rw [evaluateAll]; rfl
  | cons a args ih =>
    rw [evaluateAll, List.mapM_cons, ih]
    simp only [map_eq_pure_bind, bind_assoc, pure_bind]
    refine bind_congr fun v => bind_congr fun vs => ?_
    cases v <;> rfl

/-- A map that is evaluated has the pairs of the values that are there. -/
theorem evaluate_map {w : Setting} {name : Text} (hname : Callee.ofName? name = some .map)
    (args : List Expr) {r after : Run} {values : List (Option Value)}
    (h : (args.mapM (evaluate w)).run r = (values, after)) :
    ((call name args).evaluate w).run r =
      (some (.map (Entries.insertAll [] (Value.pairs values.reduceOption))), after) := by
  rw [evaluate, hname]
  simp only [evaluateAll_eq_mapM]
  rw [StateT.run_bind, StateT.run_map, h]
  rfl

/-! ### Sums with a map as they are written -/

/-- A word or `it`, as an argument is written. -/
def writtenArgument (t : Option Text) : Text := t.getD "it".toList

/-- Arguments with a comma behind each. -/
def writtenArguments (ts : List (Option Text)) : Text := ts.flatMap fun t => writtenArgument t ++ [',']

/-- The tokens of an argument and its comma. -/
def argumentTokens (t : Option Text) : List Token :=
  [⟨[], Token.kindOfWord (writtenArgument t), writtenArgument t⟩, ⟨[], .comma, [',']⟩]

/-- A variable and a map with words for arguments, as their sum is written. -/
def writtenSum (source : Text) (ts : List (Option Text)) : Text :=
  '$' :: (source ++ ' ' :: '+' :: ' ' :: '(' :: ("dm".toList ++ ':' :: (writtenArguments ts ++ [')'])))

/-- A word is read for itself, and `it` as what it is. -/
theorem reads_writtenArgument {t : Option Text} (h : ∀ w, t = some w → Text.IsWord w) :
    Token.Reads (writtenArgument t) [Token.kindOfWord (writtenArgument t)] ∧
      leaf? (Token.kindOfWord (writtenArgument t)) = some (wordOrIt t) := by
  cases t with
  | none => exact ⟨Token.reads_keyword (t := "it".toList) (by decide), rfl⟩
  | some t =>
    change Token.Reads t [Token.kindOfWord t] ∧ leaf? (Token.kindOfWord t) = _
    rw [Token.kindOfWord_of_isWord (h t rfl)]
    exact ⟨Token.reads_word ⟨t, h t rfl⟩, rfl⟩

section Written

variable {ts : List (Option Text)} (h : ∀ t, some t ∈ ts → Text.IsWord t)
include h

/-- **Arguments are read** with their commas, and they are those of a call. -/
theorem reads_writtenArguments :
    Token.Reads (writtenArguments ts ++ [')']) ((ts.flatMap argumentTokens).map Token.kind ++ [.rightParen]) ∧
      Argue ((ts.flatMap argumentTokens).map Token.kind) (ts.map wordOrIt) := by
  induction ts with
  | nil => exact ⟨.rightParen, .none⟩
  | cons t ts ih =>
    obtain ⟨hread, hleaf⟩ := @reads_writtenArgument t fun w hw => h w (by rw [hw]; exact List.mem_cons_self)
    obtain ⟨hmore, hargue⟩ := ih fun w hw => h w (List.mem_cons_of_mem _ hw)
    refine ⟨?_, .next (Symbol.Derives.leaf hleaf).unsigned.alone hargue⟩
    rw [writtenArguments, List.flatMap_cons, ← writtenArguments, List.append_assoc, List.append_assoc]
    exact hread.append (.sign (c := ',') (by decide) rfl hmore) (Token.ends_sign (by decide) _)

variable {source : Text} (hsource : Text.IsVariable source)
include hsource

/-- **A sum with a map is read as it is written.** -/
theorem ofText?_writtenSum :
    ofText? (writtenSum source ts) =
      some (.binary .add (.var source) (.call "dm".toList (ts.map wordOrIt))) := by
  obtain ⟨hread, hargue⟩ := reads_writtenArguments h
  have hmap : ¬ AsksVisits "dm".toList := show "dm".toList ∉ queryNames by decide
  let blank : Gap := ⟨[' '], List.forall_mem_singleton.mpr (by decide)⟩
  exact ofText?_of_reads
    ((Token.reads_variable ⟨source, hsource⟩).operation
      (.call ⟨"dm".toList, by decide +kernel⟩ hread) (List.cons_ne_nil _ _) .add blank blank)
    (.binary .add (.unsigned (.leaf rfl)) (.unsigned (.call hmap hargue)))

end Written

end Expr

namespace Assignment

/-- A sum with a map that is assigned has the pairs of what an assignment reads on top of the entries of the
source. -/
theorem assigns_merge {x t name : Text} {left : Expr} {source : Source} {args : List Expr}
    (hx : x.IsVariable) (ht : Expr.ofText? t = some (.binary .add left (.call name args)))
    (hsource : Source.ofExpr? left = some source) (hname : Callee.ofName? name = some .map) (w : Setting)
    (r : Run) :
    Assigns w x t r (.map (Entries.insertAll (r.store.entriesOf (source.name x))
      (Value.pairs (args.map r.store.literal?).reduceOption))) r := by
  have hright : RightSide.ofExpr? (.binary .add left (.call name args)) = some (.merge source args) := by
    simp only [RightSide.ofExpr?, hsource, hname, if_true]
  refine assigns_of_value hx ht hright ?_
  rw [List.reduceOption, List.filterMap_map]
  rfl

/-- **A map has its pairs in place** exactly if the arguments that have a value are aligned. What is laid
over the entries of the source, where a text assigns a sum with a map, and what makes up a map that is
evaluated are then the pairs of an even place and the one behind it that both have a value, later pairs on
top; and where the arguments are not aligned, some are paired otherwise. -/
theorem merge_in_place_iff (has : List Bool) :
    ((∀ (w : Setting) (r : Run) (x t name : Text) (left : Expr) (source : Source) (args : List Expr),
        x.IsVariable → Expr.ofText? t = some (.binary .add left (.call name args)) →
        Source.ofExpr? left = some source → Callee.ofName? name = some .map →
        (args.map r.store.literal?).map Option.isSome = has →
        Assigns w x t r (.map (Entries.insertAll (r.store.entriesOf (source.name x))
          (Value.pairsInPlace (args.map r.store.literal?)))) r) ↔
      Value.aligned has) ∧
    ((∀ (w : Setting) (r after : Run) (name : Text) (args : List Expr) (values : List (Option Value)),
        Callee.ofName? name = some .map → (args.mapM (Expr.evaluate w)).run r = (values, after) →
        values.map Option.isSome = has →
        ((Expr.call name args).evaluate w).run r =
          (some (.map (Entries.insertAll [] (Value.pairsInPlace values))), after)) ↔
      Value.aligned has) := by
  let w : Setting := ⟨[], Table.empty, fun _ => 0, {}⟩
  let r : Run := ⟨Table.empty, 0⟩
  have hhas : ((Value.shifted has).map (Option.map Value.text)).map Option.isSome = has := by
    rw [Value.map_isSome_values, Value.map_isSome_shifted]
  refine ⟨⟨fun h => ?_, fun h w r x t name left source args hx ht hsource hname hhas => ?_⟩,
    ⟨fun h => ?_, fun h w r after name args values hname hvalues hhas => ?_⟩⟩
  -- With words for the arguments that have a value, as a sum is written and as a call is evaluated.
  · by_contra hnot
    have hx : Text.IsVariable "t".toList := by decide +kernel
    have hs : Text.IsVariable "s".toList := by decide +kernel
    have ht := Expr.ofText?_writtenSum (Value.isWord_of_mem_shifted has) hs
    have hread := Expr.map_literal?_wordOrIt Table.empty (Value.shifted has)
    have hin := h w r _ _ _ _ _ _ hx ht rfl rfl (by rw [hread, hhas])
    have hout := assigns_merge hx ht rfl rfl w r
    rw [hread] at hin hout
    exact Value.insertAll_pairs_ne hnot (Value.map.inj (eq_of_assigns hout hin rfl).1)
  · subst hhas
    rw [← Value.pairs_reduceOption h]
    exact assigns_merge hx ht hsource hname w r
  · by_contra hnot
    have hvalues := congrArg (StateT.run · r) (Expr.mapM_evaluate_wordOrIt w (Value.shifted has))
    have hin := h w r _ "dm".toList _ _ rfl hvalues hhas
    rw [Expr.evaluate_map rfl _ hvalues] at hin
    exact Value.insertAll_pairs_ne hnot (Value.map.inj (Option.some.inj (Prod.mk.inj hin).1))
  · subst hhas
    rw [Expr.evaluate_map hname args hvalues, Value.pairs_reduceOption h]

/-- A pair without values behind a whole one, and a key at the end that is left over. -/
theorem merge_in_place_iff_whole :
    let w : Setting := ⟨[], Table.empty, fun _ => 0, {}⟩
    let r : Run := ⟨Table.empty.insert "s".toList (.map [("def".toList, .text "1".toList)]), 0⟩
    let t := "$s + (dm:hp,ten,it,it,mp,)".toList
    let args : List Expr := [.word "hp".toList, .word "ten".toList, .it, .it, .word "mp".toList]
    let values : List (Option Value) := [some (.text "hp".toList), some (.text "ten".toList), none, none,
      some (.text "mp".toList)]
    Text.IsVariable "t".toList ∧
      Expr.ofText? t = some (.binary .add (.var "s".toList) (.call "dm".toList args)) ∧
      args.map r.store.literal? = values ∧ (args.mapM (Expr.evaluate w)).run r = (values, r) ∧
      Value.aligned (values.map Option.isSome) ∧
      Assigns w "t".toList t r (.map (Entries.insertAll [("def".toList, .text "1".toList)]
        [("hp".toList, .text "ten".toList)])) r ∧
      ((Expr.call "dm".toList args).evaluate w).run r =
        (some (.map (Entries.insertAll [] [("hp".toList, .text "ten".toList)])), r) := by
  intro w r t args values
  have hx : Text.IsVariable "t".toList := by decide +kernel
  have hs : Text.IsVariable "s".toList := by decide +kernel
  have hwords : [some "hp".toList, some "ten".toList, none, none, some "mp".toList].all
      fun o => o.all fun u => decide (Text.IsWord u) := by
    decide +kernel
  have ht : Expr.ofText? t = some (.binary .add (.var "s".toList) (.call "dm".toList args)) :=
    Expr.ofText?_writtenSum (fun u hu => of_decide_eq_true (List.all_eq_true.mp hwords (some u) hu)) hs
  have hread : args.map r.store.literal? = values := rfl
  have hvalues : (args.mapM (Expr.evaluate w)).run r = (values, r) :=
    congrArg (StateT.run · r) (Expr.mapM_evaluate_wordOrIt w
      [some "hp".toList, some "ten".toList, none, none, some "mp".toList])
  have haligned : Value.aligned (values.map Option.isSome) := rfl
  exact ⟨hx, ht, hread, hvalues, haligned,
    (merge_in_place_iff _).1.mpr haligned w r _ _ _ _ _ _ hx ht rfl rfl rfl,
    (merge_in_place_iff _).2.mpr haligned w r r _ args values rfl hvalues rfl⟩

/-- A variable without a value among the arguments: the key in front of it is paired with the key behind
it, where a map is assigned and where it is evaluated. -/
theorem not_merge_in_place :
    let w : Setting := ⟨[], Table.empty, fun _ => 0, {}⟩
    let r : Run := ⟨Table.empty, 0⟩
    let values : List (Option Value) := [some (.text "hp".toList), none, some (.text "mp".toList),
      some (.text "4".toList)]
    let assigned := ((runText w.words "$t to $s + (dm: \"hp\", $ghost, \"mp\", \"4\")".toList).run r).2
    let evaluated := (Expr.ofText? "(dm: \"hp\", $ghost, \"mp\", \"4\")".toList).map fun e =>
      ((e.evaluate w).run r).1.map Value.toText
    (assigned.store.get? "t".toList).map Value.toText = some "hp: mp".toList ∧
      evaluated = some (some "hp: mp".toList) ∧
      Value.toText (.map (Entries.insertAll [] (Value.pairsInPlace values))) = "mp: 4".toList := by
  decide +kernel

end Assignment

end Hyperfiction

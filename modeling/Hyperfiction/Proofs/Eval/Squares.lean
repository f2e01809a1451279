import Hyperfiction.Proofs.Expr.Grammar
import Hyperfiction.Proofs.InPlace.Assignments
import Hyperfiction.Proofs.Markup.Whole
import Hyperfiction.Proofs.Render.Printed
import Hyperfiction.Proofs.Table

/-!
# Values without square brackets

Evaluation makes no square brackets: where none are in the values of the variables nor in the arguments of a
macro, none are in what it writes (`printMacro_noSquare`) or binds (`Assignment.runText_noSquare`). Numbers have
digits for a text, and lists and maps the texts of what is in them; every other text of a value is one of the
variables' or stands in the arguments.
-/

namespace Hyperfiction

open Text (NoSquare)

/-! ### Numbers -/

namespace Text

theorem noSquare_of_isDigit {t : Text} (h : ∀ c ∈ t, c.isDigit) : NoSquare t :=
  ⟨fun hmem => absurd (h _ hmem) (by decide), fun hmem => absurd (h _ hmem) (by decide)⟩

theorem NoSquare.cons {c : Char} {t : Text} (hc : c ≠ '[' ∧ c ≠ ']') (ht : t.NoSquare) : NoSquare (c :: t) :=
  ⟨List.not_mem_cons_of_ne_of_not_mem hc.1.symm ht.1, List.not_mem_cons_of_ne_of_not_mem hc.2.symm ht.2⟩

/-- What joins texts is between them. -/
theorem noSquare_intercalate_iff {sep : Text} (hsep : sep.NoSquare) {parts : List Text} :
    NoSquare (sep.intercalate parts) ↔ ∀ part ∈ parts, NoSquare part := by
  induction parts with
  | nil => exact iff_of_true .nil nofun
  | cons part parts ih =>
    cases parts with
    | nil => simp
    | cons next parts =>
      rw [List.intercalate_cons_cons, NoSquare.append_iff, NoSquare.append_iff, ih, List.forall_mem_cons (a := part)]
      exact ⟨fun h => ⟨h.1.1, h.2⟩, fun h => ⟨⟨h.1, hsep⟩, h.2⟩⟩

end Text

namespace Decimal

/-- The digits of a number are digits, without the zeros at the end, too. -/
private theorem isDigit_stripped {n : ℕ} {c : Char} (h : c ∈ stripped n) : c.isDigit := by
  rw [stripped, List.mem_reverse] at h
  have hmem := (List.dropWhile_sublist _).subset h
  rw [List.mem_reverse] at hmem
  exact Nat.isDigit_of_mem_toDigits (by decide) (by decide) hmem

private theorem exists_stripped_of_onGrid? {tie : Tie} {m lo hi n : ℕ} {s : Scale} {point : Int} {d : Decimal}
    (h : onGrid? tie m lo hi s point n = some d) : ∃ k, d.digits = stripped k := by
  simp only [onGrid?] at h
  repeat' split at h
  all_goals cases h
  all_goals exact ⟨_, rfl⟩

/-- The shortest decimal has the digits of a number. -/
private theorem exists_stripped (tie : Tie) (b : Binary) : ∃ n, (shortest tie b).digits = stripped n := by
  simp only [shortest, List.headD_eq_head?_getD]
  generalize htries : List.filterMap _ _ = tries
  cases tries with
  | nil => exact ⟨_, rfl⟩
  | cons d tries =>
    have hmem : d ∈ d :: tries := List.mem_cons_self
    rw [← htries, List.mem_filterMap] at hmem
    obtain ⟨n, -, hn⟩ := hmem
    exact exists_stripped_of_onGrid? hn

private theorem noSquare_positional (d : Decimal) (h : NoSquare d.digits) : NoSquare d.positional := by
  have hzeros (n : ℕ) : NoSquare (List.replicate n '0') :=
    Text.noSquare_of_isDigit fun c hc => by rw [List.eq_of_mem_replicate hc]; decide
  simp only [positional]
  split
  · exact .cons (by decide) (.cons (by decide) ((hzeros _).append h))
  · split
    · exact h.append (hzeros _)
    · refine NoSquare.append ?_ (.cons (by decide) ?_)
      · exact h.of_subset fun c hc => (List.take_sublist _ _).subset hc
      · exact h.of_subset fun c hc => (List.drop_sublist _ _).subset hc

end Decimal

/-- **The text of a number** has no square brackets. -/
theorem Number.noSquare_toText (x : Float) : NoSquare (Number.toText x) := by
  have hsigned (negative : Bool) {t : Text} (ht : t.NoSquare) : NoSquare (signed negative t) := by
    rw [signed]
    split
    · exact .cons (by decide) ht
    · exact ht
  rw [toText]
  split
  · decide
  · rw [toDigits]
    split
    · decide
    · exact hsigned _ (by decide)
    · refine hsigned _ ?_
      split
      · decide
      · obtain ⟨n, hn⟩ := Decimal.exists_stripped .away ‹Binary›
        refine Decimal.noSquare_positional _ ?_
        rw [hn]
        exact Text.noSquare_of_isDigit fun c => Decimal.isDigit_stripped

/-! ### Values -/

namespace Entries

/-- The entries of a map with others put into it are from either. -/
theorem mem_insertAll {α : Type} {es new : Entries α} {e : Text × α} (h : e ∈ insertAll es new) :
    e ∈ es ∨ e ∈ new := by
  induction new generalizing es with
  | nil => exact .inl h
  | cons f new ih =>
    have h : e ∈ insertAll (insert es f.1 f.2) new := h
    rcases ih h with hmem | hmem
    · rcases mem_insert hmem with rfl | hmem
      · exact .inr List.mem_cons_self
      · exact .inl hmem
    · exact .inr (List.mem_cons_of_mem f hmem)

end Entries

namespace Value

variable {v w u : Value} {vs : List Value} {es : Entries Value}

/-- The text of the value has no square brackets. -/
def NoSquare (v : Value) : Prop := v.toText.NoSquare

theorem itemTexts_eq_map (vs : List Value) : itemTexts vs = vs.map toText := by
  induction vs with
  | nil => rfl
  | cons v vs ih => rw [itemTexts, ih, List.map_cons]

theorem entryTexts_eq_map (es : Entries Value) :
    entryTexts es = es.map fun e => e.1 ++ ':' :: ' ' :: e.2.toText := by
  induction es with
  | nil => rfl
  | cons e es ih => rw [entryTexts, ih, List.map_cons]

theorem noSquare_number (x : Float) : NoSquare (.number x) := Number.noSquare_toText x

theorem noSquare_boolean (b : Bool) : NoSquare (.boolean b) := by
  cases b <;> exact show Text.NoSquare _ by decide

/-- A list has no square brackets if none of its items has any. -/
theorem noSquare_list_iff : NoSquare (.list vs) ↔ ∀ v ∈ vs, v.NoSquare := by
  rw [NoSquare, toText, Text.noSquare_intercalate_iff (by decide), itemTexts_eq_map, List.forall_mem_map]
  rfl

/-- A map has no square brackets if none of its keys and values has any. -/
theorem noSquare_map_iff : NoSquare (.map es) ↔ ∀ e ∈ es, e.1.NoSquare ∧ e.2.NoSquare := by
  rw [NoSquare, toText, Text.noSquare_intercalate_iff (by decide), entryTexts_eq_map, List.forall_mem_map]
  refine forall₂_congr fun e _ => ?_
  have hcolon : ∀ t : Text, Text.NoSquare (':' :: ' ' :: t) ↔ t.NoSquare := fun t =>
    ⟨fun h => h.of_subset fun c hc => List.mem_cons_of_mem _ (List.mem_cons_of_mem _ hc),
      fun h => .cons (by decide) (.cons (by decide) h)⟩
  rw [Text.NoSquare.append_iff, hcolon]
  rfl

theorem noSquare_pairs (h : ∀ v ∈ vs, v.NoSquare) : ∀ e ∈ pairs vs, e.1.NoSquare ∧ e.2.NoSquare := by
  induction vs using pairs.induct with
  | case1 key v rest ih =>
    intro e he
    rw [pairs] at he
    rcases List.mem_cons.mp he with rfl | he
    · exact ⟨h key (by simp), h v (by simp)⟩
    · exact ih (fun v hv => h v (by simp [hv])) e he
  | case2 vs hne =>
    intro e he
    rw [pairs] at he
    · cases he
    · exact hne

/-- Joined values have no square brackets if neither of the two has any. -/
theorem NoSquare.joined (hv : v.NoSquare) (hw : w.NoSquare) (h : joined? v w = some u) : u.NoSquare := by
  unfold joined? at h
  split at h
  · obtain rfl := Option.some.inj h
    rw [noSquare_list_iff] at hv hw ⊢
    exact fun v hmem => (List.mem_append.mp hmem).elim (hv v) (hw v)
  · obtain rfl := Option.some.inj h
    rw [noSquare_map_iff] at hv hw ⊢
    exact fun e hmem => (Entries.mem_insertAll hmem).elim (hv e) (hw e)
  · obtain rfl := Option.some.inj h
    exact Text.NoSquare.append hv hw
  · obtain rfl := Option.some.inj h
    exact Text.NoSquare.append hv hw
  · cases h

/-- **Operations** make no square brackets. -/
theorem NoSquare.operate {op : Operation} (hv : v.NoSquare) (hw : w.NoSquare)
    (h : operate? op v w = some u) : u.NoSquare := by
  unfold operate? at h
  split at h
  · obtain ⟨x, -, rfl⟩ := Option.map_eq_some_iff.mp h
    exact noSquare_number x
  · split at h
    · exact hv.joined hw h
    · cases h

/-- The property of a value has no square brackets if the value has none. -/
theorem NoSquare.property {index : Expr} (hv : v.NoSquare) (h : v.property index = some (some u)) :
    u.NoSquare := by
  have hget {es : Entries Value} {key : Text} (hes : NoSquare (.map es)) (h : Entries.get? es key = some u) :
      u.NoSquare := (noSquare_map_iff.mp hes _ (Entries.mem_of_get? h)).2
  unfold Value.property at h
  split at h
  · have hitems := noSquare_list_iff.mp hv
    have h := Option.some.inj h
    split at h
    · exact hitems u (List.mem_of_getLast? h)
    · split at h
      · exact hitems u (List.mem_of_head? h)
      · split at h
        · obtain rfl := Option.some.inj h
          exact noSquare_number _
        · cases h
  · cases h
  · exact hget hv (Option.some.inj h)
  · exact hget hv (Option.some.inj h)
  · have h := Option.some.inj h
    split at h
    · obtain rfl := Option.some.inj h
      exact noSquare_number _
    · cases h
  · cases h

theorem NoSquare.itemAt {place : Float} (hv : v.NoSquare) (h : v.itemAt? place = some u) : u.NoSquare := by
  unfold itemAt? item? at h
  split at h
  · split at h
    · have hitems := noSquare_list_iff.mp hv
      split at h
      · exact hitems u (List.mem_of_getElem? h)
      · split at h
        · exact hitems u (List.mem_of_getElem? h)
        · cases h
    · cases h
  · cases h

/-- A value that there may be has no square brackets. -/
def Plain (v : Option Value) : Prop := ∀ u, v = some u → u.NoSquare

theorem plain_none : Plain none := nofun

theorem plain_some (h : v.NoSquare) : Plain (some v) := fun _ hu => Option.some.inj hu ▸ h

theorem plain_map_number {f : Float → Float} {x : Option Float} : Plain (x.map fun y => .number (f y)) := by
  intro u hu
  obtain ⟨y, -, rfl⟩ := Option.map_eq_some_iff.mp hu
  exact noSquare_number (f y)

end Value

/-! ### Expressions -/

open Value (Plain plain_none plain_some plain_map_number)

/-- No variable has square brackets in its text. -/
def Snapshot.NoSquare (s : Snapshot) : Prop := ∀ x v, s.get? x = some v → v.NoSquare

namespace Snapshot

variable {s : Snapshot}

theorem NoSquare.lookup (h : s.NoSquare) {name : Text} {v : Value} (hv : s.lookup? name = some v) :
    v.NoSquare := by
  rw [lookup?_eq] at hv
  exact h _ v hv

/-- Binding a value without square brackets leaves no variable with any. -/
theorem NoSquare.insert (h : s.NoSquare) (x : Text) {v : Value} (hv : v.NoSquare) :
    NoSquare (Table.insert s x v) := by
  intro y u hu
  rw [Table.get?_insert] at hu
  split at hu
  · obtain rfl := Option.some.inj hu
    exact hv
  · exact h y u hu

end Snapshot

namespace Act

variable {α β : Type} {P Q : α → Prop}

/-- Where no variable has square brackets the act gives such a result, and none has them then. -/
def Gives (Q : α → Prop) (x : Act α) : Prop :=
  ∀ r : Run, r.store.NoSquare → Q (x.run r).1 ∧ (x.run r).2.store.NoSquare

theorem Gives.pure {a : α} (h : Q a) : Gives Q (Pure.pure a) := fun _ hr => ⟨h, hr⟩

theorem Gives.bind {S : β → Prop} {x : Act α} {f : α → Act β} (hx : Gives Q x)
    (hf : ∀ a, Q a → Gives S (f a)) : Gives S (x >>= f) := by
  intro r hr
  obtain ⟨hQ, hr'⟩ := hx r hr
  exact hf _ hQ _ hr'

theorem gives_drawBelow (words : Words) (range : ℕ) : Gives (fun _ => True) (drawBelow words range) :=
  fun _ hr => ⟨trivial, hr⟩

theorem gives_drawBetween (words : Words) (a b : Int64) : Gives (fun _ => True) (drawBetween words a b) :=
  fun _ hr => ⟨trivial, hr⟩

end Act

namespace Expr

mutual

/-- The texts that an expression holds: quotations, bare words and the names of its variables. -/
def texts : Expr → List Text
  | .number _ | .boolean _ | .it | .visited _ => []
  | .quoted t | .word t | .var t => [t]
  | .neg e => texts e
  | .binary _ left right => texts left ++ texts right
  | .call _ args => textsAll args
  | .item object index => texts object ++ texts index

/-- The texts that some expressions hold. -/
def textsAll : List Expr → List Text
  | [] => []
  | e :: es => texts e ++ textsAll es

end

theorem textsAll_eq_flatMap (es : List Expr) : textsAll es = es.flatMap texts := by
  induction es with
  | nil => rfl
  | cons e es ih => rw [textsAll, ih, List.flatMap_cons]

mutual

/-- **Evaluation makes no square brackets** where none are in the texts of an expression. -/
theorem evaluate_noSquare (w : Setting) :
    ∀ e : Expr, (∀ t ∈ e.texts, t.NoSquare) → Act.Gives Plain (e.evaluate w)
  | .number x, _ => by
    rw [evaluate]
    exact .pure (plain_some (Value.noSquare_number x))
  | .boolean b, _ => by
    rw [evaluate]
    exact .pure (plain_some (Value.noSquare_boolean b))
  | .visited q, _ => by
    rw [evaluate]
    exact .pure (plain_some (Value.noSquare_boolean _))
  | .it, _ => by
    rw [evaluate]
    exact .pure plain_none
  | .quoted t, h | .word t, h => by
    rw [evaluate]
    exact .pure (plain_some (h t (by simp [texts])))
  | .var name, _ => by
    rw [evaluate]
    exact fun r hr => ⟨fun _ hu => hr.lookup hu, hr⟩
  | .neg e, h => by
    rw [evaluate]
    exact (evaluate_noSquare w e (by simpa [texts] using h)).bind fun v _ => .pure plain_map_number
  | .binary op left right, h => by
    rw [evaluate]
    refine (evaluate_noSquare w left fun t ht => h t (by simp [texts, ht])).bind fun v hv => ?_
    cases v with
    | none => exact .pure plain_none
    | some v =>
      refine (evaluate_noSquare w right fun t ht => h t (by simp [texts, ht])).bind fun u hu => ?_
      cases u with
      | none => exact .pure plain_none
      | some u => exact .pure fun _ hres => (hv v rfl).operate (hu u rfl) hres
  | .call name args, h => by
    have hargs : ∀ t ∈ textsAll args, t.NoSquare := by simpa [texts] using h
    rw [evaluate]
    split
    · exact evaluateRandom_noSquare w args hargs
    · split
      · exact .pure plain_none
      · exact (Act.gives_drawBelow _ _).bind fun i _ => evaluateNth_noSquare w args hargs i
    · exact (evaluateAll_noSquare w args hargs).bind fun vs hvs =>
        .pure (plain_some (Value.noSquare_list_iff.mpr hvs))
    · refine (evaluateAll_noSquare w args hargs).bind fun vs hvs => .pure (plain_some ?_)
      refine Value.noSquare_map_iff.mpr fun e he => ?_
      exact (Entries.mem_insertAll he).elim nofun (Value.noSquare_pairs hvs e)
    · exact .pure plain_none
  | .item object index, h => by
    rw [evaluate]
    refine (evaluate_noSquare w object fun t ht => h t (by simp [texts, ht])).bind fun v hv => ?_
    cases v with
    | none => exact .pure plain_none
    | some v =>
      dsimp only
      split
      · rename_i found hfound
        exact .pure fun u hu => (hv v rfl).property (hu ▸ hfound)
      · refine (evaluate_noSquare w index fun t ht => h t (by simp [texts, ht])).bind fun place _ => .pure ?_
        intro u hu
        obtain ⟨x, -, hx⟩ := Option.bind_eq_some_iff.mp hu
        exact (hv v rfl).itemAt hx

theorem evaluateRandom_noSquare (w : Setting) :
    ∀ es : List Expr, (∀ t ∈ textsAll es, t.NoSquare) → Act.Gives Plain (evaluateRandom w es)
  | [lo, hi], h => by
    rw [evaluateRandom]
    refine (evaluate_noSquare w lo fun t ht => h t (by simp [textsAll, ht])).bind fun v _ => ?_
    split
    · exact .pure plain_none
    · refine (evaluate_noSquare w hi fun t ht => h t (by simp [textsAll, ht])).bind fun u _ => ?_
      split
      · exact .pure plain_none
      · exact (Act.gives_drawBetween _ _ _).bind fun n _ => .pure (plain_some (Value.noSquare_number _))
  | [], _ | [_], _ | _ :: _ :: _ :: _, _ => by
    simp only [evaluateRandom]
    exact .pure plain_none

theorem evaluateNth_noSquare (w : Setting) :
    ∀ es : List Expr, (∀ t ∈ textsAll es, t.NoSquare) → ∀ n, Act.Gives Plain (evaluateNth w es n)
  | [], _, _ => by
    rw [evaluateNth]
    exact .pure plain_none
  | e :: es, h, 0 => by
    rw [evaluateNth]
    exact evaluate_noSquare w e fun t ht => h t (by simp [textsAll, ht])
  | e :: es, h, n + 1 => by
    rw [evaluateNth]
    exact evaluateNth_noSquare w es (fun t ht => h t (by simp [textsAll, ht])) n

/-- The values of arguments have no square brackets, if the texts in them have none. -/
theorem evaluateAll_noSquare (w : Setting) :
    ∀ es : List Expr, (∀ t ∈ textsAll es, t.NoSquare) →
      Act.Gives (fun vs : List Value => ∀ v ∈ vs, v.NoSquare) (evaluateAll w es)
  | [], _ => by
    rw [evaluateAll]
    exact .pure nofun
  | e :: es, h => by
    rw [evaluateAll]
    refine (evaluate_noSquare w e fun t ht => h t (by simp [textsAll, ht])).bind fun v hv => ?_
    refine (evaluateAll_noSquare w es fun t ht => h t (by simp [textsAll, ht])).bind fun vs hvs => .pure ?_
    intro u hu
    rcases List.mem_append.mp hu with hu | hu
    · exact hv u (Option.mem_toList.mp hu)
    · exact hvs u hu

end

end Expr

/-! ### What is read -/

namespace Token

/-- The texts that a token stands for. -/
def Kind.texts : Kind → List Text
  | quoted t | var t | word t => [t]
  | _ => []

/-- Neither the token nor what it stands for has square brackets. -/
structure NoSquare (k : Token) : Prop where
  gap : k.gap.NoSquare
  source : k.source.NoSquare
  texts : ∀ t ∈ k.kind.texts, t.NoSquare

private theorem texts_kindOfWord (w : Text) : (kindOfWord w).texts ⊆ [w] := by
  unfold kindOfWord
  repeat' split
  all_goals first | exact List.nil_subset _ | exact List.Subset.refl _

private theorem texts_kindOfSign (c : Char) : (kindOfSign c).texts = [] := by
  unfold kindOfSign
  split <;> rfl

/-- A word has no other text than what is taken for it. -/
private theorem texts_readWord (t : Text) : (readWord t).kind.texts ⊆ [t.takeWhile continuesWord] := by
  unfold readWord
  dsimp only
  repeat' split
  all_goals first | exact List.nil_subset _ | exact List.Subset.refl _ | exact texts_kindOfWord _

/-- What a token stands for is made of characters of the text that it is read from. -/
private theorem subset_of_mem_texts_readOne {touches : Bool} {c : Char} {t x : Text}
    (hx : x ∈ (readOne touches c t).kind.texts) : x ⊆ c :: t := by
  have hlater {p : Char → Bool} : t.takeWhile p ⊆ c :: t :=
    List.Subset.trans (List.takeWhile_sublist p).subset (List.subset_cons_self c t)
  unfold readOne at hx
  dsimp only at hx
  split at hx
  · split at hx
    · cases hx
    · obtain rfl := List.mem_singleton.mp hx
      exact hlater
  · split at hx
    · cases hx
    · split at hx
      · split at hx <;>
        · obtain rfl := List.mem_singleton.mp hx
          exact hlater
      · split at hx
        · cases hx
        · split at hx
          · obtain rfl := List.mem_singleton.mp (texts_readWord (c :: t) hx)
            exact (List.takeWhile_sublist _).subset
          · repeat' split at hx
            all_goals first | cases hx | exact absurd (texts_kindOfSign c ▸ hx) List.not_mem_nil

theorem noSquare_of_mem_readBehind {touches : Bool} {t : Text} (ht : t.NoSquare) :
    ∀ k ∈ readBehind touches t, k.NoSquare := by
  induction hn : t.length using Nat.strongRecOn generalizing touches t with
  | ind n ih =>
    subst hn
    cases hrest : t.dropWhile Text.isBlank with
    | nil =>
      rw [readBehind_of_eq_nil hrest]
      exact nofun
    | cons c v =>
      have hgap : Text.NoSquare (t.takeWhile Text.isBlank) :=
        ht.of_subset fun _ hd => (List.takeWhile_sublist _).subset hd
      have hfront : Text.NoSquare (c :: v) :=
        ht.of_subset fun _ hd => (List.dropWhile_suffix _).subset (hrest ▸ hd)
      rw [readBehind_of_eq_cons hrest]
      have hone := readOne_append (touches && (t.takeWhile Text.isBlank).isEmpty) c v
      have hlt := length_rest_lt hrest (touches && (t.takeWhile Text.isBlank).isEmpty)
      have hparts := hone ▸ hfront
      rw [Text.NoSquare.append_iff] at hparts
      intro k hk
      rcases List.mem_cons.mp hk with rfl | hk
      · exact ⟨hgap, hparts.1, fun x hx => hfront.of_subset (subset_of_mem_texts_readOne hx)⟩
      · exact ih _ hlt hparts.2 rfl k hk

/-- **Tokens have no square brackets** where the text has none. -/
theorem noSquare_of_mem_read {t : Text} (ht : t.NoSquare) : ∀ k ∈ read t, k.NoSquare :=
  noSquare_of_mem_readBehind ht

theorem noSquare_written {ks : List Token} (hks : ∀ k ∈ ks, k.NoSquare) : Text.NoSquare (written ks) := by
  induction ks with
  | nil => exact .nil
  | cons k ks ih =>
    rw [List.forall_mem_cons] at hks
    exact (hks.1.gap.append hks.1.source).append (ih hks.2)

theorem noSquare_covered {ks : List Token} (hks : ∀ k ∈ ks, k.NoSquare) : Text.NoSquare (covered ks) := by
  cases ks with
  | nil => exact .nil
  | cons k ks =>
    rw [List.forall_mem_cons] at hks
    exact hks.1.source.append (noSquare_written hks.2)

end Token

namespace Expr

/-! An expression holds the texts that its tokens stand for. -/

theorem texts_negated (e : Expr) : (negated e).texts = e.texts := by
  cases e <;> rfl

/-- The texts of a joined expression are those of its operands. -/
theorem texts_of_join? {l : Level} {k : Token.Kind} {join : Expr → Expr → Expr} (h : l.join? k = some join)
    (left right : Expr) : (join left right).texts = left.texts ++ right.texts := by
  cases l <;> cases k <;> first | (obtain rfl := Option.some.inj h; rfl) | cases h

theorem texts_of_leaf? {k : Token.Kind} {e : Expr} (h : leaf? k = some e) : e.texts = k.texts := by
  cases k <;> first | (obtain rfl := Option.some.inj h; rfl) | cases h

mutual

/-- **The texts of an expression are those of the tokens** that derive it. -/
theorem Derivation.forall_texts {P : Text → Prop} : ∀ {s : Symbol} (d : Derivation s),
    (∀ k ∈ d.tokens, ∀ t ∈ k.kind.texts, P t) → ∀ t ∈ d.tree.texts, P t
  | _, .row first more, h => more.forall_texts (fun k hk => h k (by simp [Derivation.tokens, hk]))
      (first.forall_texts fun k hk => h k (by simp [Derivation.tokens, hk]))
  | _, .minus sign operand, h => by
    rw [Derivation.tree, texts_negated]
    exact operand.forall_texts fun k hk => h k (by simp [Derivation.tokens, hk])
  | _, .unsigned operand, h => operand.forall_texts h
  | _, .leaf k e hk, h => by
    rw [Derivation.tree, texts_of_leaf? hk]
    exact h k (by simp [Derivation.tokens])
  | _, .enclosed left inside right, h => inside.forall_texts fun k hk => h k (by simp [Derivation.tokens, hk])

theorem Tail.forall_texts {P : Text → Prop} : ∀ {l : Level} (m : Tail l) {left : Expr},
    (∀ k ∈ m.tokens, ∀ t ∈ k.kind.texts, P t) → (∀ t ∈ left.texts, P t) → ∀ t ∈ (m.tree left).texts, P t
  | _, .none, _, _, hleft => hleft
  | _, .more k join hk operand rest, left, h, hleft => by
    refine rest.forall_texts (fun k hk => h k (by simp [Tail.tokens, hk])) ?_
    rw [texts_of_join? hk]
    have hoperand := operand.forall_texts fun k hk => h k (by simp [Tail.tokens, hk])
    exact fun t ht => (List.mem_append.mp ht).elim (hleft t) (hoperand t)

theorem Inside.forall_texts {P : Text → Prop} : ∀ i : Inside,
    (∀ k ∈ i.tokens, ∀ t ∈ k.kind.texts, P t) → ∀ t ∈ i.tree.texts, P t
  | .sum e, h => e.forall_texts h
  | .call _ name colon _ args, h => args.forall_texts fun k hk => h k (by simp [Inside.tokens, hk])
  | .query _ _ _ _ _ _ _, _ => nofun

theorem Arguments.forall_texts {P : Text → Prop} : ∀ as : Arguments,
    (∀ k ∈ as.tokens, ∀ t ∈ k.kind.texts, P t) → ∀ t ∈ textsAll as.trees, P t
  | .none, _ => nofun
  | .last e, h => by
    rw [Arguments.trees, textsAll, textsAll, List.append_nil]
    exact e.forall_texts h
  | .next e comma rest, h => by
    have hfirst := e.forall_texts fun k hk => h k (by simp [Arguments.tokens, hk])
    have hrest := rest.forall_texts fun k hk => h k (by simp [Arguments.tokens, hk])
    rw [Arguments.trees, textsAll]
    exact fun t ht => (List.mem_append.mp ht).elim (hfirst t) (hrest t)

end

/-- The texts of an expression have no square brackets, if its tokens have none. -/
theorem noSquare_of_ofTokens? {ks : List Token} {e : Expr} (hks : ∀ k ∈ ks, k.NoSquare)
    (h : ofTokens? ks = some e) : ∀ t ∈ e.texts, t.NoSquare := by
  obtain ⟨d, rfl, rfl⟩ := exists_derivation h
  exact d.forall_texts fun k hk => (hks k hk).texts

theorem noSquare_of_ofText? {t : Text} (ht : t.NoSquare) {e : Expr} (h : ofText? t = some e) :
    ∀ u ∈ e.texts, u.NoSquare :=
  noSquare_of_ofTokens? (Token.noSquare_of_mem_read ht) h

end Expr

/-! ### Prints -/

/-- What a text writes as the argument of a print. -/
theorem printText_noSquare (w : Setting) {t : Text} (ht : t.NoSquare) :
    Act.Gives Text.NoSquare (printText w t) := by
  unfold printText
  split
  · exact .pure .nil
  · split
    · exact .pure .nil
    · refine (Expr.evaluate_noSquare w _ (Expr.noSquare_of_ofText? ht ‹_›)).bind fun v hv => .pure ?_
      cases v with
      | none => exact .nil
      | some v => exact hv v rfl

/-- **A printing macro without square brackets** writes none, where no variable has them. -/
theorem printMacro_noSquare (w : Setting) {m : Invocation} (hm : m.source.NoSquare) :
    Act.Gives Text.NoSquare (printMacro w m) := by
  unfold printMacro
  split
  · exact printText_noSquare w (hm.of_subset fun c hc => by simp [Invocation.source, hc])
  · exact printText_noSquare w hm

/-! ### Assignments -/

namespace RightSide

/-- The texts that the value of a right side may hold. -/
def texts : RightSide → List Text
  | append _ items | merge _ items | list items => Expr.textsAll items
  | copy name => [name]
  | text t => [t]
  | _ => []

/-- The texts of a right side are among those of its expression. -/
theorem texts_subset_of_ofExpr? {e : Expr} {right : RightSide} (h : ofExpr? e = some right) :
    right.texts ⊆ e.texts := by
  unfold ofExpr? at h
  repeat' split at h
  all_goals cases h
  all_goals simp [texts, Expr.texts]

/-- A right side has no texts with square brackets, if its tokens have none. -/
theorem texts_noSquare {ks : List Token} (hks : ∀ k ∈ ks, k.NoSquare) :
    ∀ t ∈ (ofTokens ks).texts, t.NoSquare := by
  have hcovered : Text.NoSquare (unquoted (Text.trim (Token.covered ks))) :=
    (Token.noSquare_covered hks).of_subset fun c hc => by
      obtain ⟨b, u, heq, -, -⟩ := Text.exists_trim (Token.covered ks)
      rw [heq]
      exact List.mem_append_left _ (List.mem_append_right _ (List.mem_of_mem_filter hc))
  unfold ofTokens
  cases hright : (Expr.ofTokens? ks).bind ofExpr? with
  | none => exact fun t ht => List.mem_singleton.mp ht ▸ hcovered
  | some right =>
    obtain ⟨e, he, hright⟩ := Option.bind_eq_some_iff.mp hright
    exact fun t ht => Expr.noSquare_of_ofTokens? hks he t (texts_subset_of_ofExpr? hright ht)

end RightSide

/-- The segments of tokens are made of them. -/
theorem InPlace.Parted.subset {rest value : List Token} {segments : List (Text × List Token)}
    (h : Parted rest value segments) : value ⊆ rest ∧ ∀ s ∈ segments, s.2 ⊆ rest := by
  induction h with
  | last value => exact ⟨List.Subset.refl value, nofun⟩
  | @next value more rest segments comma var behind name _ _ _ _ ih =>
    have hrest : rest ⊆ value ++ comma :: var :: behind :: rest := fun k hk =>
      List.mem_append_right _ (.tail _ (.tail _ (.tail _ hk)))
    refine ⟨List.subset_append_left _ _, fun s hs => ?_⟩
    rcases List.mem_cons.mp hs with rfl | hs
    · exact List.Subset.trans ih.1 hrest
    · exact List.Subset.trans (ih.2 s hs) hrest

namespace Snapshot

variable {s : Snapshot}

/-- An item of a list is a text that stands there, or the value of a variable. -/
theorem NoSquare.literal (h : s.NoSquare) {e : Expr} (he : ∀ t ∈ e.texts, t.NoSquare) :
    Plain (s.literal? e) := by
  cases e with
  | quoted t | word t => exact plain_some (he t List.mem_cons_self)
  | number x => exact plain_some (Value.noSquare_number x)
  | boolean b => exact plain_some (Value.noSquare_boolean b)
  | var name => exact fun v hv => h.lookup hv
  | neg _ | binary _ _ _ | call _ _ | item _ _ | it | visited _ => exact plain_none

/-- Literals have no square brackets if neither their texts nor the variables have any. -/
theorem NoSquare.literals (h : s.NoSquare) {items : List Expr}
    (hitems : ∀ t ∈ Expr.textsAll items, t.NoSquare) :
    ∀ v ∈ items.filterMap s.literal?, v.NoSquare := by
  intro v hv
  obtain ⟨e, he, hv⟩ := List.mem_filterMap.mp hv
  rw [Expr.textsAll_eq_flatMap] at hitems
  exact h.literal (fun t ht => hitems t (List.mem_flatMap.mpr ⟨e, he, ht⟩)) v hv

end Snapshot

namespace Assignment

/-- **The value of an assignment has no square brackets**, if neither its texts nor the variables have any. -/
theorem value?_noSquare (words : Words) (target : Text) {right : RightSide}
    (h : ∀ t ∈ right.texts, t.NoSquare) : Act.Gives Plain (value? words target right) := by
  intro r hr
  -- What a list or a map is that is added to, or empty.
  have hold (name : Text) {v : Value} (hv : r.store.lookup? name = some v) : v.NoSquare := hr.lookup hv
  cases right with
  | arithmetic source op operand => exact ⟨plain_map_number (f := id), hr⟩
  | append source items =>
    refine ⟨plain_some (Value.noSquare_list_iff.mpr fun v hv => ?_), hr⟩
    rcases List.mem_append.mp hv with hv | hv
    · split at hv
      · exact Value.noSquare_list_iff.mp (hold _ ‹_›) v hv
      · cases hv
    · exact hr.literals h v hv
  | merge source items =>
    refine ⟨plain_some (Value.noSquare_map_iff.mpr fun e he => ?_), hr⟩
    rcases Entries.mem_insertAll he with he | he
    · split at he
      · exact Value.noSquare_map_iff.mp (hold _ ‹_›) e he
      · cases he
    · exact Value.noSquare_pairs (hr.literals h) e he
  | list items => exact ⟨plain_some (Value.noSquare_list_iff.mpr (hr.literals h)), hr⟩
  | emptyMap => exact ⟨plain_some (Value.noSquare_map_iff.mpr nofun), hr⟩
  | random lo hi => exact ⟨plain_some (Value.noSquare_number _), hr⟩
  | number x => exact ⟨plain_some (Value.noSquare_number x), hr⟩
  | boolean b => exact ⟨plain_some (Value.noSquare_boolean b), hr⟩
  | copy name =>
    refine ⟨plain_some ?_, hr⟩
    cases hv : r.store.lookup? name with
    | some v => exact hold name hv
    | none => exact .cons (by decide) (h name List.mem_cons_self)
  | text t => exact ⟨plain_some (h t List.mem_cons_self), hr⟩

/-- An assignment without square brackets in its texts binds none. -/
private theorem run_noSquare (words : Words) {a : Assignment} (h : ∀ t ∈ a.value.texts, t.NoSquare) :
    Act.Gives (fun _ => True) (run words a) := by
  refine (value?_noSquare words a.target h).bind fun v hv => ?_
  cases v with
  | none => exact .pure trivial
  | some v => exact fun r hr => ⟨trivial, hr.insert a.target (hv v rfl)⟩

private theorem runAll_noSquare (words : Words) {as : List Assignment}
    (h : ∀ a ∈ as, ∀ t ∈ a.value.texts, t.NoSquare) : Act.Gives (fun _ => True) (runAll words as) := by
  induction as with
  | nil => exact .pure trivial
  | cons a as ih =>
    rw [List.forall_mem_cons] at h
    exact (run_noSquare words h.1).bind fun _ _ => ih h.2

/-- Assignments that are read from tokens without square brackets have none. -/
theorem texts_ofTokens_noSquare {ks : List Token} (hks : ∀ k ∈ ks, k.NoSquare) :
    ∀ a ∈ ofTokens ks, ∀ t ∈ a.value.texts, t.NoSquare := by
  unfold ofTokens
  split
  · exact nofun
  · rename_i name rest htarget
    obtain ⟨var, behind, rfl, -, -⟩ := InPlace.target?_eq_some_iff.mp htarget
    have hrest : ∀ k ∈ rest, k.NoSquare := fun k hk => hks k (.tail _ (.tail _ hk))
    have hsubset := (InPlace.parted_segments 0 rest).subset
    intro a ha
    obtain ⟨s, hs, ha⟩ := List.mem_filterMap.mp ha
    have hvalue : ∀ k ∈ s.2, k.NoSquare := by
      rcases List.mem_cons.mp hs with rfl | hs
      · exact fun k hk => hrest k (hsubset.1 hk)
      · exact fun k hk => hrest k (hsubset.2 s hs hk)
    split at ha
    · cases ha
    · obtain rfl := Option.some.inj ha
      exact RightSide.texts_noSquare hvalue

/-- **Assignments without square brackets** bind no value with them, where no variable has them before. -/
theorem runText_noSquare (words : Words) {t : Text} (ht : t.NoSquare) :
    Act.Gives (fun _ => True) (runText words t) :=
  runAll_noSquare words (texts_ofTokens_noSquare (Token.noSquare_of_mem_read ht))

end Assignment

end Hyperfiction

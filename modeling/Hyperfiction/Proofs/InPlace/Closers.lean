import Mathlib.Data.List.Forall2
import Mathlib.Order.Bounds.Defs
import Hyperfiction.Proofs.InPlace.Bytes
import Hyperfiction.Proofs.Markup.Reading

/-!
# The closer that balances

A scan for a closer reads bytes and keeps a depth. What it finds can be said without one: it is the least
position up to which closers of the class outnumber its openers by one (`Bracket.closingFrom_eq_some_iff`). A
byte moves the depth as it moves the surplus that is looked for, and where none is left to look for the
position is found. So a scan sees nothing but openers and closers of its class (`Bracket.Alike.closingFrom_eq`).

The same is true of the search at a position of a text, for every token that begins with an opener
(`Position.closing?_isLeast`), as long as the token stands there. Where it does not, nothing is found, whatever
its opener alone would find (`Position.closing?_other_head`).
-/

namespace Hyperfiction

/-- Is the position a boundary of the text, and does the text go on with `lead` there? -/
def Text.StandsAt (t : Text) (n : Nat) (lead : Text) : Prop := t.IsBoundary n ∧ lead <+: t.dropPast n

/-- A token stands at a position behind a part of the text. -/
theorem Text.standsAt_iff {t lead : Text} {n : Nat} :
    t.StandsAt n lead ↔ ∃ s u, t = s ++ (lead ++ u) ∧ n = width s := by
  constructor
  · rintro ⟨hboundary, u, hu⟩
    obtain ⟨s, v, rfl, rfl⟩ := isBoundary_iff.mp hboundary
    rw [dropPast_append] at hu
    exact ⟨s, u, by rw [hu], rfl⟩
  · rintro ⟨s, u, rfl, rfl⟩
    refine ⟨isBoundary_append s _, ?_⟩
    rw [dropPast_append]
    exact List.prefix_append lead u

instance (t : Text) (n : Nat) (lead : Text) : Decidable (t.StandsAt n lead) :=
  inferInstanceAs (Decidable (_ ∧ _))

namespace Bracket

variable {b : Bracket} {n start e : Nat} {x : UInt8} {xs ys : List UInt8}

/-! ### Where closers outnumber openers -/

/-- The positions up to which closers exceed openers by `n` in bytes of which the first is at `start`. -/
def surplus (b : Bracket) (start n : Nat) (xs : List UInt8) : Set Nat :=
  {e | start ≤ e ∧ e ≤ start + xs.length ∧
    (xs.take (e - start)).count b.closer.toUInt8 = (xs.take (e - start)).count b.opener.toUInt8 + n}

/-- Up to a surplus as much is closed as opened, and `n` more. -/
theorem mem_surplus :
    e ∈ b.surplus start n xs ↔ start ≤ e ∧ e ≤ start + xs.length ∧
      (xs.take (e - start)).count b.closer.toUInt8 = (xs.take (e - start)).count b.opener.toUInt8 + n :=
  Iff.rfl

/-- Where there is nothing to read, nothing makes up for an opener. -/
theorem not_mem_surplus_nil : e ∉ b.surplus start (n + 1) [] := by
  rw [mem_surplus, List.take_nil, List.count_nil, List.count_nil]
  omega

theorem isLeast_surplus_zero : IsLeast (b.surplus start 0 xs) e ↔ e = start := by
  have hstart : IsLeast (b.surplus start 0 xs) start := by
    refine ⟨⟨Nat.le_refl start, Nat.le_add_right start _, ?_⟩, fun k hk => hk.1⟩
    rw [Nat.sub_self]
    rfl
  refine ⟨fun h => ?_, fun h => h ▸ hstart⟩
  exact Nat.le_antisymm (h.2 hstart.1) h.1.1

/-- Behind the first byte, the others have to make up for what it adds. -/
private theorem mem_surplus_cons :
    e ∈ b.surplus start (n + 1) (x :: xs) ↔
      start + 1 ≤ e ∧ e ≤ start + 1 + xs.length ∧
        (x :: xs.take (e - (start + 1))).count b.closer.toUInt8 =
          (x :: xs.take (e - (start + 1))).count b.opener.toUInt8 + (n + 1) := by
  rw [mem_surplus, List.length_cons]
  rcases Nat.lt_or_ge start e with hlt | hge
  · obtain ⟨k, rfl⟩ : ∃ k, e = start + 1 + k := ⟨e - (start + 1), by omega⟩
    have hbehind : start + 1 + k - start = k + 1 := by omega
    rw [hbehind, Nat.add_sub_cancel_left, List.take_succ_cons]
    omega
  · -- Up to the start itself there is nothing to count.
    rw [Nat.sub_eq_zero_of_le hge, List.take_zero, List.count_nil, List.count_nil]
    omega

private theorem opener_ne_closer_byte (b : Bracket) : b.opener.toUInt8 ≠ b.closer.toUInt8 :=
  fun h => b.opener_ne_closer ((Text.toUInt8_inj b.opener_lt b.closer_lt).mp h)

/-- One byte read: an opener adds one to the surplus that the others have to make, a closer takes one away. -/
theorem surplus_cons :
    b.surplus start (n + 1) (x :: xs) =
      if x = b.opener.toUInt8 then b.surplus (start + 1) (n + 2) xs
      else if x = b.closer.toUInt8 then b.surplus (start + 1) n xs
      else b.surplus (start + 1) (n + 1) xs := by
  have hne := b.opener_ne_closer_byte
  ext e
  rw [mem_surplus_cons]
  split_ifs with hopen hclose
  · subst hopen
    rw [List.count_cons_self, List.count_cons_of_ne hne, mem_surplus]
    omega
  · subst hclose
    rw [List.count_cons_self, List.count_cons_of_ne hne.symm, mem_surplus]
    omega
  · rw [List.count_cons_of_ne hopen, List.count_cons_of_ne hclose, mem_surplus]

/-- **The closer found** is at the least position up to which closers make up for the open brackets. -/
theorem closingFrom_eq_some_iff :
    b.closingFrom (n + 1) start xs = some e ↔ IsLeast (b.surplus start (n + 1) xs) e := by
  induction xs generalizing n start with
  | nil => exact iff_of_false nofun fun h => not_mem_surplus_nil h.1
  | cons x xs ih =>
    rw [closingFrom, surplus_cons]
    split_ifs with hopen hclose hone
    · exact ih
    · obtain rfl : n = 0 := Nat.succ.inj hone
      rw [isLeast_surplus_zero, Option.some.injEq, eq_comm]
    · obtain ⟨k, rfl⟩ := Nat.exists_eq_succ_of_ne_zero fun h : n = 0 => hone (congrArg Nat.succ h)
      exact ih
    · exact ih

/-! ### What a scan sees -/

/-- Are there as many bytes, with the openers and the closers of the class at the same places? All other bytes may
differ. -/
def Alike (b : Bracket) : List UInt8 → List UInt8 → Prop :=
  List.Forall₂ fun x y =>
    (x = b.opener.toUInt8 ↔ y = b.opener.toUInt8) ∧ (x = b.closer.toUInt8 ↔ y = b.closer.toUInt8)

instance : Decidable (b.Alike xs ys) := inferInstanceAs (Decidable (List.Forall₂ _ xs ys))

/-- **Other brackets and quotes** do not matter to a scan. -/
theorem Alike.closingFrom_eq (h : b.Alike xs ys) (n start : Nat) :
    b.closingFrom n start xs = b.closingFrom n start ys := by
  induction h generalizing n start with
  | nil => rfl
  | cons hbyte _ ih => simp only [closingFrom, hbyte.1, hbyte.2, ih]

end Bracket

namespace Position

variable {b : Bracket} {rest t : Text} {start : Nat}

/-! ### Tokens -/

private theorem ofOpener?_opener (b : Bracket) : Bracket.ofOpener? b.opener = some b := by
  cases b <;> rfl

/-- Behind an opener the closing bracket is searched from depth 0. -/
theorem closing?_append (s u : Text) :
    closing? (s ++ (b.opener :: rest ++ u)) (Text.width s) (b.opener :: rest) =
      (b.closing? 0 u).map fun p =>
        Text.width s + Text.width (b.opener :: rest) + Text.width p.1 + 1 := by
  have hafter : Text.after? (b.opener :: rest ++ u) (b.opener :: rest) = some u :=
    Text.after?_eq_some.mpr rfl
  simp only [closing?, Text.dropTo?_append, Option.bind_eq_bind, Option.bind_some, hafter,
    List.head?_cons, ofOpener?_opener]
  cases b.closing? 0 u <;> rfl

/-- Where its token stands, the search is a scan of the bytes behind the token. -/
theorem closing?_of_standsAt (h : t.StandsAt start (b.opener :: rest)) :
    closing? t start (b.opener :: rest) =
      b.closingFrom 1 (start + Text.width (b.opener :: rest))
        (t.bytes.drop (start + Text.width (b.opener :: rest))) := by
  obtain ⟨s, u, rfl, rfl⟩ := Text.standsAt_iff.mp h
  rw [closing?_append, ← List.append_assoc, ← Text.width_append, Text.drop_bytes_append,
    Bracket.closingFrom_bytes]

/-- Where anything is found, the token stands. -/
theorem standsAt_of_closing? {token : Text} {e : Nat} (h : closing? t start token = some e) :
    t.StandsAt start token := by
  obtain ⟨v, hv, h⟩ := Option.bind_eq_some_iff.mp h
  obtain ⟨u, hu, -⟩ := Option.bind_eq_some_iff.mp h
  obtain ⟨s, rfl, rfl⟩ := Text.dropTo?_eq_some_iff.mp hv
  exact Text.standsAt_iff.mpr ⟨s, u, by rw [Text.after?_eq_some.mp hu], rfl⟩

/-- Where the token does not stand nothing is closed. -/
theorem closing?_of_not_standsAt {token : Text} (h : ¬ t.StandsAt start token) : closing? t start token = none :=
  Option.eq_none_iff_forall_ne_some.mpr fun _ hfound => h (standsAt_of_closing? hfound)

/-- What follows the opener in a token does not matter, if it has no brackets of the class. -/
theorem closing?_of_not_mem (ho : b.opener ∉ rest) (hc : b.closer ∉ rest)
    (h : t.StandsAt start (b.opener :: rest)) :
    closing? t start (b.opener :: rest) = closing? t start [b.opener] := by
  obtain ⟨s, u, rfl, rfl⟩ := Text.standsAt_iff.mp h
  have halone : closing? (s ++ ([b.opener] ++ (rest ++ u))) (Text.width s) [b.opener] = _ :=
    closing?_append s (rest ++ u)
  rw [List.singleton_append, ← List.cons_append,
    Bracket.closing?_append (Bracket.depth?_of_not_mem ho hc 0), Option.map_map] at halone
  rw [closing?_append, halone]
  congr 1
  funext p
  simp only [Function.comp_def, Text.width_cons, Text.width_nil, Text.width_append]
  omega

/-- **The closer of a token** that begins with an opener is found where the token stands, and is then at the
least position up to which, from the end of the token on, closers of the class exceed openers by one. All other
bytes behind the token may be changed, those of other brackets and of quotes too. What follows the opener in the
token, as in `(name:`, makes no difference where the token stands, if it has no brackets of the class. -/
theorem closing?_isLeast (b : Bracket) (rest t : Text) (start : Nat) :
    let token := b.opener :: rest
    let behind := start + Text.width token
    (∀ e, closing? t start token = some e ↔
      t.StandsAt start token ∧ IsLeast (b.surplus behind 1 (t.bytes.drop behind)) e) ∧
    (∀ t', (t.StandsAt start token ↔ t'.StandsAt start token) →
      b.Alike (t.bytes.drop behind) (t'.bytes.drop behind) →
      closing? t start token = closing? t' start token) ∧
    (b.opener ∉ rest → b.closer ∉ rest → t.StandsAt start token →
      closing? t start token = closing? t start [b.opener]) := by
  intro token behind
  refine ⟨fun e => ?_, fun t' hiff halike => ?_, closing?_of_not_mem⟩
  · rw [← Bracket.closingFrom_eq_some_iff]
    constructor
    · intro hfound
      have h := standsAt_of_closing? hfound
      exact ⟨h, (closing?_of_standsAt h).symm.trans hfound⟩
    · rintro ⟨h, hscan⟩
      exact (closing?_of_standsAt h).trans hscan
  · by_cases h : t.StandsAt start token
    · rw [closing?_of_standsAt h, closing?_of_standsAt (hiff.mp h), halike.closingFrom_eq]
    · rw [closing?_of_not_standsAt h, closing?_of_not_standsAt fun h' => h (hiff.mpr h')]

/-- A bracket in quotes and a parenthesis in the arguments: others may stand in the place of the former. -/
theorem closing?_isLeast_quoted :
    let t : Text := "é(set: $x to \"[\" + (y))!".toList
    let t' : Text := "ü(set: $x to '\x7bé+ (y))!".toList
    let head : Text := "(set:".toList
    IsLeast (Bracket.round.surplus 7 1 (t.bytes.drop 7)) 24 ∧ closing? t 2 head = some 24 ∧
      closing? t' 2 head = some 24 ∧ closing? t 2 ['('] = some 24 := by
  intro t t' head
  have hstands : t.StandsAt 2 head := by decide
  have hstands' : t'.StandsAt 2 head := by decide
  have hfound : closing? t 2 head = some 24 := by decide +kernel
  obtain ⟨hiff, hother, halone⟩ := closing?_isLeast .round "set:".toList t 2
  exact ⟨((hiff 24).mp hfound).2, hfound, (hother t' (iff_of_true hstands hstands') (by decide)).symm.trans hfound,
    (halone (by decide) (by decide) hstands).symm.trans hfound⟩

/-- Where another head stands, nothing is found for a head, though its parenthesis alone is closed. -/
theorem closing?_other_head :
    closing? "(if: $x)".toList 0 "(set:".toList = none ∧
      closing? "(if: $x)".toList 0 "(".toList = some 8 := by
  decide +kernel

end Position

end Hyperfiction

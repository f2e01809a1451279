import Hyperfiction.Markup.Position
import Hyperfiction.Proofs.InPlace.Basic

/-!
# Texts read byte by byte

A scan of a buffer looks at one byte after the other and knows nothing of characters. That does no harm as
long as it looks for ASCII characters only: each of these is one byte of its own, and all bytes of other
characters lie above them (`Text.le_of_mem_encode`). So a byte that is an ASCII character stands at a
boundary (`Text.getElem?_bytes_eq_some_iff`), a run of bytes that pass a test on ASCII characters is a run of
characters (`Text.takeWhile_bytes`), and the closer that a count of bytes finds is the closer that a count of
characters finds (`Bracket.closingFrom_bytes`).
-/

namespace Hyperfiction

namespace Text

/-- The bytes of a text. -/
def bytes (t : Text) : List UInt8 := t.flatMap String.utf8EncodeChar

@[simp] theorem bytes_nil : bytes [] = [] := rfl

@[simp] theorem bytes_cons (c : Char) (t : Text) :
    bytes (c :: t) = String.utf8EncodeChar c ++ bytes t := rfl

@[simp] theorem bytes_append (s t : Text) : bytes (s ++ t) = bytes s ++ bytes t :=
  List.flatMap_append

@[simp] theorem length_bytes (t : Text) : (bytes t).length = width t := by
  induction t with
  | nil => rfl
  | cons c t ih => rw [bytes_cons, List.length_append, String.length_utf8EncodeChar, ih, width_cons]

/-! ### ASCII characters and other ones -/

theorem encode_of_lt {c : Char} (h : c.toNat < 128) : String.utf8EncodeChar c = [c.toUInt8] := by
  have hle : c.val.toNat ≤ 127 := Nat.le_of_lt_succ h
  rw [String.utf8EncodeChar]
  exact if_pos hle

/-- **No other character has an ASCII byte.** -/
theorem le_of_mem_encode {c : Char} (h : 128 ≤ c.toNat) {b : UInt8}
    (hb : b ∈ String.utf8EncodeChar c) : 128 ≤ b.toNat := by
  have hlt : ¬ c.val.toNat ≤ 127 := Nat.not_le.mpr h
  rw [String.utf8EncodeChar] at hb
  simp only [hlt, ↓reduceIte] at hb
  split at hb
  · simp only [List.mem_cons, List.not_mem_nil, or_false] at hb
    rcases hb with rfl | rfl <;> rw [UInt8.toNat_ofNat'] <;> omega
  · split at hb
    · simp only [List.mem_cons, List.not_mem_nil, or_false] at hb
      rcases hb with rfl | rfl | rfl <;> rw [UInt8.toNat_ofNat'] <;> omega
    · simp only [List.mem_cons, List.not_mem_nil, or_false] at hb
      rcases hb with rfl | rfl | rfl | rfl <;> rw [UInt8.toNat_ofNat'] <;> omega

theorem toNat_toUInt8 {c : Char} (h : c.toNat < 128) : c.toUInt8.toNat = c.toNat := by
  change c.toNat % 256 = c.toNat
  omega

theorem toUInt8_inj {c d : Char} (hc : c.toNat < 128) (hd : d.toNat < 128) :
    c.toUInt8 = d.toUInt8 ↔ c = d := by
  constructor
  · intro h
    have hnat := congrArg UInt8.toNat h
    rw [toNat_toUInt8 hc, toNat_toUInt8 hd] at hnat
    exact Char.ext (UInt32.toNat_inj.mp hnat)
  · exact congrArg Char.toUInt8

theorem utf8Size_of_lt {c : Char} (h : c.toNat < 128) : c.utf8Size = 1 := by
  rw [← String.length_utf8EncodeChar, encode_of_lt h, List.length_singleton]

/-- The ASCII letters are two ranges. -/
theorem ranges_of_isAlpha {c : Char} (h : c.isAlpha) :
    (65 ≤ c.toNat ∧ c.toNat ≤ 90) ∨ (97 ≤ c.toNat ∧ c.toNat ≤ 122) := by
  rcases (Bool.or_eq_true _ _).mp h with hupper | hlower
  · exact .inl (of_decide_eq_true hupper)
  · obtain ⟨hlow, hhigh⟩ := (Bool.and_eq_true _ _).mp hlower
    exact .inr ⟨of_decide_eq_true hlow, of_decide_eq_true hhigh⟩

theorem lt_of_isAlphanum {c : Char} (h : c.isAlphanum) : c.toNat < 128 := by
  rcases (Bool.or_eq_true _ _).mp h with hletter | hdigit
  · have hranges := ranges_of_isAlpha hletter
    omega
  · have hhigh : c.toNat ≤ 57 := of_decide_eq_true ((Bool.and_eq_true _ _).mp hdigit).2
    omega

/-- An ASCII byte of a text is a character of its own. -/
theorem getElem?_bytes_eq_some_iff {t : Text} {n : Nat} {d : Char} (hd : d.toNat < 128) :
    (bytes t)[n]? = some d.toUInt8 ↔ ∃ s u, t = s ++ d :: u ∧ n = width s := by
  induction t generalizing n with
  | nil => simp
  | cons c t ih =>
    have hsize := String.length_utf8EncodeChar c
    rw [bytes_cons]
    rcases Nat.lt_or_ge n c.utf8Size with hn | hn
    · rw [List.getElem?_append_left (by omega)]
      rcases Nat.lt_or_ge c.toNat 128 with hc | hc
      · rw [encode_of_lt hc, List.length_singleton] at hsize
        obtain rfl : n = 0 := by omega
        rw [encode_of_lt hc, List.getElem?_cons_zero, Option.some.injEq, toUInt8_inj hc hd]
        constructor
        · rintro rfl
          exact ⟨[], t, rfl, rfl⟩
        · rintro ⟨s, u, h, hs⟩
          cases s with
          | nil => exact (List.cons.inj h).1
          | cons e s =>
            have hpos := e.utf8Size_pos
            rw [width_cons] at hs
            omega
      · constructor
        · intro h
          have hbyte := le_of_mem_encode hc (List.mem_of_getElem? h)
          rw [toNat_toUInt8 hd] at hbyte
          omega
        · rintro ⟨s, u, h, hs⟩
          cases s with
          | nil => rw [(List.cons.inj h).1] at hc; omega
          | cons e s =>
            obtain rfl := (List.cons.inj h).1
            rw [width_cons] at hs
            omega
    · rw [List.getElem?_append_right (by omega), hsize, ih]
      constructor
      · rintro ⟨s, u, rfl, hs⟩
        exact ⟨c :: s, u, rfl, by rw [width_cons]; omega⟩
      · rintro ⟨s, u, h, rfl⟩
        have hpos := c.utf8Size_pos
        cases s with
        | nil => rw [width_nil] at hn; omega
        | cons e s =>
          obtain ⟨rfl, rfl⟩ := List.cons.inj h
          exact ⟨s, u, rfl, by rw [width_cons]; omega⟩

/-- An ASCII byte is found where its character stands. -/
theorem getElem?_bytes_eq_some_iff_dropTo? {t : Text} {n : Nat} {d : Char} (hd : d.toNat < 128) :
    (bytes t)[n]? = some d.toUInt8 ↔ ∃ u, t.dropTo? n = some (d :: u) := by
  rw [getElem?_bytes_eq_some_iff hd, exists_comm]
  exact exists_congr fun u => dropTo?_eq_some_iff.symm

/-- The bytes behind a part are those of the rest. -/
theorem drop_bytes_append (s u : Text) : (bytes (s ++ u)).drop (width s) = bytes u := by
  rw [bytes_append, ← length_bytes, List.drop_left]

/-- Behind a position stand the other bytes of a character that it is inside of, and then the characters
that begin at it or behind it. -/
theorem exists_drop_bytes (t : Text) (n : Nat) :
    ∃ bs, (bytes t).drop n = bs ++ bytes (t.dropPast n) ∧ (∀ b ∈ bs, 128 ≤ b.toNat) ∧
      (n ≤ width t → n + bs.length + width (t.dropPast n) = width t) := by
  induction t generalizing n with
  | nil => cases n <;> exact ⟨[], by simp [dropPast], by simp, by simp [dropPast]⟩
  | cons c t ih =>
    cases n with
    | zero => exact ⟨[], rfl, by simp, by simp [dropPast]⟩
    | succ n =>
      have hsize := String.length_utf8EncodeChar c
      rw [dropPast, bytes_cons, List.drop_append, hsize]
      rcases Nat.lt_or_ge (n + 1) c.utf8Size with hn | hn
      · have hzero : n + 1 - c.utf8Size = 0 := by omega
        refine ⟨(String.utf8EncodeChar c).drop (n + 1), ?_, fun b hb => ?_, fun _ => ?_⟩
        · rw [hzero]; cases t <;> rfl
        · have hc : 128 ≤ c.toNat := by
            rcases Nat.lt_or_ge c.toNat 128 with hc | hc
            · rw [encode_of_lt hc, List.length_singleton] at hsize
              omega
            · exact hc
          exact le_of_mem_encode hc (List.mem_of_mem_drop hb)
        · have hdrop : dropPast t 0 = t := by cases t <;> rfl
          rw [List.length_drop, hsize, hzero, hdrop, width_cons]
          omega
      · obtain ⟨bs, hbs, hhigh, hwidth⟩ := ih (n + 1 - c.utf8Size)
        refine ⟨bs, ?_, hhigh, fun hle => ?_⟩
        · rw [hbs, List.drop_of_length_le (by omega)]; rfl
        · rw [width_cons] at hle ⊢
          have := hwidth (by omega)
          omega

/-! ### Tests of bytes -/

/-- A test of ASCII characters, made of bytes. -/
def onByte (test : Char → Bool) (b : UInt8) : Bool :=
  decide (b.toNat < 128) && test (Char.ofNat b.toNat)

theorem onByte_toUInt8 {test : Char → Bool} {c : Char} (h : c.toNat < 128) :
    onByte test c.toUInt8 = test c := by
  rw [onByte, toNat_toUInt8 h, Char.ofNat_toNat]
  simp [h]

theorem onByte_of_le {test : Char → Bool} {b : UInt8} (h : 128 ≤ b.toNat) :
    onByte test b = false := by
  rw [onByte, decide_eq_false (by omega), Bool.false_and]

/-- A run of bytes is a run of characters. -/
theorem takeWhile_bytes {test : Char → Bool} (hascii : ∀ c, test c → c.toNat < 128) (t : Text) :
    (bytes t).takeWhile (onByte test) = bytes (t.takeWhile test) := by
  induction t with
  | nil => rfl
  | cons c t ih =>
    rcases Nat.lt_or_ge c.toNat 128 with hc | hc
    · rw [bytes_cons, encode_of_lt hc, List.singleton_append, List.takeWhile_cons,
        List.takeWhile_cons, onByte_toUInt8 hc, ih]
      split
      · rw [bytes_cons, encode_of_lt hc]; rfl
      · rfl
    · have hfalse : test c = false := by
        rw [Bool.eq_false_iff]
        intro h
        have := hascii c h
        omega
      obtain ⟨b, bs, hbs⟩ := List.exists_cons_of_ne_nil (@String.utf8EncodeChar_ne_nil c)
      have hb : onByte test b = false :=
        onByte_of_le (le_of_mem_encode hc (by rw [hbs]; exact List.mem_cons_self))
      rw [bytes_cons, hbs, List.cons_append, List.takeWhile_cons, List.takeWhile_cons, hb, hfalse]
      rfl

end Text

/-! ### Brackets -/

namespace Bracket

/-- The position behind the closer that makes up for `depth` open brackets, in the bytes from a position
on. -/
def closingFrom (b : Bracket) : Nat → Nat → List UInt8 → Option Nat
  | _, _, [] => none
  | depth, i, x :: xs =>
    if x = b.opener.toUInt8 then closingFrom b (depth + 1) (i + 1) xs
    else if x = b.closer.toUInt8 then
      if depth = 1 then some (i + 1) else closingFrom b (depth - 1) (i + 1) xs
    else closingFrom b depth (i + 1) xs

theorem opener_lt (b : Bracket) : b.opener.toNat < 128 := by cases b <;> decide

theorem closer_lt (b : Bracket) : b.closer.toNat < 128 := by cases b <;> decide

/-- The search for a bracket passes over bytes beyond ASCII. -/
private theorem closingFrom_append (b : Bracket) (depth i : Nat) {bs : List UInt8}
    (h : ∀ x ∈ bs, 128 ≤ x.toNat) (xs : List UInt8) :
    b.closingFrom depth i (bs ++ xs) = b.closingFrom depth (i + bs.length) xs := by
  induction bs generalizing i with
  | nil => rfl
  | cons x bs ih =>
    have hx := h x List.mem_cons_self
    have hopen : x ≠ b.opener.toUInt8 := by
      rintro rfl
      rw [Text.toNat_toUInt8 b.opener_lt] at hx
      have := b.opener_lt
      omega
    have hclose : x ≠ b.closer.toUInt8 := by
      rintro rfl
      rw [Text.toNat_toUInt8 b.closer_lt] at hx
      have := b.closer_lt
      omega
    rw [List.cons_append, closingFrom, if_neg hopen, if_neg hclose,
      ih (i + 1) fun y hy => h y (List.mem_cons_of_mem _ hy), List.length_cons, Nat.add_assoc,
      Nat.add_comm 1]

/-- Counting bytes and counting characters find the same closer. -/
theorem closingFrom_bytes (b : Bracket) (n i : Nat) (t : Text) :
    b.closingFrom (n + 1) i t.bytes =
      (b.closing? n t).map fun p => i + Text.width p.1 + 1 := by
  induction t generalizing n i with
  | nil => rfl
  | cons c t ih =>
    rw [Text.bytes_cons, closing?]
    rcases Nat.lt_or_ge c.toNat 128 with hc | hc
    · have hsize := String.length_utf8EncodeChar c
      rw [Text.encode_of_lt hc, List.length_singleton] at hsize
      rw [Text.encode_of_lt hc, List.singleton_append, closingFrom, step?]
      simp only [Text.toUInt8_inj hc b.opener_lt, Text.toUInt8_inj hc b.closer_lt]
      have hshift (p : Text × Text) :
          i + 1 + Text.width p.1 + 1 = i + Text.width (c :: p.1) + 1 := by
        rw [Text.width_cons]
        omega
      split
      · simp only [ih, Option.map_map, Function.comp_def, hshift]
      · split
        · cases n with
          | zero => rfl
          | succ n =>
            simp only [Nat.add_eq_right, Nat.add_one_ne_zero, if_false, Nat.add_sub_cancel, ih,
              Option.map_map, Function.comp_def, hshift]
        · simp only [ih, Option.map_map, Function.comp_def, hshift]
    · have hstep : b.step? n c = some n := by
        have hopen : c ≠ b.opener := by rintro rfl; have := b.opener_lt; omega
        have hclose : c ≠ b.closer := by rintro rfl; have := b.closer_lt; omega
        rw [step?, if_neg hopen, if_neg hclose]
      rw [closingFrom_append b _ _ (fun x hx => Text.le_of_mem_encode hc hx),
        String.length_utf8EncodeChar, hstep, ih, Option.map_map]
      congr 1
      funext p
      simp only [Function.comp_def, Text.width_cons]
      omega

end Bracket

end Hyperfiction

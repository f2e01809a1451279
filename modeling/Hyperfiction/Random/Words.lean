/-!
# Random words

All chance comes from a fixed stream of 64-bit words; a run keeps only the number of words that it has
used. A stream is given by a seed (`Words.seeded`), or by a script of words with a simple generator
behind it (`Words.scripted`).
-/

namespace Hyperfiction

/-- A stream of random words: word `n` for each `n`. -/
abbrev Words := Nat → UInt64

namespace Words

/-- Mixes the bits of a counter into a word. -/
def mix (z : UInt64) : UInt64 :=
  let z := (z ^^^ (z >>> 30)) * 0xBF58476D1CE4E5B9
  let z := (z ^^^ (z >>> 27)) * 0x94D049BB133111EB
  z ^^^ (z >>> 31)

/-- The words of a counter that starts at a seed and grows by a constant step. -/
def counted (seed : UInt64) : Words :=
  fun n => mix (seed + UInt64.ofNat (n + 1) * 0x9E3779B97F4A7C15)

/-- The words of a script, and counted words behind them. -/
def scripted (script : Array UInt64) (seed : UInt64) : Words :=
  fun n => if h : n < script.size then script[n] else counted seed (n - script.size)

/-! ### The seeded stream -/

/-- The sixteen words that a block of the stream is made from, and the block itself. -/
abbrev Block := Vector UInt32 16

/-- Rotates the bits of a word to the left. -/
def rotate (x : UInt32) (n : UInt32) : UInt32 := (x <<< n) ||| (x >>> (32 - n))

/-- Stirs four words of a block. -/
def quarterRound (s : Block) (a b c d : Fin 16) : Block :=
  let s := s.set a (s[a] + s[b])
  let s := s.set d (rotate (s[d] ^^^ s[a]) 16)
  let s := s.set c (s[c] + s[d])
  let s := s.set b (rotate (s[b] ^^^ s[c]) 12)
  let s := s.set a (s[a] + s[b])
  let s := s.set d (rotate (s[d] ^^^ s[a]) 8)
  let s := s.set c (s[c] + s[d])
  s.set b (rotate (s[b] ^^^ s[c]) 7)

/-- Stirs the columns of a block and then its diagonals. -/
def doubleRound (s : Block) : Block :=
  let s := quarterRound s 0 4 8 12
  let s := quarterRound s 1 5 9 13
  let s := quarterRound s 2 6 10 14
  let s := quarterRound s 3 7 11 15
  let s := quarterRound s 0 5 10 15
  let s := quarterRound s 1 6 11 12
  let s := quarterRound s 2 7 8 13
  quarterRound s 3 4 9 14

/-- The state behind `n` steps of the generator that makes keys. -/
def keyState (seed : UInt64) : Nat → UInt64
  | 0 => seed
  | n + 1 => keyState seed n * 6364136223846793005 + 11634580027462260723

/-- Word `n` of the key of a seed. -/
def keyWord (seed : UInt64) (n : Nat) : UInt32 :=
  let s := keyState seed (n + 1)
  let mixed := (((s >>> 18) ^^^ s) >>> 27).toUInt32
  let turn := (s >>> 59).toUInt32
  (mixed >>> turn) ||| (mixed <<< ((32 - turn) &&& 31))

/-- The block of a seed with the number `n`, before it is stirred. -/
def unstirred (seed : UInt64) (n : Nat) : Block :=
  let k := keyWord seed
  let counter := UInt64.ofNat n
  #v[0x61707865, 0x3320646e, 0x79622d32, 0x6b206574, k 0, k 1, k 2, k 3, k 4, k 5, k 6, k 7,
    counter.toUInt32, (counter >>> 32).toUInt32, 0, 0]

/-- The block of a seed with the number `n`: six double rounds, and the first state added. -/
def block (seed : UInt64) (n : Nat) : Block :=
  let s := unstirred seed n
  let stirred := doubleRound (doubleRound (doubleRound (doubleRound (doubleRound (doubleRound s)))))
  stirred.zipWith (· + ·) s

/-- The words of a seed: the words of its blocks pairwise, the low half first. -/
def seeded (seed : UInt64) : Words :=
  fun n =>
    let s := block seed (n / 8)
    let i := 2 * (n % 8)
    have : i + 1 < 16 := by omega
    s[i].toUInt64 ||| (s[i + 1].toUInt64 <<< 32)

end Words

end Hyperfiction

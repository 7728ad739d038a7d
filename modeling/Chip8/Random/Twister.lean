/-!
# The Mersenne twister

The generator MT19937: 624 words of 32 bits that are renewed all at once, and a tempering that turns
each of them into one output.  It is seeded by an integer of any size, whose 32-bit words, the lowest
first and the sign dropped, are stirred into the state.

The recurrences are those of the published algorithm; nothing else in the library depends on them,
only on the fact that a generator yields a word and the generator that comes next (`Twister.next`).
-/

namespace Chip8.Random

/-- The number of words in the state. -/
def twisterSize : Nat := 624

/-- The state of the generator. -/
structure Twister where
  /-- The state words. -/
  words : Vector UInt32 624
  /-- How many of the words have been put out since the last renewal. -/
  used : Nat
  deriving DecidableEq, Repr

namespace Twister

/-- Word `i`, counted around the end. -/
def word (words : Vector UInt32 624) (i : Nat) : UInt32 :=
  words.get (Fin.ofNat 624 i)

/-- Puts a word in place `i`, counted around the end. -/
def putWord (words : Vector UInt32 624) (i : Nat) (value : UInt32) : Vector UInt32 624 :=
  words.set (i % 624) value (Nat.mod_lt _ (by decide))

/-! ### Seeding -/

/-- The 32-bit words of `n`, the lowest first; zero has the one word zero. -/
def seedWords (n : Nat) : List UInt32 :=
  if n < 0x100000000 then [UInt32.ofNat n]
  else UInt32.ofNat n :: seedWords (n / 0x100000000)

/-- What word `i` inherits from its predecessor. -/
def inherited (words : Vector UInt32 624) (i : Nat) : UInt32 :=
  let w := word words (i + 623)
  w ^^^ (w >>> 30)

/-- Fills the state from a single word: `count` words from place `i` on are still to be made. -/
def fill : Nat → Nat → Vector UInt32 624 → Vector UInt32 624
  | 0, _, words => words
  | count + 1, i, words =>
    fill count (i + 1) (putWord words i (1812433253 * inherited words i + UInt32.ofNat i))

/-- The place after `i` while stirring.  Place 0 is skipped: it takes over the last word. -/
def advance (words : Vector UInt32 624) (i : Nat) : Nat × Vector UInt32 624 :=
  if i + 1 < 624 then (i + 1, words) else (1, putWord words 0 (word words 623))

/-- Stirs the seed words into the state, one place at a time, starting over when they run out. -/
def stirSeed (seed : Array UInt32) : Nat → Nat → Nat → Vector UInt32 624 → Nat × Vector UInt32 624
  | 0, i, _, words => (i, words)
  | count + 1, i, j, words =>
    let mixed := (word words i ^^^ (inherited words i * 1664525)) + seed.getD j 0 + UInt32.ofNat j
    let (i', words') := advance (putWord words i mixed) i
    stirSeed seed count i' (if j + 1 < seed.size then j + 1 else 0) words'

/-- Stirs the places themselves into the state. -/
def stirPlaces : Nat → Nat → Vector UInt32 624 → Vector UInt32 624
  | 0, _, words => words
  | count + 1, i, words =>
    let mixed := (word words i ^^^ (inherited words i * 1566083941)) - UInt32.ofNat i
    let (i', words') := advance (putWord words i mixed) i
    stirPlaces count i' words'

/-- The generator for a seed. -/
def ofSeed (seed : Int) : Twister :=
  let key := (seedWords seed.natAbs).toArray
  let start := fill 623 1 (putWord (Vector.replicate 624 0) 0 19650218)
  -- Every seed word and every place is stirred in at least once.
  let (i, stirred) := stirSeed key (max twisterSize key.size) 1 0 start
  ⟨putWord (stirPlaces 623 i stirred) 0 0x80000000, twisterSize⟩

/-! ### Output -/

/-- The renewed word `i`: the top bit of its predecessor in place, the other bits of the word after
it, shifted and combined with the word 397 places on. -/
def renewed (words : Vector UInt32 624) (i : Nat) : UInt32 :=
  let y := (word words i &&& 0x80000000) ||| (word words (i + 1) &&& 0x7fffffff)
  word words (i + 397) ^^^ (y >>> 1) ^^^ (if y &&& 1 = 1 then 0x9908b0df else 0)

/-- Renews the words one after the other, each from the words as they are by then. -/
def renew (words : Vector UInt32 624) : Vector UInt32 624 :=
  (List.range 624).foldl (fun acc i => putWord acc i (renewed acc i)) words

/-- Spreads the bits of a state word over the output. -/
def temper (w : UInt32) : UInt32 :=
  let w := w ^^^ (w >>> 11)
  let w := w ^^^ ((w <<< 7) &&& 0x9d2c5680)
  let w := w ^^^ ((w <<< 15) &&& 0xefc60000)
  w ^^^ (w >>> 18)

/-- The next output and the generator after it. -/
def next (t : Twister) : UInt32 × Twister :=
  if t.used < twisterSize then (temper (word t.words t.used), { t with used := t.used + 1 })
  else
    let words := renew t.words
    (temper (word words 0), ⟨words, 1⟩)

end Twister

end Chip8.Random

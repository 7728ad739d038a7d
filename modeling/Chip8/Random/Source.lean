import Chip8.Random.Twister
import Chip8.Word

/-!
# Where random bytes come from

A program asks for random numbers from 0 to 254.  They come from a seeded generator, or from a list
of numbers that is gone through over and over.
-/

namespace Chip8.Random

/-- A source of numbers from 0 to 254. -/
inductive Source where
  /-- A generator in its present state. -/
  | seeded (generator : Twister)
  /-- A list of numbers and the count of those already drawn from it. -/
  | listed (numbers : List Byte) (drawn : Nat)
  deriving DecidableEq, Repr

/-- Takes the upper eight bits of the next output, unless they are 255. -/
def attempt (t : Twister) : Twister ⊕ (Fin 255 × Twister) :=
  let (w, t') := t.next
  let b := (w >>> 24).toNat
  if h : b < 255 then .inr (⟨b, h⟩, t') else .inl t'

instance : Nonempty (Fin 255 × Twister) := ⟨(⟨0, by decide⟩, ⟨Vector.replicate 624 0, 0⟩)⟩

/-- Tries until the upper eight bits of an output are not 255.  That takes one output in 255 cases of 256, and
nothing bounds the number of outputs in advance. -/
def drawBelow255 (t : Twister) : Fin 255 × Twister := Id.run (repeatM attempt t)

theorem drawBelow255_eq (t : Twister) :
    drawBelow255 t =
      match attempt t with
      | .inl t' => drawBelow255 t'
      | .inr drawn => drawn := by
  unfold drawBelow255
  rw [repeatM_eq_of_monadTail]
  unfold repeatM.body
  cases attempt t <;> rfl

namespace Source

/-- The source for a seed. -/
def ofSeed (seed : Int) : Source := .seeded (Twister.ofSeed seed)

/-- The next number and the source after it. -/
def draw : Source → Byte × Source
  | .seeded t =>
    let (n, t') := drawBelow255 t
    (BitVec.ofNat 8 n.val, .seeded t')
  | .listed numbers drawn =>
    (numbers.getD (drawn % numbers.length) 0, .listed numbers (drawn + 1))

/-- The source after a restart of the machine that began with `initial`: a generator starts over, a
list goes on. -/
def restart (initial current : Source) : Source :=
  match initial with
  | .seeded _ => initial
  | .listed _ _ => current

end Source

end Chip8.Random

import Chip8.Word

/-!
# The keypad

Sixteen keys, each up or down.  A caller may name a key by any integer; the numbers 0 to 15 are keys
and nothing else is.
-/

namespace Chip8

/-- The number of keys. -/
def keyCount : Nat := 16

/-- The key with a given number, if there is one. -/
def Key.ofInt? (number : Int) : Option Key :=
  if h : 0 ≤ number ∧ number < 16 then some ⟨number.toNat, by omega⟩ else none

/-- Which keys are down. -/
structure Keypad where
  /-- By key: whether it is down. -/
  keys : Vector Bool 16
  deriving DecidableEq, Repr

namespace Keypad

/-- All keys up. -/
def released : Keypad := ⟨Vector.replicate 16 false⟩

/-- Lets all keys up. -/
def reset (_ : Keypad) : Keypad := ⟨Vector.replicate 16 false⟩

/-- Whether a key is down. -/
def isDown (p : Keypad) (key : Key) : Bool := p.keys[key.val]

/-- Whether any key is down. -/
def anyDown (p : Keypad) : Bool := p.keys.toList.contains true

/-- Puts a key down. -/
def press (p : Keypad) (key : Key) : Keypad := ⟨p.keys.set key.val true⟩

/-- Lets a key up. -/
def release (p : Keypad) (key : Key) : Keypad := ⟨p.keys.set key.val false⟩

theorem reset_eq_released (p : Keypad) : p.reset = released := rfl

@[simp] theorem isDown_press (p : Keypad) (key query : Key) :
    (p.press key).isDown query = (decide (key = query) || p.isDown query) := by
  unfold press isDown
  rw [Vector.getElem_set]
  by_cases h : key = query
  · simp [h]
  · simp [h, Fin.val_ne_of_ne h]

@[simp] theorem isDown_release (p : Keypad) (key query : Key) :
    (p.release key).isDown query = (!decide (key = query) && p.isDown query) := by
  unfold release isDown
  rw [Vector.getElem_set]
  by_cases h : key = query
  · simp [h]
  · simp [h, Fin.val_ne_of_ne h]

end Keypad

end Chip8

import Chip8.Word

/-!
# The timers

Two bytes count down to zero, one at each instruction: the delay timer, which a program may read, and
the sound timer, while which is positive a tone sounds.  The machine makes no tone itself.  Three
operations can start or stop the tone: setting the sound timer, the count down, and stopping the timers.
Each of them decides for itself whether to say so by a `Signal`, and they all come to the same:
`Timers.notice`, a comparison of the timers before and after.
-/

namespace Chip8

/-- What the machine tells its surroundings while it works. -/
inductive Signal where
  /-- The tone has started, or stopped. -/
  | sound (on : Bool)
  /-- A number has been drawn from the random source. -/
  | draw
  deriving DecidableEq, Repr

/-- The two timers. -/
structure Timers where
  delay : Byte
  sound : Byte
  deriving DecidableEq, Repr

namespace Timers

/-- Both timers at zero. -/
def stopped : Timers := ⟨0, 0⟩

/-- Whether the tone sounds. -/
def sounding (t : Timers) : Bool := t.sound != 0

/-- One step down, or zero. -/
def countDown (b : Byte) : Byte := if b = 0 then 0 else b - 1

/-- Whether the step down reaches zero; a timer that stands at zero already does not reach it. -/
def expires (b : Byte) : Bool := b != 0 && countDown b == 0

/-- Both timers one step down. -/
def tick (t : Timers) : Timers := ⟨countDown t.delay, countDown t.sound⟩

/-! ### Signals -/

/-- Sets the delay timer, of which nothing is heard. -/
def setDelay (t : Timers) (value : Byte) : Timers × List Signal := ({ t with delay := value }, [])

/-- Sets the sound timer, and says so if that starts or stops the tone. -/
def setSound (t : Timers) (value : Byte) : Timers × List Signal :=
  let t' := { t with sound := value }
  (t', if t'.sounding != t.sounding then [.sound t'.sounding] else [])

/-- Lets both timers count down, and says so if the sound timer reaches zero. -/
def countBoth (t : Timers) : Timers × List Signal :=
  (t.tick, if expires t.sound then [.sound false] else [])

/-- Stops both timers, and says so if the tone was sounding. -/
def stop (t : Timers) : Timers × List Signal :=
  (stopped, if t.sounding then [.sound false] else [])

/-- The signals due when the timers go from `before` to `after`: one if the tone starts or stops. -/
def notice (before after : Timers) : List Signal :=
  if before.sounding = after.sounding then [] else [.sound after.sounding]

/-! ### What the operations come to -/

theorem setDelay_eq (t : Timers) (value : Byte) :
    t.setDelay value = ({ t with delay := value }, t.notice { t with delay := value }) := by
  rw [setDelay, notice, if_pos]
  rfl

theorem setSound_eq (t : Timers) (value : Byte) :
    t.setSound value = ({ t with sound := value }, t.notice { t with sound := value }) := by
  unfold setSound notice
  by_cases same : t.sounding = sounding { t with sound := value }
  · simp [same]
  · simp [same, Ne.symm same]

/-- The tone stops at a count down exactly if the sound timer reaches zero. -/
theorem countBoth_eq (t : Timers) : t.countBoth = (t.tick, t.notice t.tick) := by
  unfold countBoth notice tick sounding expires countDown
  by_cases silent : t.sound = 0#8
  · simp [silent]
  · by_cases last : t.sound - 1#8 = 0#8
    · simp [silent, last]
    · simp [silent, last, bne_iff_ne.mpr silent, bne_iff_ne.mpr last]

theorem stop_eq (t : Timers) : t.stop = (stopped, t.notice stopped) := by
  have silent : stopped.sounding = false := rfl
  unfold stop notice
  rw [silent]
  cases t.sounding <;> rfl

theorem toNat_countDown (b : Byte) : (countDown b).toNat = b.toNat - 1 := by
  unfold countDown
  split
  · next h => simp [h]
  · next h =>
    have : b.toNat ≠ 0 := fun e => h (BitVec.eq_of_toNat_eq (by simpa using e))
    have := b.isLt
    rw [BitVec.toNat_sub]
    simp
    omega

end Timers

end Chip8

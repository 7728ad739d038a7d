import Chip8.Proofs.Calls
import Chip8.Proofs.Frames

/-!
# Timers through a run

Both timers count down by one at every instruction that is carried out, the waiting for a key included, and
stay at zero.  A word of group F sets a timer and counts it down in the same step, while the word that reads
the delay timer does so before the count down.  A step that faults leaves the timers alone.  So in a run a
timer shows what it showed at first, or what it was set to, less one for every instruction since then
(`Session.timers_count_down`).
-/

namespace Chip8

/-- One of the two timers. -/
inductive Timer where
  | delay
  | sound
  deriving DecidableEq, Repr

/-- The low byte of the words of group F that set a timer. -/
def Timer.setter : Timer → Nat
  | .delay => 0x15
  | .sound => 0x18

/-- What a timer shows. -/
def Timers.value (t : Timers) : Timer → Byte
  | .delay => t.delay
  | .sound => t.sound

/-- The instruction sets a timer. -/
def Executed.Sets (e : Executed) (timer : Timer) : Prop :=
  e.word.toNat / 4096 = 0xF ∧ e.word.toNat % 256 = timer.setter

/-! ### Steps -/

namespace Machine

variable {m : Machine} {p : Progress}

/-- A timer that the instruction does not set goes down by one, and stays at zero. -/
theorem value_of_step_of_not_sets {timer : Timer} (h : m.step = .ok p)
    (unset : ¬ (p.word.toNat / 4096 = 0xF ∧ p.word.toNat % 256 = timer.setter)) :
    (p.machine.timers.value timer).toNat = (m.timers.value timer).toNat - 1 := by
  have framed := framed_of_step h
  cases timer with
  | delay => exact framed.delay unset
  | sound => exact framed.sound unset

/-- A timer that is set counts down in the same step. -/
theorem value_of_step_of_sets {timer : Timer} (h : m.step = .ok p)
    (sets : p.word.toNat / 4096 = 0xF ∧ p.word.toNat % 256 = timer.setter) :
    (p.machine.timers.value timer).toNat = (m.v (Word.x p.word)).toNat - 1 := by
  obtain ⟨-, -, i, m', sent, spells, executed, machine, -⟩ := of_step_ok h
  have timers := (parts_of_execute executed).timers
  rw [machine]
  cases timer with
  | delay =>
    obtain rfl : i = .setDelay (Word.x p.word) :=
      Instruction.eq_of_spells spells ⟨sets, Word.val_x p.word⟩
    show (Timers.countDown m'.timers.delay).toNat = _
    rw [Timers.toNat_countDown, timers]
    rfl
  | sound =>
    obtain rfl : i = .setSound (Word.x p.word) :=
      Instruction.eq_of_spells spells ⟨sets, Word.val_x p.word⟩
    show (Timers.countDown m'.timers.sound).toNat = _
    rw [Timers.toNat_countDown, timers]
    rfl

/-- The delay timer is read before the count down. -/
theorem v_of_step_of_reads (h : m.step = .ok p)
    (reads : p.word.toNat / 4096 = 0xF ∧ p.word.toNat % 256 = 0x07) :
    p.machine.v (Word.x p.word) = m.timers.delay := by
  obtain ⟨-, -, i, m', sent, spells, executed, machine, -⟩ := of_step_ok h
  obtain rfl : i = .readDelay (Word.x p.word) :=
    Instruction.eq_of_spells spells ⟨reads, Word.val_x p.word⟩
  cases executed
  rw [machine]
  exact Registers.get_set_self _ _ _

/-- Waiting for a key is an instruction that succeeds, and stays where it is while no key is down. -/
theorem exists_step_of_waits {word : Word} (fetched : m.fetch = .ok word)
    (waits : word.toNat / 4096 = 0xF ∧ word.toNat % 256 = 0x0A) :
    ∃ p, m.step = .ok p ∧ p.word = word ∧
      (m.keypad.anyDown = false → p.machine.registers = m.registers) := by
  have spelled : Instruction.ofWord? word = some .waitForKey := Instruction.ofWord?_of_spells waits
  refine ⟨_, step_of_execute fetched spelled rfl, rfl, fun up => ?_⟩
  show (if m.keypad.anyDown then m.goOn m.registers else m).registers = _
  rw [up]
  rfl

end Machine

/-! ### Runs -/

namespace Session

/-- A turn counts a timer down once for every instruction that it carries out. -/
theorem value_take (s : Session) (turn : Turn) {timer : Timer}
    (unset : ∀ e ∈ s.executes turn, ¬ e.Sets timer) :
    ((s.take turn).machine.timers.value timer).toNat =
      (s.machine.timers.value timer).toNat - (s.executes turn).length := by
  cases turn with
  | press key | release key =>
    rw [s.take_of_ne_step (by simp)]
    rfl
  | step =>
    cases stepped : s.machine.step with
    | error cause =>
      obtain ⟨none, machine⟩ := executes_of_fault stepped
      rw [none, machine]
      rfl
    | ok p =>
      obtain ⟨one, machine⟩ := executes_of_step stepped
      rw [one] at unset ⊢
      rw [machine]
      exact Machine.value_of_step_of_not_sets stepped (unset _ List.mem_cons_self)

/-- Over turns that do not set it, a timer goes down by the number of instructions. -/
theorem value_play (s : Session) (turns : List Turn) {timer : Timer}
    (unset : ∀ e ∈ s.executed turns, ¬ e.Sets timer) :
    ((s.play turns).machine.timers.value timer).toNat =
      (s.machine.timers.value timer).toNat - (s.executed turns).length := by
  induction turns generalizing s with
  | nil => rfl
  | cons turn later ih =>
    have first := s.value_take turn fun e member => unset e (List.mem_append_left _ member)
    have rest := ih (s.take turn) fun e member => unset e (List.mem_append_right _ member)
    show (((s.take turn).play later).machine.timers.value timer).toNat = _
    rw [rest, first, executed, List.length_append, Nat.sub_sub]

/-- In any run with keys pressed and released anywhere: a timer that is not set goes down by one for every
step that succeeds, and stops at zero.  Waiting for a key is such a step, and a step that faults leaves the
timers alone.  A timer that is set to a value shows one less after that step, and one less again for every
step that follows, and that is what the delay timer is read as. -/
theorem timers_count_down (s : Session) :
    (∀ timer turns, (∀ e ∈ s.executed turns, ¬ e.Sets timer) →
      ((s.play turns).machine.timers.value timer).toNat =
        (s.machine.timers.value timer).toNat - (s.executed turns).length) ∧
      (∀ e, (s.step .silent).result = .error e →
        s.executes .step = [] ∧ (s.take .step).machine.timers = s.machine.timers) ∧
      (∀ word, s.machine.fetch = .ok word → word.toNat / 4096 = 0xF ∧ word.toNat % 256 = 0x0A →
        s.executes .step = [⟨s.machine.registers.pc, word⟩] ∧
        (s.machine.keypad.anyDown = false →
          (s.take .step).machine.registers = s.machine.registers)) ∧
      ∀ timer set between, s.executes .step = [set] → set.Sets timer →
        (∀ e ∈ (s.take .step).executed between, ¬ e.Sets timer) →
        let shown := (s.machine.v (Word.x set.word)).toNat - 1 -
          ((s.take .step).executed between).length
        let t := (s.take .step).play between
        (t.machine.timers.value timer).toNat = shown ∧
        ∀ read, timer = .delay → t.executes .step = [read] →
          read.word.toNat / 4096 = 0xF ∧ read.word.toNat % 256 = 0x07 →
          ((t.take .step).machine.v (Word.x read.word)).toNat = shown := by
  refine ⟨fun timer turns unset => s.value_play turns unset, ?_, ?_, ?_⟩
  · intro e failed
    cases stepped : s.machine.step with
    | error cause =>
      obtain ⟨none, machine⟩ := executes_of_fault stepped
      exact ⟨none, by rw [machine]⟩
    | ok p =>
      rw [step_silent, stepped] at failed
      cases failed
  · intro word fetched waits
    obtain ⟨p, stepped, rfl, stays⟩ := Machine.exists_step_of_waits fetched waits
    obtain ⟨one, machine⟩ := executes_of_step stepped
    rw [machine]
    exact ⟨one, stays⟩
  · intro timer set between sets isSet unset shown t
    obtain ⟨p, stepped, word, machine⟩ := exists_step_of_executes sets
    have atFirst : ((s.take .step).machine.timers.value timer).toNat =
        (s.machine.v (Word.x set.word)).toNat - 1 := by
      unfold Executed.Sets at isSet
      rw [← word] at isSet ⊢
      rw [machine]
      exact Machine.value_of_step_of_sets stepped isSet
    have value : (t.machine.timers.value timer).toNat = shown := by
      rw [(s.take .step).value_play between unset, atFirst]
    refine ⟨value, ?_⟩
    rintro read rfl reading reads
    obtain ⟨q, stepped, word, machine⟩ := exists_step_of_executes reading
    rw [← word] at reads ⊢
    rw [machine, Machine.v_of_step_of_reads stepped reads]
    exact value

/-- A program that sets the delay timer to five, waits for a key, and reads the timer.  The third step of
waiting finds the key down. -/
theorem timers_count_down_wait :
    let program : List Byte := [0x60, 0x05, 0xF0, 0x15, 0xF2, 0x0A, 0xF1, 0x07]
    let s := ((initial ⟨.listed [] 0, 0, false⟩).load program).state.play [.step]
    let between : List Turn := [.step, .step, .press 3, .step]
    s.executes .step = [⟨0x202, 0xF015⟩] ∧
      (s.take .step).executed between = List.replicate 3 ⟨0x204, 0xF20A⟩ ∧
      (((s.take .step).play between).machine.timers.delay).toNat = 1 ∧
      ((((s.take .step).play between).take .step).machine.v 1).toNat = 1 := by
  intro program s between
  have facts : s.executes .step = [⟨0x202, 0xF015⟩] ∧ s.machine.v 0 = 5 ∧
      (s.take .step).executed between = List.replicate 3 ⟨0x204, 0xF20A⟩ ∧
      ((s.take .step).play between).executes .step = [⟨0x206, 0xF107⟩] := by
    decide +kernel
  generalize s = s at facts ⊢
  obtain ⟨sets, five, waits, reading⟩ := facts
  have isSet : Executed.Sets ⟨0x202, 0xF015⟩ .delay := by
    unfold Executed.Sets
    decide
  have unset : ∀ e ∈ (s.take .step).executed between, ¬ e.Sets .delay := by
    intro e member
    rw [waits] at member
    rw [List.eq_of_mem_replicate member]
    unfold Executed.Sets
    decide
  obtain ⟨-, -, -, since⟩ := timers_count_down s
  obtain ⟨value, read⟩ := since .delay ⟨0x202, 0xF015⟩ between sets isSet unset
  have seen := read ⟨0x206, 0xF107⟩ rfl reading (by decide)
  have registers : Word.x 0xF015 = 0 ∧ Word.x 0xF107 = 1 := by decide
  rw [registers.1, five, waits, List.length_replicate] at value seen
  rw [registers.2] at seen
  exact ⟨sets, waits, value, seen⟩

end Session

end Chip8

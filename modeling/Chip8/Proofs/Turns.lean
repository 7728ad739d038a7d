import Chip8.Proofs.Faults
import Chip8.Session

/-!
# Turns

Whoever plays takes turns: a step, or a key that goes down or up.  `Session.play` takes a list of them,
with nobody answering the news, and goes on when a step faults.

`Session.step_silent` says what a step does to a session.  From it follows that a fault is final: the
machine is as it was before, and as only keys can change it from then on, it meets the same fault for
ever.
-/

namespace Chip8

/-- What a player may do. -/
inductive Turn where
  | step
  | press (key : Key)
  | release (key : Key)
  deriving DecidableEq, Repr

/-- The keypad after a turn. -/
def Turn.onKeypad (p : Keypad) : Turn → Keypad
  | .step => p
  | .press key => p.press key
  | .release key => p.release key

theorem Outcome.state_after {σ α : Type} (earlier : List Event) (o : Outcome σ α) :
    (o.after earlier).state = o.state := rfl

theorem Outcome.state_andThen_keep {σ α β : Type} (o : Outcome σ α) (result : Except Error β) :
    (o.andThen fun _ s => ⟨s, [], result⟩).state = o.state := by
  unfold andThen
  cases o.result <;> rfl

namespace Session

/-- The session after a turn. -/
def take (s : Session) : Turn → Session
  | .step => (s.step .silent).state
  | .press key => (s.press key.val).state
  | .release key => (s.release key.val).state

/-- The session after a list of turns. -/
def play (s : Session) (turns : List Turn) : Session := turns.foldl take s

theorem play_append (s : Session) (earlier later : List Turn) :
    s.play (earlier ++ later) = (s.play earlier).play later :=
  List.foldl_append

/-- A reload comes to a reset and a load, if there is a program to load. -/
theorem state_reload (s : Session) :
    s.reload.state = s.program.elim s fun program => (s.reset.state.load program).state := by
  unfold reload
  cases s.program with
  | none => rfl
  | some program => exact Outcome.state_andThen_keep _ _

/-- The session with other keys down. -/
def withKeypad (s : Session) (keypad : Keypad) : Session :=
  { s with machine := { s.machine with keypad } }

/-- The session after a fault. -/
def faulted (s : Session) (cause : Fault) : Session :=
  { s with lastFault := some cause, running := false }

/-! ### Single turns -/

/-- A step that does not fault goes on with the machine, and sends its signals before the news.  A step that
faults takes a note of the fault.  Then the hooks answer. -/
theorem step_eq (s : Session) (hooks : Hooks) :
    s.step hooks =
      match s.machine.step with
      | .ok p =>
        let t : Session := { s with machine := p.machine }
        ((t.obeyAll (hooks.onStep t)).andThen fun _ u => ⟨u, [], .ok p.word⟩).after
          (s.traceEvents ++ (p.signals.map .signal ++
            [.stepped p.machine.registers.pc p.machine.count]))
      | .error cause =>
        (((s.faulted cause).obeyAll (hooks.onFault cause)).andThen fun _ u =>
          ⟨u, [], .error (.fault cause)⟩).after
          (s.traceEvents ++ [.log (.fault cause), .faulted cause]) := by
  unfold step
  rw [Processor.step_run]
  cases s.machine.step with
  | error cause => simp [fail, faulted, Outcome.after]
  | ok p => simp [Outcome.after]

/-- What every command keeps, commands one after the other keep. -/
theorem keeps_obeyAll {P : Session → Prop} {commands : List Command} {s : Session}
    (kept : ∀ t, ∀ c ∈ commands, P t → P (t.obey c).state) (holds : P s) :
    P (s.obeyAll commands).state := by
  induction commands generalizing s with
  | nil => exact holds
  | cons c cs ih =>
    have first : P (s.obey c).state := kept s c List.mem_cons_self holds
    rw [obeyAll]
    unfold Outcome.andThen
    cases (s.obey c).result with
    | error e => exact first
    | ok _ => exact ih (fun t c member => kept t c (List.mem_cons_of_mem _ member)) first

/-- What an instruction or a fault makes true, and what every command keeps that the hooks may ask for, is
true after a step. -/
theorem keeps_step {P : Session → Prop} {allowed : Command → Prop} {s : Session} {hooks : Hooks}
    (asks : (∀ t, ∀ c ∈ hooks.onStep t, allowed c) ∧ ∀ cause, ∀ c ∈ hooks.onFault cause, allowed c)
    (kept : ∀ t c, allowed c → P t → P (t.obey c).state)
    (done : ∀ p, s.machine.step = .ok p → P { s with machine := p.machine })
    (failed : ∀ cause, s.machine.step = .error cause → P (s.faulted cause)) :
    P (s.step hooks).state := by
  rw [step_eq]
  cases stepped : s.machine.step with
  | error cause =>
    simp only [Outcome.state_after, Outcome.state_andThen_keep]
    exact keeps_obeyAll (fun t c member => kept t c (asks.2 _ c member)) (failed cause stepped)
  | ok p =>
    simp only [Outcome.state_after, Outcome.state_andThen_keep]
    exact keeps_obeyAll (fun t c member => kept t c (asks.1 _ c member)) (done p stepped)

/-- A step that nobody answers. -/
theorem step_silent (s : Session) :
    s.step .silent =
      match s.machine.step with
      | .ok p =>
        { state := { s with machine := p.machine }
          events := s.traceEvents ++
            (p.signals.map .signal ++ [.stepped p.machine.registers.pc p.machine.count])
          result := .ok p.word }
      | .error cause =>
        { state := s.faulted cause
          events := s.traceEvents ++ [.log (.fault cause), .faulted cause]
          result := .error (.fault cause) } := by
  rw [step_eq]
  cases s.machine.step with
  | error cause => simp [obeyAll, Hooks.silent, Outcome.andThen, Outcome.after]
  | ok p => simp [obeyAll, Hooks.silent, Outcome.andThen, Outcome.after]

theorem withKey_val (s : Session) (key : Key) (change : Keypad → Key → Keypad) :
    s.withKey key.val change = ⟨s.withKeypad (change s.machine.keypad key), [], .ok ()⟩ := by
  have h : Key.ofInt? key.val = some key := dif_pos (by omega)
  rw [withKey, h]
  rfl

/-- A turn of a key changes the keypad alone. -/
theorem take_of_ne_step (s : Session) {turn : Turn} (other : turn ≠ .step) :
    s.take turn = s.withKeypad (turn.onKeypad s.machine.keypad) := by
  cases turn with
  | step => exact absurd rfl other
  | press key => rw [take, press, withKey_val]; rfl
  | release key => rw [take, release, withKey_val]; rfl

theorem traceEvents_no_signal (s : Session) (signal : Signal) : Event.signal signal ∉ s.traceEvents := by
  unfold traceEvents
  cases s.config.trace with
  | false => simp
  | true => cases s.machine.fetch <;> simp

/-- A step fails if its machine meets a fault, and only then. -/
theorem step_silent_fails_iff (s : Session) :
    (∃ e, (s.step .silent).result = .error e) ↔ s.machine.fault? ≠ none := by
  rw [step_silent, ← Machine.faultOf_step]
  cases s.machine.step with
  | error cause => simp [faultOf]
  | ok p => simp [faultOf]

/-! ### A fault is final -/

/-- A step that meets a fault. -/
theorem step_silent_of_fault? {s : Session} {cause : Fault} (h : s.machine.fault? = some cause) :
    s.step .silent =
      { state := s.faulted cause
        events := s.traceEvents ++ [.log (.fault cause), .faulted cause]
        result := .error (.fault cause) } := by
  rw [← Machine.faultOf_step, faultOf_eq_some_iff] at h
  rw [step_silent, h]

/-- A step fails with the fault ahead of it, and with nothing else. -/
theorem fault?_of_step_error {s : Session} {e : Error} (h : (s.step .silent).result = .error e) :
    ∃ cause, s.machine.fault? = some cause ∧ e = .fault cause := by
  obtain ⟨cause, ahead⟩ := Option.ne_none_iff_exists'.mp (s.step_silent_fails_iff.mp ⟨e, h⟩)
  rw [step_silent_of_fault? ahead] at h
  cases h
  exact ⟨cause, ahead, rfl⟩

/-- From a fault on, turns change only the keypad. -/
theorem play_of_fault? {s : Session} {cause : Fault} (h : s.machine.fault? = some cause)
    (turns : List Turn) :
    (s.faulted cause).play turns =
      (s.faulted cause).withKeypad (turns.foldl Turn.onKeypad s.machine.keypad) := by
  induction turns generalizing s with
  | nil => rfl
  | cons turn later ih =>
    -- Whatever the turn, the machine after it has the same fault ahead.
    have next : (s.faulted cause).take turn =
        (s.withKeypad (turn.onKeypad s.machine.keypad)).faulted cause := by
      cases turn with
      | step =>
        have ahead : (s.faulted cause).machine.fault? = some cause := h
        rw [take, step_silent_of_fault? ahead]
        rfl
      | press key =>
        rw [take, press, withKey_val]
        rfl
      | release key =>
        rw [take, release, withKey_val]
        rfl
    have ahead : (s.withKeypad (turn.onKeypad s.machine.keypad)).machine.fault? = some cause := h
    show ((s.faulted cause).take turn).play later = _
    rw [next, ih ahead]
    rfl

/-- A step that fails changes nothing but the note of the last fault, and sends no signal.  All steps
after it, with any keys pressed or released between them, fail with the same error, and nothing changes
but the keys. -/
theorem step_fault_final (s : Session) (e : Error) (failed : (s.step .silent).result = .error e) :
    (∃ cause, e = .fault cause ∧
      (s.step .silent).state = { s with lastFault := some cause, running := false }) ∧
    (∀ signal, Event.signal signal ∉ (s.step .silent).events) ∧
    ∀ turns,
      (s.step .silent).state.play turns =
        (s.step .silent).state.withKeypad (turns.foldl Turn.onKeypad s.machine.keypad) ∧
      (((s.step .silent).state.play turns).step .silent).result = .error e ∧
      ∀ signal, Event.signal signal ∉ (((s.step .silent).state.play turns).step .silent).events := by
  obtain ⟨cause, h⟩ := Option.ne_none_iff_exists'.mp (s.step_silent_fails_iff.mp ⟨e, failed⟩)
  have quiet (s : Session) (signal : Signal) :
      Event.signal signal ∉ s.traceEvents ++ [.log (.fault cause), .faulted cause] := by
    simp [s.traceEvents_no_signal signal]
  rw [step_silent_of_fault? h] at failed ⊢
  cases failed
  refine ⟨⟨cause, rfl, rfl⟩, quiet s, fun turns => ?_⟩
  have later : ((s.faulted cause).play turns).machine.fault? = some cause := by
    rw [play_of_fault? h]
    exact h
  refine ⟨play_of_fault? h turns, ?_, ?_⟩
  · rw [step_silent_of_fault? later]
  · rw [step_silent_of_fault? later]
    exact quiet _

/-- `F155` with the index at the last cell: the first of two bytes would still have a place. -/
theorem step_fault_final_store :
    let memory := Memory.initial.store 0x200 [0xF1, 0x55]
    let machine := { Machine.initial (.listed [] 0) with
      memory, registers := { Registers.initial with i := 0xFFF } }
    let s : Session := { initial ⟨.listed [] 0, 0, false⟩ with machine }
    (s.step .silent).result = .error (.fault (.outOfRange .memory 0x1000 0x1000)) ∧
      (s.step .silent).state.machine = machine ∧
      (((s.step .silent).state.play [.step, .press 3]).step .silent).result =
        .error (.fault (.outOfRange .memory 0x1000 0x1000)) := by
  intro memory machine s
  have ahead : s.machine.fault? = some (.outOfRange .memory 0x1000 0x1000) := by decide +kernel
  have failed := congrArg Outcome.result (step_silent_of_fault? ahead)
  have final := step_fault_final s _ failed
  obtain ⟨⟨cause, -, state⟩, -, later⟩ := final
  exact ⟨failed, by rw [state], (later [.step, .press 3]).2.1⟩

end Session

end Chip8

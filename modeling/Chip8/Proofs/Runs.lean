import Chip8.Proofs.Control
import Chip8.Proofs.Parts
import Chip8.Proofs.RunControl

/-!
# Runs without a fault

`Machine.Runs n m m'` says that `n` steps lead from `m` to `m'` and that all of them succeed.  Such runs
are put together from shorter ones, and a session whose machine has one goes through it whether it is
asked for single steps or for all of them at once.
-/

namespace Chip8

theorem Machine.count_of_step {m : Machine} {p : Progress} (h : m.step = .ok p) :
    p.machine.count = m.count + 1 := by
  obtain ⟨-, -, i, after, sent, -, executed, machine, -⟩ := of_step_ok h
  rw [machine]
  exact congrArg (· + 1) (parts_of_execute executed).count

/-- A number of steps that all succeed lead from one machine to another. -/
inductive Machine.Runs : Nat → Machine → Machine → Prop where
  | done (m : Machine) : Runs 0 m m
  | step {n : Nat} {m m' : Machine} {p : Progress} :
    m.step = .ok p → Runs n p.machine m' → Runs (n + 1) m m'

namespace Machine.Runs

variable {a b n : Nat} {m m' m'' : Machine}

theorem single {p : Progress} (h : m.step = .ok p) : Runs 1 m p.machine :=
  .step h (.done p.machine)

theorem trans (h₁ : Runs a m m') (h₂ : Runs b m' m'') : Runs (a + b) m m'' := by
  induction h₁ with
  | done m =>
    rw [Nat.zero_add]
    exact h₂
  | step stepped _ ih =>
    rw [Nat.add_right_comm]
    exact .step stepped (ih h₂)

/-- A word that is found and carried out makes a run of one step. -/
theorem of_execute {word : Word} {i : Instruction} {sent : List Signal} (fetched : m.fetch = .ok word)
    (spelled : Instruction.ofWord? word = some i) (executed : m.execute i = .ok (m', sent)) :
    Runs 1 m { m'.tick.1 with count := m'.count + 1 } :=
  single (step_of_execute fetched spelled executed)

/-- The count counts the steps. -/
theorem count (h : Runs n m m') : m'.count = m.count + n := by
  induction h with
  | done m => rfl
  | @step n m m' p stepped _ ih =>
    have one := count_of_step stepped
    omega

end Machine.Runs

namespace Session

/-- The session with another machine. -/
def withOther (s : Session) (m : Machine) : Session := { s with machine := m }

variable {m m' : Machine} {n : Nat} (s : Session)

theorem step_of_ok {p : Machine.Progress} (h : m.step = .ok p) :
    ((s.withOther m).step .silent).state = s.withOther p.machine ∧
      ((s.withOther m).step .silent).result = .ok p.word := by
  have stepped : (s.withOther m).machine.step = .ok p := h
  rw [step_silent, stepped]
  exact ⟨rfl, rfl⟩

/-- Single steps go through a run. -/
theorem play_of_runs (h : m.Runs n m') :
    (s.withOther m).play (List.replicate n .step) = s.withOther m' := by
  induction h with
  | done => rfl
  | @step n m m' p stepped _ ih =>
    show ((s.withOther m).step .silent).state.play (List.replicate n .step) = _
    rw [(s.step_of_ok stepped).1]
    exact ih

/-- No step of a run fails. -/
theorem step_of_runs (h : m.Runs n m') {k : Nat} (before : k < n) :
    ∃ word, (((s.withOther m).play (List.replicate k .step)).step .silent).result = .ok word := by
  induction h generalizing k with
  | done => exact absurd before (Nat.not_lt_zero k)
  | @step n m m' p stepped _ ih =>
    obtain ⟨state, result⟩ := s.step_of_ok stepped
    cases k with
    | zero => exact ⟨p.word, result⟩
    | succ k =>
      have later := ih (Nat.lt_of_succ_lt_succ before)
      rw [← state] at later
      exact later

/-- Steps that a machine can take, a session can take as well. -/
theorem stepTimes_of_runs (h : m.Runs n m') :
    ((s.withOther m).stepTimes (fun _ => .silent) n).state = s.withOther m' ∧
      ((s.withOther m).stepTimes (fun _ => .silent) n).result = .ok () := by
  induction h with
  | done => exact ⟨rfl, rfl⟩
  | @step n m m' p stepped _ ih =>
    obtain ⟨state, result⟩ := s.step_of_ok stepped
    have first : ((s.withOther m).stepTimes (fun _ => .silent) 1).result = .ok () :=
      Outcome.result_map_unit_iff.mpr ⟨p.word, result⟩
    have after : ((s.withOther m).stepTimes (fun _ => .silent) 1).state = s.withOther p.machine := state
    rw [Nat.add_comm, stepTimes_add first, after]
    exact ih

/-- Single steps that succeed are a run of the machine, and nothing else changes. -/
theorem runs_of_stepTimes {s : Session} (h : (s.stepTimes (fun _ => .silent) n).result = .ok ()) :
    ∃ m, s.machine.Runs n m ∧ (s.stepTimes (fun _ => .silent) n).state = s.withOther m := by
  induction n with
  | zero => exact ⟨s.machine, .done s.machine, rfl⟩
  | succ n ih =>
    have before := stepTimes_ok_of_le h (Nat.le_succ n)
    obtain ⟨m, runs, state⟩ := ih before
    rw [stepTimes_succ_of_ok before] at h ⊢
    obtain ⟨word, stepped⟩ := Outcome.result_map_unit_iff.mp h
    rw [state, step_silent] at stepped
    cases next : m.step with
    | error cause =>
      rw [show (s.withOther m).machine.step = .error cause from next] at stepped
      cases stepped
    | ok p =>
      refine ⟨p.machine, runs.trans (.single next), ?_⟩
      rw [state]
      exact (s.step_of_ok next).1

/-- Each step that succeeds counts. -/
theorem count_stepTimes {s : Session} (h : (s.stepTimes (fun _ => .silent) n).result = .ok ()) :
    (s.stepTimes (fun _ => .silent) n).state.machine.count = s.machine.count + n := by
  obtain ⟨m, runs, state⟩ := runs_of_stepTimes h
  rw [state]
  exact runs.count

/-- Steps that all succeed are not disturbed, as nothing answers them. -/
theorem undisturbed_of_ok {s : Session} (h : (s.stepTimes (fun _ => .silent) n).result = .ok ())
    (running : s.running = true) : s.Undisturbed (fun _ => .silent) n := by
  refine ⟨h, fun j less => ?_⟩
  obtain ⟨m, -, state⟩ := runs_of_stepTimes (stepTimes_ok_of_le h (Nat.le_of_lt less))
  rw [state]
  exact running

/-- A run that is allowed as many steps goes through all of them. -/
theorem runFor_of_runs (h : m.Runs n m') :
    ((s.withOther m).runFor (fun _ => .silent) n).result = .ok n ∧
      ((s.withOther m).runFor (fun _ => .silent) n).state = (s.withOther m').stop := by
  obtain ⟨state, result⟩ := s.started.stepTimes_of_runs h
  have undisturbed : (s.withOther m).started.Undisturbed (fun _ => .silent) n :=
    undisturbed_of_ok result rfl
  have stopped := congrArg stop state
  rw [runFor_of_undisturbed undisturbed]
  exact ⟨rfl, stopped⟩

end Session

end Chip8

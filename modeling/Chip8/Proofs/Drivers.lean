import Chip8.Proofs.Runs
import Chip8.Terminal

/-!
# Three ways to drive a session

A session goes on by single steps, by a run with a limit, or under the loop of a terminal.  The three
stop for different reasons: single steps are given up at the first that fails, a run looks at its limit and
at whether the session is running, and the loop looks at whether play goes on and swallows a fault.

Single steps are the measure of the other two.  Without hooks a run comes to the same as they do, because
no step looks at whether a run is under way (`Session.step_started_of_ok`), and the loop of a terminal does
so because it looks at nothing of the session (`Terminal.proceed_of_stepTimes`).
-/

namespace Chip8

namespace Session

variable {s : Session} {e : Error} {n j : Nat}

/-! ### Runs without hooks -/

/-- A step that succeeds does not look at whether the session is running. -/
theorem step_started_of_ok {word : Word} (h : (s.step .silent).result = .ok word) :
    s.started.step .silent = { s.step .silent with state := (s.step .silent).state.started } := by
  have same : s.started.machine.step = s.machine.step := rfl
  rw [step_silent] at h ⊢
  rw [step_silent, same]
  cases next : s.machine.step with
  | ok p => rfl
  | error cause =>
    rw [next] at h
    cases h

/-- A fault makes the session stand still in any case. -/
theorem step_started_of_error (h : (s.step .silent).result = .error e) :
    s.started.step .silent = s.step .silent := by
  have same : s.started.machine.step = s.machine.step := rfl
  rw [step_silent] at h ⊢
  rw [step_silent, same]
  cases next : s.machine.step with
  | ok p =>
    rw [next] at h
    cases h
  | error cause => rfl

theorem stepTimes_started_of_ok (h : (s.stepTimes (fun _ => .silent) n).result = .ok ()) :
    s.started.stepTimes (fun _ => .silent) n =
      { s.stepTimes (fun _ => .silent) n with
        state := (s.stepTimes (fun _ => .silent) n).state.started } := by
  induction n with
  | zero => rfl
  | succ n ih =>
    have before := stepTimes_ok_of_le h (Nat.le_succ n)
    have alike := ih before
    have before' : (s.started.stepTimes (fun _ => .silent) n).result = .ok () := by
      rw [alike]
      exact before
    rw [stepTimes_succ_of_ok before] at h
    obtain ⟨word, stepped⟩ := Outcome.result_map_unit_iff.mp h
    rw [stepTimes_succ_of_ok before', stepTimes_succ_of_ok before, alike]
    dsimp only
    rw [step_started_of_ok stepped]
    rfl

/-- A run of steps that all succeed comes to these steps, and stops. -/
theorem runFor_of_stepTimes (h : (s.stepTimes (fun _ => .silent) n).result = .ok ()) :
    s.runFor (fun _ => .silent) n =
      ⟨(s.stepTimes (fun _ => .silent) n).state.stop, (s.stepTimes (fun _ => .silent) n).events,
        .ok n⟩ := by
  have alike := stepTimes_started_of_ok h
  have succeeds : (s.started.stepTimes (fun _ => .silent) n).result = .ok () := by
    rw [alike]
    exact h
  rw [runFor_of_undisturbed (undisturbed_of_ok succeeds rfl), alike]
  rfl

/-- A run ends with the first step that fails. -/
theorem runFor_of_failure (h : (s.stepTimes (fun _ => .silent) j).result = .ok ())
    (failed : ((s.stepTimes (fun _ => .silent) j).state.step .silent).result = .error e)
    (less : j < n) :
    s.runFor (fun _ => .silent) n =
      ⟨(s.stepTimes (fun _ => .silent) (j + 1)).state,
        (s.stepTimes (fun _ => .silent) (j + 1)).events, .error e⟩ := by
  have alike := stepTimes_started_of_ok h
  have before : (s.started.stepTimes (fun _ => .silent) j).result = .ok () := by
    rw [alike]
    exact h
  have last : (s.started.stepTimes (fun _ => .silent) j).state.step .silent =
      (s.stepTimes (fun _ => .silent) j).state.step .silent := by
    rw [alike]
    exact step_started_of_error failed
  obtain ⟨rest, rfl⟩ : ∃ rest, n = j + (rest + 1) := ⟨n - j - 1, by omega⟩
  have ended := advance_of_failure (undisturbed_of_ok before rfl) (by rw [alike]; rfl)
    (by rw [last]; exact failed) rest
  show settle (advance (fun _ => .silent) (j + (rest + 1)) 0 #[] s.started) = _
  rw [ended, stepTimes_succ_of_ok before, stepTimes_succ_of_ok h, last, alike]
  rfl

theorem any_isStepped_traceEvents (s : Session) : s.traceEvents.any Event.isStepped = false := by
  unfold traceEvents
  cases s.config.trace with
  | false => rfl
  | true => cases s.machine.fetch <;> rfl

/-- A step that fails without hooks fails by a fault, which is noted. -/
theorem step_silent_of_error (h : (s.step .silent).result = .error e) :
    ∃ cause, e = .fault cause ∧ (s.step .silent).state = s.faulted cause ∧
      (s.step .silent).events.any Event.isStepped = false := by
  obtain ⟨cause, ahead, rfl⟩ := fault?_of_step_error h
  rw [step_silent_of_fault? ahead]
  refine ⟨cause, rfl, rfl, ?_⟩
  rw [List.any_append, any_isStepped_traceEvents]
  rfl

end Session

/-! ### The loop of a terminal -/

namespace Terminal

variable {hooks : Nat → Hooks} {t : Terminal} {e : Error} {k j n : Nat}

theorem proceed_of_stepTimes (playing : t.playing = true)
    (h : (t.session.stepTimes hooks k).result = .ok ()) (rest : Nat) :
    proceed hooks (k + rest) 0 #[] t =
      proceed hooks rest k (t.session.stepTimes hooks k).events.toArray
        { t with session := (t.session.stepTimes hooks k).state } := by
  induction k generalizing rest with
  | zero => rw [Nat.zero_add]; rfl
  | succ k ih =>
    have before := Session.stepTimes_ok_of_le h (Nat.le_succ k)
    rw [Session.stepTimes_succ_of_ok before] at h
    obtain ⟨word, stepped⟩ := Outcome.result_map_unit_iff.mp h
    -- Steps do not touch whether play goes on, so the loop finds it as it was at the start.
    rw [Nat.add_right_comm, Nat.add_assoc, ih before, Session.stepTimes_succ_of_ok before, proceed,
      if_pos playing]
    cases next : (t.session.stepTimes hooks k).state.step (hooks k) with
    | mk u events result =>
      rw [next] at stepped
      cases stepped
      simp [Outcome.after, Outcome.map]

theorem stepLoop_of_stepTimes (playing : t.playing = true)
    (h : (t.session.stepTimes hooks n).result = .ok ()) :
    stepLoop hooks n t =
      ⟨{ t with session := (t.session.stepTimes hooks n).state },
        (t.session.stepTimes hooks n).events, .ok 0⟩ := by
  have whole := proceed_of_stepTimes playing h 0
  rw [Nat.add_zero] at whole
  rw [stepLoop, whole]
  rfl

/-- The loop ends with an error of the machine, and the instruction counts as not carried out. -/
theorem stepLoop_of_failure (playing : t.playing = true)
    (h : (t.session.stepTimes hooks j).result = .ok ())
    (failed : ((t.session.stepTimes hooks j).state.step (hooks j)).result = .error e)
    (machine : e.isMachineError = true)
    (unfinished :
      ((t.session.stepTimes hooks j).state.step (hooks j)).events.any Event.isStepped = false)
    (less : j < n) :
    stepLoop hooks n t =
      ⟨{ t with session := (t.session.stepTimes hooks (j + 1)).state, playing := false },
        (t.session.stepTimes hooks (j + 1)).events, .ok (n - j)⟩ := by
  obtain ⟨rest, rfl⟩ : ∃ rest, n = j + (rest + 1) := ⟨n - j - 1, by omega⟩
  rw [stepLoop, proceed_of_stepTimes playing h, Session.stepTimes_succ_of_ok h, proceed, if_pos playing]
  cases next : (t.session.stepTimes hooks j).state.step (hooks j) with
  | mk u events result =>
    rw [next] at failed unfinished
    cases failed
    dsimp only at unfinished ⊢
    rw [if_pos machine, unfinished, Nat.add_sub_cancel_left]
    simp [Outcome.after, Outcome.map]

end Terminal

namespace Session

/-! ### All three -/

/-- What a failure after `j` steps makes of single steps, of a run and of the loop of a terminal. -/
theorem agree_of_failure {s : Session} {e : Error} {n j : Nat} (held : List Key)
    (before : (s.stepTimes (fun _ => .silent) j).result = .ok ())
    (failed : ((s.stepTimes (fun _ => .silent) j).state.step .silent).result = .error e)
    (less : j < n) :
    let after := s.stepTimes (fun _ => .silent) n
    (∃ cause, e = .fault cause ∧
        after.state = (s.stepTimes (fun _ => .silent) j).state.faulted cause) ∧
      after.result = .error e ∧
      s.runFor (fun _ => .silent) n = ⟨after.state, after.events, .error e⟩ ∧
      Terminal.stepLoop (fun _ => .silent) n ⟨s, true, held⟩ =
        ⟨⟨after.state, false, held⟩, after.events, .ok (n - j)⟩ := by
  obtain ⟨same, ended⟩ := stepTimes_of_failure before failed less
  obtain ⟨cause, rfl, state, unfinished⟩ := step_silent_of_error failed
  dsimp only
  refine ⟨⟨cause, rfl, ?_⟩, ended, ?_, ?_⟩
  · rw [same, stepTimes_succ_of_ok before, ← state]
    rfl
  · rw [same]
    exact runFor_of_failure before failed less
  · rw [same]
    exact Terminal.stepLoop_of_failure rfl before failed rfl unfinished less

/-- From the same session, with nobody answering, `n` single steps that are given up at the first failure,
a run of `n` steps, and `n` rounds of the loop of a terminal come to the same session, but for whether it
is running, and send the same events.

If the steps all succeed, each way carries out `n` instructions.  If the step after the first `j` of them
fails, each carries out `j` instructions and leaves a note of the fault; the run fails with it, and the
loop takes it as the end of play. -/
theorem drivers_agree (s : Session) (held : List Key) (patience : Nat) {n : Nat} (positive : 0 < n) :
    let hooks : Nat → Hooks := fun _ => .silent
    let steps (k : Nat) := s.stepTimes hooks k
    let looped := Terminal.stepLoop hooks n ⟨s, true, held⟩
    ∃ ran, s.run hooks patience (some n) = some ran ∧
      ran.state = (steps n).state.stop ∧ ran.events = (steps n).events ∧
      looped.state.session = (steps n).state ∧ looped.events = (steps n).events ∧
      ((steps n).result = .ok () →
        (steps n).state.machine.count = s.machine.count + n ∧
        ran.result = .ok n ∧ looped.result = .ok 0 ∧ looped.state.playing = true) ∧
      ∀ j < n, ∀ e, (steps j).result = .ok () → ((steps j).state.step .silent).result = .error e →
        (∃ cause, e = .fault cause ∧ (steps n).state = (steps j).state.faulted cause) ∧
        (steps n).state.machine.count = s.machine.count + j ∧
        (steps n).result = .error e ∧ ran.result = .error e ∧
        looped.result = .ok (n - j) ∧ looped.state.playing = false := by
  intro hooks steps looped
  refine ⟨_, run_of_limit positive rfl hooks patience, ?_⟩
  cases outcome : (steps n).result with
  | ok _ =>
    have ran : s.runFor hooks n = ⟨(steps n).state.stop, (steps n).events, .ok n⟩ :=
      runFor_of_stepTimes outcome
    have loop : looped = ⟨⟨(steps n).state, true, held⟩, (steps n).events, .ok 0⟩ :=
      Terminal.stepLoop_of_stepTimes rfl outcome
    rw [ran, loop]
    refine ⟨rfl, rfl, rfl, rfl, fun _ => ⟨count_stepTimes outcome, rfl, rfl, rfl⟩, ?_⟩
    intro j less e before failed
    have ended := (agree_of_failure held before failed less).2.1
    rw [show (s.stepTimes (fun _ => .silent) n).result = .ok () from outcome] at ended
    cases ended
  | error e =>
    -- The first failure fixes what the three end in; any other `j` of the statement is the same.
    obtain ⟨j, less, before, failed⟩ := exists_first_failure outcome
    obtain ⟨⟨cause, -, state⟩, -, ran, loop⟩ := agree_of_failure held before failed less
    have standing : (steps n).state = (steps n).state.stop := by
      rw [show (steps n).state = (steps j).state.faulted cause from state]
      rfl
    rw [show s.runFor hooks n = ⟨(steps n).state, (steps n).events, .error e⟩ from ran,
      show looped = ⟨⟨(steps n).state, false, held⟩, (steps n).events, .ok (n - j)⟩ from loop]
    refine ⟨standing, rfl, rfl, rfl, nofun, ?_⟩
    intro j' less' e' before' failed'
    obtain ⟨⟨cause', rfl, state'⟩, ended', -, loop'⟩ := agree_of_failure held before' failed' less'
    have counted : (steps n).state.machine.count = s.machine.count + j' := by
      rw [show (steps n).state = (steps j').state.faulted cause' from state']
      exact count_stepTimes before'
    have same : (Except.error e : Except Error Unit) = .error (.fault cause') :=
      outcome.symm.trans ended'
    have left : (Except.ok (n - j) : Except Error Nat) = .ok (n - j') :=
      congrArg (·.result) (loop.symm.trans loop')
    cases same
    exact ⟨⟨cause', rfl, state'⟩, counted, rfl, rfl, left, rfl⟩

/-- A return with no call open, which comes as the last of three instructions, after one that starts the
tone. -/
theorem drivers_agree_return :
    let s := ((initial ⟨.listed [] 0, 0, false⟩).load [0x60, 0x05, 0xF0, 0x18, 0x00, 0xEE]).state
    let looped := Terminal.stepLoop (fun _ => .silent) 3 ⟨s, true, []⟩
    ∃ ran, s.run (fun _ => .silent) 0 (some 3) = some ran ∧
      ran.result = .error (.fault (.stackUnderflow 0x204)) ∧ ran.state.machine.count = 2 ∧
      looped.result = .ok 1 ∧ looped.state.playing = false ∧
      looped.state.session.machine = ran.state.machine ∧ looped.events = ran.events := by
  have facts :
      let s := ((initial ⟨.listed [] 0, 0, false⟩).load [0x60, 0x05, 0xF0, 0x18, 0x00, 0xEE]).state
      let steps (k : Nat) := s.stepTimes (fun _ => .silent) k
      s.machine.count = 0 ∧ (steps 2).result.isOk = true ∧
        (steps 2).state.machine.fault? = some (.stackUnderflow 0x204) := by
    decide +kernel
  generalize ((initial ⟨.listed [] 0, 0, false⟩).load [0x60, 0x05, 0xF0, 0x18, 0x00, 0xEE]).state = s
    at facts ⊢
  intro s looped
  obtain ⟨none, succeed, ahead⟩ := facts
  have two : (s.stepTimes (fun _ => .silent) 2).result = .ok () := eq_ok_of_isOk succeed
  have failed := congrArg Outcome.result (step_silent_of_fault? ahead)
  obtain ⟨ran, runs, state, events, session, news, -, failing⟩ :=
    drivers_agree s [] 0 (n := 3) (by decide)
  obtain ⟨-, counted, -, raised, left, ended⟩ := failing 2 (by decide) _ two failed
  rw [none] at counted
  refine ⟨ran, runs, raised, ?_, left, ended, ?_, ?_⟩
  · rw [state]
    exact counted
  · rw [state, session]
    rfl
  · exact news.trans events.symm

end Session

end Chip8

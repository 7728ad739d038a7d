import Chip8.Proofs.Turns
import Chip8.Session.Operation

/-!
# When a run ends

A run takes one step after the other until one of three things comes first: its limit is reached, a hook
has stopped it, or a step fails.  What hooks answer on the way, a reset or a reload in the middle of the
run included, shows in the state that the next step finds, and the run itself keeps nothing but a count.

So a run is compared with single steps: `Session.stepTimes` takes a number of them and gives up at the
first that fails, and as long as nothing disturbs it a run stands where that many single steps lead
(`Session.advance_of_undisturbed`).  From there the end of a run, its result and its events follow, and
that two runs in a row come to a longer one.
-/

namespace Chip8

theorem Outcome.result_map_eq_error_iff {σ α β : Type} {f : α → β} {o : Outcome σ α} {e : Error} :
    (o.map f).result = .error e ↔ o.result = .error e := by
  unfold map
  cases o.result <;> simp [Except.map]

theorem Outcome.result_map_unit_iff {σ α : Type} {o : Outcome σ α} :
    (o.map fun _ => ()).result = .ok () ↔ ∃ a, o.result = .ok a := by
  unfold map
  cases o.result <;> simp [Except.map]

theorem eq_ok_of_isOk {r : Except Error Unit} (h : r.isOk = true) : r = .ok () := by
  cases r with
  | ok _ => rfl
  | error e => cases h

namespace Session

/-! ### Single steps -/

/-- Single steps, given up at the first that fails.  As in a run, `hooks k` answers the step before which
`k` steps have been carried out. -/
def stepTimes (hooks : Nat → Hooks) : Nat → Session → Outcome Session Unit
  | 0, s => ⟨s, [], .ok ()⟩
  | n + 1, s => (stepTimes hooks n s).andThen fun _ t => (t.step (hooks n)).map fun _ => ()

section

variable {hooks : Nat → Hooks} {s : Session} {e : Error} {n k : Nat}

/-- After steps that succeed comes one more step. -/
theorem stepTimes_succ_of_ok (h : (s.stepTimes hooks n).result = .ok ()) :
    s.stepTimes hooks (n + 1) =
      (((s.stepTimes hooks n).state.step (hooks n)).map fun _ => ()).after
        (s.stepTimes hooks n).events := by
  rw [stepTimes, Outcome.andThen, h]

/-- After a step that fails comes none. -/
theorem stepTimes_of_error (h : (s.stepTimes hooks n).result = .error e) (later : n ≤ k) :
    s.stepTimes hooks k = s.stepTimes hooks n := by
  induction later with
  | refl => rfl
  | step _ ih =>
    rw [stepTimes, ih, Outcome.andThen, h]
    dsimp only
    rw [← h]

theorem stepTimes_ok_of_le (h : (s.stepTimes hooks n).result = .ok ()) (earlier : k ≤ n) :
    (s.stepTimes hooks k).result = .ok () := by
  cases before : (s.stepTimes hooks k).result with
  | ok _ => rfl
  | error e =>
    rw [stepTimes_of_error before earlier, before] at h
    cases h

/-- Steps that do not all succeed have a first one that fails. -/
theorem exists_first_failure (h : (s.stepTimes hooks n).result = .error e) :
    ∃ k < n, (s.stepTimes hooks k).result = .ok () ∧
      ((s.stepTimes hooks k).state.step (hooks k)).result = .error e := by
  induction n with
  | zero => cases h
  | succ n ih =>
    cases before : (s.stepTimes hooks n).result with
    | ok _ =>
      rw [stepTimes_succ_of_ok before] at h
      exact ⟨n, Nat.lt_succ_self n, before, Outcome.result_map_eq_error_iff.mp h⟩
    | error e' =>
      rw [stepTimes_of_error before (Nat.le_succ n), before] at h
      cases h
      obtain ⟨k, inside, rest⟩ := ih before
      exact ⟨k, Nat.lt_succ_of_lt inside, rest⟩

/-- The step that fails is the last. -/
theorem stepTimes_of_failure (h : (s.stepTimes hooks k).result = .ok ())
    (failed : ((s.stepTimes hooks k).state.step (hooks k)).result = .error e) (less : k < n) :
    s.stepTimes hooks n = s.stepTimes hooks (k + 1) ∧ (s.stepTimes hooks n).result = .error e := by
  have ended : (s.stepTimes hooks (k + 1)).result = .error e := by
    rw [stepTimes_succ_of_ok h]
    exact Outcome.result_map_eq_error_iff.mpr failed
  have same := stepTimes_of_error ended less
  exact ⟨same, by rw [same]; exact ended⟩

/-- Steps in a row with earlier ones. -/
theorem stepTimes_add (h : (s.stepTimes hooks n).result = .ok ()) (k : Nat) :
    s.stepTimes hooks (n + k) =
      ((s.stepTimes hooks n).state.stepTimes (fun j => hooks (n + j)) k).after
        (s.stepTimes hooks n).events := by
  -- Both sides take their last step last, so the induction is on the later steps.
  induction k with
  | zero =>
    rw [Nat.add_zero, stepTimes, Outcome.after, ← h]
    dsimp only
    rw [List.append_nil]
  | succ k ih =>
    rw [← Nat.add_assoc, stepTimes, ih, stepTimes]
    unfold Outcome.andThen Outcome.after
    dsimp only
    cases ((s.stepTimes hooks n).state.stepTimes (fun j => hooks (n + j)) k).result with
    | error e => rfl
    | ok _ => simp [Outcome.map]

/-! ### Runs -/

/-- The session at the start of a run. -/
def started (s : Session) : Session := { s with running := true }

/-- The first `k` steps of a run succeed, and before each of them the session runs. -/
def Undisturbed (hooks : Nat → Hooks) (s : Session) (k : Nat) : Prop :=
  (s.stepTimes hooks k).result = .ok () ∧ ∀ j < k, (s.stepTimes hooks j).state.running = true

/-- As long as nothing disturbs it, a run stands where single steps lead. -/
theorem advance_of_undisturbed (h : s.Undisturbed hooks k) (rest : Nat) :
    advance hooks (k + rest) 0 #[] s =
      advance hooks rest k (s.stepTimes hooks k).events.toArray (s.stepTimes hooks k).state := by
  induction k generalizing rest with
  | zero => rw [Nat.zero_add]; rfl
  | succ k ih =>
    obtain ⟨succeeds, running⟩ := h
    have before := stepTimes_ok_of_le succeeds (Nat.le_succ k)
    have now := running k (Nat.lt_succ_self k)
    rw [stepTimes_succ_of_ok before] at succeeds
    obtain ⟨word, stepped⟩ := Outcome.result_map_unit_iff.mp succeeds
    rw [Nat.add_right_comm, Nat.add_assoc, ih ⟨before, fun j less => running j (Nat.lt_succ_of_lt less)⟩,
      stepTimes_succ_of_ok before, advance, if_pos now]
    -- By the induction the run stands before its step `k`, and has one more than `rest` ahead.
    cases h : (s.stepTimes hooks k).state.step (hooks k) with
    | mk t events result =>
      rw [h] at stepped
      cases stepped
      simp [Outcome.after, Outcome.map]

/-- A session that is not running takes no step. -/
theorem advance_of_stopped (stopped : s.running = false) (hooks : Nat → Hooks) (rest done : Nat)
    (past : Array Event) : advance hooks rest done past s = ⟨s, past.toList, .ok done⟩ := by
  cases rest with
  | zero => rfl
  | succ rest => rw [advance, if_neg (by rw [stopped]; exact Bool.false_ne_true)]

/-- The step that fails is the last one of a run. -/
theorem advance_of_failure (h : s.Undisturbed hooks k)
    (running : (s.stepTimes hooks k).state.running = true)
    (failed : ((s.stepTimes hooks k).state.step (hooks k)).result = .error e) (rest : Nat) :
    advance hooks (k + (rest + 1)) 0 #[] s =
      ⟨(s.stepTimes hooks (k + 1)).state, (s.stepTimes hooks (k + 1)).events, .error e⟩ := by
  rw [advance_of_undisturbed h, stepTimes_succ_of_ok h.1, advance, if_pos running]
  cases h : (s.stepTimes hooks k).state.step (hooks k) with
  | mk t events result =>
    rw [h] at failed
    cases failed
    simp [Outcome.after, Outcome.map]

/-- Whatever happens, some number of undisturbed steps is the last, because it is the limit, because the
session has been stopped, or because the next step fails. -/
theorem exists_undisturbed (hooks : Nat → Hooks) (s : Session) (n : Nat) :
    ∃ k ≤ n, s.Undisturbed hooks k ∧
      (k = n ∨ (s.stepTimes hooks k).state.running = false ∨
        k < n ∧ (s.stepTimes hooks k).state.running = true ∧
          ∃ e, ((s.stepTimes hooks k).state.step (hooks k)).result = .error e) := by
  induction n with
  | zero => exact ⟨0, Nat.le_refl 0, ⟨rfl, fun j less => absurd less (Nat.not_lt_zero j)⟩, .inl rfl⟩
  | succ n ih =>
    -- Only where the smaller limit was the end does the greater one allow another step.
    obtain ⟨k, inside, undisturbed, rfl | stopped | ⟨less, failed⟩⟩ := ih
    · cases running : (s.stepTimes hooks k).state.running with
      | false => exact ⟨k, Nat.le_succ k, undisturbed, .inr (.inl running)⟩
      | true =>
        cases stepped : ((s.stepTimes hooks k).state.step (hooks k)).result with
        | error e =>
          exact ⟨k, Nat.le_succ k, undisturbed, .inr (.inr ⟨Nat.lt_succ_self k, running, e, stepped⟩)⟩
        | ok word =>
          refine ⟨k + 1, Nat.le_refl _, ⟨?_, fun j less => ?_⟩, .inl rfl⟩
          · rw [stepTimes_succ_of_ok undisturbed.1]
            exact Outcome.result_map_unit_iff.mpr ⟨word, stepped⟩
          · rcases Nat.lt_succ_iff_lt_or_eq.mp less with earlier | rfl
            · exact undisturbed.2 j earlier
            · exact running
    · exact ⟨k, Nat.le_succ_of_le inside, undisturbed, .inr (.inl stopped)⟩
    · exact ⟨k, Nat.le_succ_of_le inside, undisturbed, .inr (.inr ⟨Nat.lt_succ_of_lt less, failed⟩)⟩

/-- A run with a limit needs no patience. -/
theorem run_of_limit {limit : Option Int} (positive : 0 < n)
    (limited : limit.getD s.config.maxInstructions = n) (hooks : Nat → Hooks) (patience : Nat) :
    s.run hooks patience limit = some (s.runFor hooks n) := by
  unfold run
  dsimp only
  rw [limited, if_pos (by omega), Int.toNat_natCast]

/-- A run that nothing disturbs goes up to its limit. -/
theorem runFor_of_undisturbed (h : s.started.Undisturbed hooks n) :
    s.runFor hooks n =
      ⟨(s.started.stepTimes hooks n).state.stop, (s.started.stepTimes hooks n).events, .ok n⟩ := by
  have whole := advance_of_undisturbed h 0
  rw [Nat.add_zero] at whole
  show settle (advance hooks n 0 #[] s.started) = _
  rw [whole]
  rfl

/-- Undisturbed steps are undisturbed before any of them and after any of them. -/
theorem Undisturbed.split (h : s.Undisturbed hooks (n + k)) :
    s.Undisturbed hooks n ∧
      (s.stepTimes hooks n).state.Undisturbed (fun j => hooks (n + j)) k := by
  have before := stepTimes_ok_of_le h.1 (Nat.le_add_right n k)
  refine ⟨⟨before, fun j less => h.2 j (Nat.lt_add_right k less)⟩, ?_, fun j less => ?_⟩
  · have whole := h.1
    rw [stepTimes_add before] at whole
    exact whole
  · have running := h.2 (n + j) (Nat.add_lt_add_left less n)
    rw [stepTimes_add before] at running
    exact running

end

/-! ### Hooks that can have what they ask for -/

/-- What the hooks answer to the step that is due can be done. -/
def Heeds (s : Session) (hooks : Hooks) : Prop :=
  ∀ p, s.machine.step = .ok p →
    let t := { s with machine := p.machine }
    (t.obeyAll (hooks.onStep t)).result = .ok ()

/-- Without an answer to the fault a step that faults leaves a note of it. -/
theorem step_of_fault {s : Session} {hooks : Hooks} {cause : Fault}
    (h : s.machine.step = .error cause) (unanswered : hooks.onFault cause = []) :
    s.step hooks =
      ⟨s.faulted cause, s.traceEvents ++ [.log (.fault cause), .faulted cause],
        .error (.fault cause)⟩ := by
  rw [step_eq, h]
  dsimp only
  rw [unanswered]
  simp [obeyAll, Outcome.andThen, Outcome.after]

/-- A step whose hooks can have what they ask for gives its word. -/
theorem result_step_of_heeds {s : Session} {hooks : Hooks} {p : Machine.Progress}
    (heeds : s.Heeds hooks) (h : s.machine.step = .ok p) : (s.step hooks).result = .ok p.word := by
  have obeyed := heeds p h
  rw [step_eq, h]
  dsimp only at obeyed ⊢
  rw [Outcome.after, Outcome.andThen, obeyed]
  rfl

/-- A step that succeeds has done what its hooks have asked for. -/
theorem heeds_of_isOk {s : Session} {hooks : Hooks} (h : (s.step hooks).result.isOk = true) :
    s.Heeds hooks := by
  intro p stepped t
  rw [step_eq, stepped] at h
  show (t.obeyAll (hooks.onStep t)).result = .ok ()
  cases obeyed : (t.obeyAll (hooks.onStep t)).result with
  | ok _ => rfl
  | error e =>
    dsimp only at h
    rw [Outcome.after, Outcome.andThen, obeyed] at h
    cases h

/-! ### The end of a run -/

/-- How a run of at most `n` steps ends after `k` steps that nothing has disturbed. -/
inductive Ends (hooks : Nat → Hooks) (s : Session) (n k : Nat) : Outcome Session Nat → Prop where
  /-- That was the limit. -/
  | limit : k = n →
    Ends hooks s n k ⟨(s.stepTimes hooks k).state.stop, (s.stepTimes hooks k).events, .ok k⟩
  /-- The session has been stopped. -/
  | stopped : k ≤ n → (s.stepTimes hooks k).state.running = false →
    Ends hooks s n k ⟨(s.stepTimes hooks k).state.stop, (s.stepTimes hooks k).events, .ok k⟩
  /-- The next step meets a fault. -/
  | fault {cause : Fault} : k < n → (s.stepTimes hooks k).state.running = true →
    (s.stepTimes hooks k).state.machine.fault? = some cause →
    Ends hooks s n k
      ⟨(s.stepTimes hooks k).state.faulted cause, (s.stepTimes hooks (k + 1)).events,
        .error (.fault cause)⟩

/-- A run has an end: a fault, a stop, or the limit. -/
theorem exists_ends {hooks : Nat → Hooks} {s : Session} {n : Nat}
    (unanswered : ∀ k cause, (hooks k).onFault cause = [])
    (heeds : ∀ k < n, s.started.Undisturbed hooks k →
      (s.started.stepTimes hooks k).state.running = true →
      (s.started.stepTimes hooks k).state.Heeds (hooks k)) :
    ∃ k, s.started.Undisturbed hooks k ∧ Ends hooks s.started n k (s.runFor hooks n) := by
  obtain ⟨k, inside, undisturbed, cause⟩ := exists_undisturbed hooks s.started n
  refine ⟨k, undisturbed, ?_⟩
  rcases cause with rfl | stopped | ⟨less, running, e, failed⟩
  · rw [runFor_of_undisturbed undisturbed]
    exact .limit rfl
  · obtain ⟨rest, rfl⟩ := Nat.exists_eq_add_of_le inside
    have ended := advance_of_undisturbed undisturbed rest
    rw [advance_of_stopped stopped] at ended
    show Ends hooks s.started _ k (settle (advance hooks (k + rest) 0 #[] s.started))
    rw [ended]
    exact .stopped inside stopped
  · obtain ⟨rest, rfl⟩ : ∃ rest, n = k + (rest + 1) := ⟨n - k - 1, by omega⟩
    have ended := advance_of_failure undisturbed running failed rest
    cases stepped : (s.started.stepTimes hooks k).state.machine.step with
    | ok p =>
      rw [result_step_of_heeds (heeds k less undisturbed running) stepped] at failed
      cases failed
    | error cause =>
      have fault := step_of_fault stepped (unanswered k cause)
      have state : (s.started.stepTimes hooks (k + 1)).state =
          (s.started.stepTimes hooks k).state.faulted cause := by
        rw [stepTimes_succ_of_ok undisturbed.1, fault]
        rfl
      rw [fault] at failed
      cases failed
      show Ends hooks s.started _ k (settle (advance hooks (k + (rest + 1)) 0 #[] s.started))
      rw [ended, state]
      exact .fault less running (by rw [← Machine.faultOf_step, stepped]; rfl)

theorem Ends.stands_still {hooks : Nat → Hooks} {s : Session} {n k : Nat} {o : Outcome Session Nat}
    (h : Ends hooks s n k o) : o.state.running = false := by
  cases h <;> rfl

theorem started_stop {s : Session} (running : s.running = true) : s.stop.started = s := by
  rw [started, stop, ← running]

/-- A run with a limit, whose hooks ask only for what can be done, and for nothing after a fault, carries
out steps until the first time that the limit is reached, that the session has been stopped, or that a step
meets a fault, and none after that.  The result is the number of steps, or it is the fault, and the session
stands still.

If nothing disturbs them, a run of `m` steps and one of `k` steps after it come to a run of `m + k`. -/
theorem run_ends_at_first_cause (hooks : Nat → Hooks)
    (unanswered : ∀ k cause, (hooks k).onFault cause = []) (s : Session) (patience : Nat) :
    let steps (k : Nat) := s.started.stepTimes hooks k
    (∀ (limit : Option Int) (n : Nat), 0 < n → limit.getD s.config.maxInstructions = n →
      (∀ k < n, s.started.Undisturbed hooks k → (steps k).state.running = true →
        (steps k).state.Heeds (hooks k)) →
      ∃ o k, s.run hooks patience limit = some o ∧ s.started.Undisturbed hooks k ∧
        Ends hooks s.started n k o ∧ o.state.running = false) ∧
      ∀ m k : Nat, 0 < m → 0 < k → s.started.Undisturbed hooks (m + k) →
        ∃ first second whole,
          s.run hooks patience (some m) = some first ∧ first.result = .ok m ∧
          first.state.run (fun j => hooks (m + j)) patience (some k) = some second ∧
          second.result = .ok k ∧
          s.run hooks patience (some (m + k : Nat)) = some whole ∧ whole.result = .ok (m + k) ∧
          second.state = whole.state ∧ whole.events = first.events ++ second.events := by
  intro steps
  constructor
  · intro limit n positive limited heeds
    obtain ⟨k, undisturbed, ends⟩ := exists_ends unanswered heeds
    exact ⟨_, k, run_of_limit positive limited hooks patience, undisturbed, ends, ends.stands_still⟩
  · intro m k some_m some_k undisturbed
    obtain ⟨before, after⟩ := undisturbed.split
    have running : (steps m).state.running = true := undisturbed.2 m (by omega)
    have first := runFor_of_undisturbed before
    have second : (steps m).state.stop.runFor (fun j => hooks (m + j)) k =
        ⟨((steps m).state.stepTimes (fun j => hooks (m + j)) k).state.stop,
          ((steps m).state.stepTimes (fun j => hooks (m + j)) k).events, .ok k⟩ := by
      rw [runFor_of_undisturbed] <;> rw [started_stop running]
      exact after
    have whole := runFor_of_undisturbed undisturbed
    rw [stepTimes_add before.1] at whole
    refine ⟨_, _, _, run_of_limit some_m rfl hooks patience, ?_, run_of_limit some_k rfl _ patience, ?_,
      run_of_limit (by omega) rfl hooks patience, ?_, ?_, ?_⟩
    · rw [first]
    · rw [first, second]
    · rw [whole]
    · rw [first, second, whole]
      rfl
    · rw [first, second, whole]
      rfl

/-- A program that goes round in one place, and a hook that loads it again after the second step of a run
which is to have five. -/
theorem run_ends_at_first_cause_reload :
    let hooks : Nat → Hooks := fun _ =>
      ⟨fun t => if t.machine.count = 2 then [.press 3, .reload] else [], fun _ => []⟩
    let s := ((initial ⟨.listed [] 0, 5, false⟩).load [0x12, 0x00]).state
    (∃ o, s.run hooks 0 none = some o ∧ o.result = .ok 2 ∧ o.state.running = false ∧
        o.state.machine.count = 0) ∧
      ∃ first second whole,
        s.run hooks 0 (some 1) = some first ∧ first.result = .ok 1 ∧
        first.state.run hooks 0 (some 1) = some second ∧ second.result = .ok 1 ∧
        s.run hooks 0 (some 2) = some whole ∧ whole.result = .ok 2 ∧ second.state = whole.state := by
  intro hooks
  have facts :
      let s := ((initial ⟨.listed [] 0, 5, false⟩).load [0x12, 0x00]).state
      let steps (k : Nat) := s.started.stepTimes hooks k
      s.config.maxInstructions = 5 ∧
      (∀ k < 2, (steps k).state.running = true ∧ (steps k).state.machine.fault? = none ∧
        ((steps k).state.step (hooks k)).result.isOk = true) ∧
      (steps 2).result.isOk = true ∧ (steps 2).state.running = false ∧
      (steps 2).state.machine.count = 0 := by
    decide +kernel
  generalize ((initial ⟨.listed [] 0, 5, false⟩).load [0x12, 0x00]).state = s at facts ⊢
  intro s
  obtain ⟨five, early, succeed, stopped, anew⟩ := facts
  obtain ⟨ends, splits⟩ := run_ends_at_first_cause hooks (fun _ _ => rfl) s 0
  have undisturbed : s.started.Undisturbed hooks 2 :=
    ⟨eq_ok_of_isOk succeed, fun k less => (early k less).1⟩
  have few {k : Nat} (h : s.started.Undisturbed hooks k) : k ≤ 2 := by
    apply Nat.le_of_not_lt
    intro more
    exact Bool.false_ne_true (stopped.symm.trans (h.2 2 more))
  have heeds (k : Nat) (reached : s.started.Undisturbed hooks k)
      (running : (s.started.stepTimes hooks k).state.running = true) :
      (s.started.stepTimes hooks k).state.Heeds (hooks k) := by
    rcases Nat.lt_or_eq_of_le (few reached) with less | rfl
    · exact heeds_of_isOk (early k less).2.2
    · exact absurd (stopped.symm.trans running) Bool.false_ne_true
  constructor
  · obtain ⟨o, k, ran, reached, ended, still⟩ := ends none 5 (by decide) five fun k _ => heeds k
    have last : k = 2 := by
      refine Nat.le_antisymm (few reached) (Nat.le_of_not_lt fun less => ?_)
      obtain ⟨running, fine, -⟩ := early k less
      cases ended with
      | limit five => omega
      | stopped _ halted => exact Bool.false_ne_true (halted.symm.trans running)
      | fault _ _ met =>
        rw [fine] at met
        cases met
    subst last
    cases ended with
    | limit five => cases five
    | stopped => exact ⟨_, ran, rfl, still, anew⟩
    | fault _ running => exact absurd (stopped.symm.trans running) Bool.false_ne_true
  · obtain ⟨first, second, whole, ran, one, ranOn, oneMore, ranBoth, two, same, -⟩ :=
      splits 1 1 (by decide) (by decide) undisturbed
    exact ⟨first, second, whole, ran, one, ranOn, oneMore, ranBoth, two, same⟩

end Session

end Chip8

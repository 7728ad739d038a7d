import Chip8.Proofs.Control
import Chip8.Proofs.Turns

/-!
# Calls and returns

What has been carried out, instruction after instruction, says which calls are open: a call opens one
and a return closes the youngest, and nothing else has to do with it.  `openCalls` computes them from
such a list alone, without a machine, and `Session.live_play` proves that they are what lies on the call
stack.

Between a call and the return that closes it, all calls that are opened are closed again: the list is
`Balanced`.  So a return always has a call to go back to, and finds the stack as it was before that call.
-/

namespace Chip8

/-- An instruction that has been carried out. -/
structure Executed where
  address : Word
  word : Word
  deriving DecidableEq, Repr

namespace Executed

/-- Whether it was a call. -/
def isCall (e : Executed) : Bool := e.word.toNat / 4096 == 2

/-- Whether it was a return. -/
def isReturn (e : Executed) : Bool := e.word.toNat / 4096 == 0 && e.word.toNat % 256 == 0xEE

/-- What it makes of the open calls. -/
def onCalls (calls : List Word) (e : Executed) : List Word :=
  if e.isCall then calls ++ [e.address] else if e.isReturn then calls.dropLast else calls

/-- A return closes the call that was opened last. -/
theorem onCalls_of_isReturn (e : Executed) (h : e.isReturn) (calls : List Word) :
    e.onCalls calls = calls.dropLast := by
  have notCall : ¬ e.isCall := by
    simp only [isReturn, isCall, Bool.and_eq_true, beq_iff_eq] at h ⊢
    omega
  rw [onCalls, if_neg notCall, if_pos h]

/-- Whether an instruction is a call can be told from its word. -/
theorem isCall_of_spells {e : Executed} {i : Instruction} (h : i.spells e.word.toNat) :
    e.isCall ↔ ∃ target, i = .call target := by
  unfold isCall
  cases i with
  | skip condition => cases condition <;> simp [h.1]
  | _ =>
    simp only [Instruction.spells] at h
    simp [h]

theorem isReturn_of_spells {e : Executed} {i : Instruction} (h : i.spells e.word.toNat) :
    e.isReturn ↔ i = .ret := by
  unfold isReturn
  cases i with
  | skip condition => cases condition <;> simp [h.1]
  | _ =>
    simp only [Instruction.spells] at h
    simp [h]

end Executed

/-! ### Open calls and balance -/

/-- The addresses of the calls that no return has matched, the oldest first. -/
def openCalls (done : List Executed) : List Word := done.foldl Executed.onCalls []

/-- Every call is matched by a return further on, and every return by a call before it. -/
inductive Balanced : List Executed → Prop where
  | nil : Balanced []
  | single {e : Executed} : e.isCall = false → e.isReturn = false → Balanced [e]
  | nested {call ret : Executed} {inner : List Executed} :
    call.isCall → Balanced inner → ret.isReturn → Balanced (call :: inner ++ [ret])
  | append {first rest : List Executed} : Balanced first → Balanced rest → Balanced (first ++ rest)

/-- What is balanced leaves the open calls as they are. -/
theorem Balanced.foldl_onCalls {done : List Executed} (h : Balanced done) (calls : List Word) :
    done.foldl Executed.onCalls calls = calls := by
  induction h generalizing calls with
  | nil => rfl
  | single notCall notReturn => simp [Executed.onCalls, notCall, notReturn]
  | @nested call ret inner isCall _ isReturn ih =>
    have opened : call.onCalls calls = calls ++ [call.address] := if_pos isCall
    show (inner ++ [ret]).foldl Executed.onCalls (call.onCalls calls) = calls
    rw [List.foldl_append, ih, opened]
    exact (ret.onCalls_of_isReturn isReturn _).trans List.dropLast_concat
  | append _ _ ih₁ ih₂ => rw [List.foldl_append, ih₁, ih₂]

theorem openCalls_concat (done : List Executed) (e : Executed) :
    openCalls (done ++ [e]) = e.onCalls (openCalls done) := by
  rw [openCalls, List.foldl_append]
  rfl

/-- The youngest open call has been carried out, and what has been carried out since is balanced. -/
theorem exists_call_of_openCalls {done : List Executed} {older : List Word} {youngest : Word}
    (h : openCalls done = older ++ [youngest]) :
    ∃ before call since, done = before ++ call :: since ∧ call.isCall ∧ call.address = youngest ∧
      openCalls before = older ∧ Balanced since := by
  -- A return takes us back twice: to the call it matches, and from there to the one before.
  induction hlen : done.length using Nat.strongRecOn generalizing done older youngest with
  | _ n ih =>
    rcases List.eq_nil_or_concat done with rfl | ⟨done, e, rfl⟩
    · simp [openCalls] at h
    · rw [List.concat_eq_append] at hlen h ⊢
      rw [List.length_append, List.length_singleton] at hlen
      rw [openCalls_concat, Executed.onCalls] at h
      cases hcall : e.isCall with
      | true =>
        rw [hcall, if_pos rfl] at h
        obtain ⟨rfl, same⟩ := List.append_inj' h rfl
        exact ⟨done, e, [], rfl, hcall, List.singleton_inj.mp same, rfl, .nil⟩
      | false =>
        rw [hcall, if_neg Bool.false_ne_true] at h
        cases hreturn : e.isReturn with
        | false =>
          rw [hreturn, if_neg Bool.false_ne_true] at h
          obtain ⟨before, call, since, rfl, isCall, address, opened, balanced⟩ :=
            ih done.length (by omega) h rfl
          refine ⟨before, call, since ++ [e], by simp, isCall, address, opened, ?_⟩
          exact balanced.append (.single hcall hreturn)
        | true =>
          rw [hreturn, if_pos rfl] at h
          have nonempty : openCalls done ≠ [] := fun none => by simp [none] at h
          have closed := (List.dropLast_concat_getLast nonempty).symm
          rw [h] at closed
          obtain ⟨before, call, since, rfl, isCall, -, opened, balanced⟩ :=
            ih done.length (by omega) closed rfl
          obtain ⟨before, outer, between, rfl, outerIsCall, address, opened, outerBalanced⟩ :=
            ih before.length (by simp at hlen; omega) opened rfl
          refine ⟨before, outer, between ++ (call :: since ++ [e]), by simp, outerIsCall, address,
            opened, ?_⟩
          exact outerBalanced.append (.nested isCall balanced hreturn)

/-! ### Steps -/

namespace Machine

/-- The instruction that is due. -/
def due (m : Machine) : Executed := ⟨m.registers.pc, m.nextWord⟩

/-- A step that succeeds carries out the instruction that is due, and does with the call stack what the
list of open calls says. -/
theorem live_of_step {m : Machine} {p : Progress} (h : m.step = .ok p) :
    p.machine.registers.stack.live = m.due.onCalls m.registers.stack.live := by
  obtain ⟨-, word, -⟩ := of_step_ok h
  obtain ⟨i, spells, moves⟩ := moves_of_step h
  rw [word] at spells
  have isCall := Executed.isCall_of_spells (e := m.due) spells
  have isReturn := Executed.isReturn_of_spells (e := m.due) spells
  unfold Executed.onCalls
  cases i with
  | call target =>
    obtain ⟨pushed, -⟩ := moves
    rw [if_pos (isCall.mpr ⟨target, rfl⟩)]
    exact CallStack.live_push? pushed
  | ret =>
    obtain ⟨address, popped, -⟩ := moves
    rw [if_neg (by simp [isCall]), if_pos (isReturn.mpr rfl), CallStack.live_pop? popped,
      List.dropLast_concat]
  | _ =>
    rw [if_neg (by simp [isCall]), if_neg (by simp [isReturn]), moves.1]

/-- A return that succeeds goes on behind the youngest open call. -/
theorem pc_of_return {m : Machine} {p : Progress} (h : m.step = .ok p) (isReturn : m.due.isReturn) :
    ∃ address, m.registers.stack.live = p.machine.registers.stack.live ++ [address] ∧
      p.machine.registers.pc = address + 2 := by
  obtain ⟨-, word, -⟩ := of_step_ok h
  obtain ⟨i, spells, moves⟩ := moves_of_step h
  rw [word] at spells
  obtain rfl := (Executed.isReturn_of_spells (e := m.due) spells).mp isReturn
  obtain ⟨address, popped, pc⟩ := moves
  exact ⟨address, CallStack.live_pop? popped, pc⟩

/-- A call that is due meets a fault exactly if the stack is full. -/
theorem fault?_of_call {m : Machine} (inside : m.registers.pc.toNat ≤ 0xFFE) (isCall : m.due.isCall) :
    m.fault? ≠ none ↔ m.registers.stack.depth = 16 := by
  have range := (Memory.rangeFault?_eq_none_iff m.registers.pc.toNat 2).mpr (by omega)
  have group : m.nextWord.toNat / 4096 = 2 := by simpa [Executed.isCall, due] using isCall
  rw [fault?_eq, range, Option.none_or, wordFault?]
  by_cases full : m.registers.stack.depth = 16 <;>
    simp [group, full, Instruction.InSet, cellsTouched, Memory.rangeFault?]

/-- A return that is due meets a fault exactly if the stack is empty. -/
theorem fault?_of_return {m : Machine} (inside : m.registers.pc.toNat ≤ 0xFFE)
    (isReturn : m.due.isReturn) : m.fault? ≠ none ↔ m.registers.stack.depth = 0 := by
  have range := (Memory.rangeFault?_eq_none_iff m.registers.pc.toNat 2).mpr (by omega)
  obtain ⟨group, low⟩ : m.nextWord.toNat / 4096 = 0 ∧ m.nextWord.toNat % 256 = 0xEE := by
    simpa [Executed.isReturn, due] using isReturn
  rw [fault?_eq, range, Option.none_or, wordFault?]
  by_cases empty : m.registers.stack.depth = 0 <;>
    simp [group, low, empty, Instruction.InSet, cellsTouched, Memory.rangeFault?]

end Machine

/-! ### Runs -/

namespace Session

/-- What a turn carries out: the instruction that is due, if the turn is a step that succeeds. -/
def executes (s : Session) : Turn → List Executed
  | .step =>
    match (s.step .silent).result with
    | .ok word => [⟨s.machine.registers.pc, word⟩]
    | .error _ => []
  | .press _ | .release _ => []

/-- What turns carry out, in order. -/
def executed (s : Session) : List Turn → List Executed
  | [] => []
  | turn :: later => s.executes turn ++ (s.take turn).executed later

theorem executes_step_eq_iff {s : Session} {e : Executed} :
    s.executes .step = [e] ↔
      (s.step .silent).result = .ok e.word ∧ s.machine.registers.pc = e.address := by
  obtain ⟨address, word⟩ := e
  unfold executes
  cases (s.step .silent).result with
  | error e => simp
  | ok done => simp [and_comm]

theorem executes_of_step {s : Session} {p : Machine.Progress} (h : s.machine.step = .ok p) :
    s.executes .step = [⟨s.machine.registers.pc, p.word⟩] ∧
      (s.take .step).machine = p.machine := by
  rw [executes, take, step_silent, h]
  exact ⟨rfl, rfl⟩

theorem executes_of_fault {s : Session} {cause : Fault} (h : s.machine.step = .error cause) :
    s.executes .step = [] ∧ (s.take .step).machine = s.machine := by
  rw [executes, take, step_silent, h]
  exact ⟨rfl, rfl⟩

theorem exists_step_of_executes {s : Session} {e : Executed} (h : s.executes .step = [e]) :
    ∃ p, s.machine.step = .ok p ∧ p.word = e.word ∧ (s.take .step).machine = p.machine := by
  cases stepped : s.machine.step with
  | error cause =>
    rw [(executes_of_fault stepped).1] at h
    cases h
  | ok p =>
    obtain ⟨one, machine⟩ := executes_of_step stepped
    rw [one] at h
    exact ⟨p, rfl, congrArg Executed.word (List.singleton_inj.mp h), machine⟩

/-- A turn carries out nothing, or it is a step that carries out the instruction that is due. -/
theorem executes_cases (s : Session) (turn : Turn) :
    s.executes turn = [] ∨ turn = .step ∧ s.executes .step = [s.machine.due] := by
  cases turn with
  | press key | release key => exact .inl rfl
  | step =>
    cases h : s.machine.step with
    | error cause => exact .inl (executes_of_fault h).1
    | ok p =>
      obtain ⟨-, word, -⟩ := Machine.of_step_ok h
      refine .inr ⟨rfl, (executes_of_step h).1.trans ?_⟩
      rw [word, Machine.due]

theorem due_of_executes {s : Session} {e : Executed} (h : s.executes .step = [e]) :
    s.machine.due = e := by
  rcases s.executes_cases .step with none | ⟨-, one⟩
  · rw [none] at h
    cases h
  · rw [one] at h
    exact List.singleton_inj.mp h

/-- What has been carried out was carried out by one of the steps. -/
theorem turns_of_executed {s : Session} {turns : List Turn} {before since : List Executed}
    {e : Executed} (h : s.executed turns = before ++ e :: since) :
    ∃ earlier later, turns = earlier ++ .step :: later ∧ s.executed earlier = before ∧
      (s.play earlier).executes .step = [e] ∧
      (s.play (earlier ++ [.step])).executed later = since := by
  induction turns generalizing s before with
  | nil => simp [executed] at h
  | cons turn later ih =>
    rw [executed] at h
    rcases s.executes_cases turn with none | ⟨rfl, one⟩
    · rw [none, List.nil_append] at h
      obtain ⟨earlier, later, rfl, done, step, rest⟩ := ih h
      refine ⟨turn :: earlier, later, rfl, ?_, step, rest⟩
      rw [executed, none, done]
      rfl
    · rw [one] at h
      cases before with
      | nil =>
        obtain ⟨rfl, rest⟩ := List.cons.inj h
        exact ⟨[], later, rfl, rfl, one, rest⟩
      | cons first before =>
        obtain ⟨rfl, rest⟩ := List.cons.inj h
        obtain ⟨earlier, later, rfl, done, step, rest⟩ := ih rest
        refine ⟨.step :: earlier, later, rfl, ?_, step, rest⟩
        rw [executed, one, done]
        rfl

/-- A turn does to the open calls what its instruction does. -/
theorem live_take (s : Session) (turn : Turn) :
    (s.take turn).machine.registers.stack.live =
      (s.executes turn).foldl Executed.onCalls s.machine.registers.stack.live := by
  cases turn with
  | press key | release key =>
    rw [s.take_of_ne_step (by simp)]
    rfl
  | step =>
    cases h : s.machine.step with
    | error cause =>
      obtain ⟨none, machine⟩ := executes_of_fault h
      rw [none, machine]
      rfl
    | ok p =>
      obtain ⟨one, machine⟩ := executes_of_step h
      obtain ⟨-, word, -⟩ := Machine.of_step_ok h
      have live := Machine.live_of_step h
      rw [Machine.due, ← word] at live
      rw [one, machine]
      exact live

/-- The open calls lie on the stack. -/
theorem live_play (s : Session) (turns : List Turn) :
    (s.play turns).machine.registers.stack.live =
      (s.executed turns).foldl Executed.onCalls s.machine.registers.stack.live := by
  induction turns generalizing s with
  | nil => rfl
  | cons turn later ih =>
    show ((s.take turn).play later).machine.registers.stack.live = _
    rw [ih, live_take, executed, List.foldl_append]

/-- The session after a reset and an attempt to load a program. -/
def ready (s : Session) (program : List Byte) : Session := (s.reset.state.load program).state

theorem registers_ready (s : Session) (program : List Byte) :
    (s.ready program).machine.registers = Registers.initial := by
  unfold ready load
  cases s.reset.state.machine.memory.loadProgram program <;> rfl

/-- The step after the earlier turns carries out a call, and what all turns carry out after it is
balanced, so that this is the call that a return after all turns matches. -/
def Matches (s : Session) (turns earlier between : List Turn) : Prop :=
  turns = earlier ++ .step :: between ∧
  (∃ call, (s.play earlier).executes .step = [call] ∧ call.isCall) ∧
  Balanced ((s.play (earlier ++ [.step])).executed between)

/-- A call that is open was opened by an instruction, and everything since is balanced. -/
theorem exists_matches {s : Session} {turns : List Turn} {older : List Word} {youngest : Word}
    (h : openCalls (s.executed turns) = older ++ [youngest]) :
    ∃ earlier between, s.Matches turns earlier between := by
  obtain ⟨before, call, since, split, isCall, -, -, balanced⟩ := exists_call_of_openCalls h
  obtain ⟨earlier, between, rfl, -, step, rfl⟩ := turns_of_executed split
  exact ⟨earlier, between, rfl, ⟨call, step, isCall⟩, balanced⟩

/-- When a return is due, the youngest open call is the one it matches. -/
theorem live_of_matches {s : Session} {turns earlier between : List Turn}
    (h : s.Matches turns earlier between) :
    (s.play turns).machine.registers.stack.live =
        (s.play earlier).machine.registers.stack.live ++ [(s.play earlier).machine.registers.pc] ∧
      (s.play earlier).machine.registers.pc.toNat ≤ 0xFFE := by
  obtain ⟨rfl, ⟨call, step, isCall⟩, balanced⟩ := h
  have due := due_of_executes step
  constructor
  · rw [List.append_cons, play_append, live_play, balanced.foldl_onCalls, play_append, live_play,
      executed, executed, step, ← due, List.append_nil]
    exact if_pos (due ▸ isCall)
  · rw [executes, step_silent] at step
    cases hstep : (s.play earlier).machine.step with
    | error cause => rw [hstep] at step; cases step
    | ok p => exact (Machine.of_step_ok hstep).1

/-- A return that succeeds after the turns goes back to the call it matches. -/
theorem return_of_matches {s : Session} {turns earlier between : List Turn} {p : Machine.Progress}
    (h : s.Matches turns earlier between) (hstep : (s.play turns).machine.step = .ok p)
    (isReturn : (s.play turns).machine.due.isReturn) :
    p.machine.registers.pc.toNat = (s.play earlier).machine.registers.pc.toNat + 2 ∧
      p.machine.registers.stack.live = (s.play earlier).machine.registers.stack.live := by
  obtain ⟨live, low⟩ := live_of_matches h
  obtain ⟨address, closed, pc⟩ := Machine.pc_of_return hstep isReturn
  rw [live] at closed
  obtain ⟨same, address⟩ := List.append_inj' closed rfl
  obtain rfl := List.singleton_inj.mp address
  refine ⟨?_, same.symm⟩
  rw [pc]
  bv_omega

/-- After a reset and a load, whatever the program and however the keys are played:

The stack holds the open calls.  A return that succeeds matches a call, and for the call it matches it
goes on behind it, with the stack and its depth as they were before the call.  A call fails exactly if
sixteen calls are open, and a return exactly if none is. -/
theorem calls_and_returns_match (s : Session) (program : List Byte) (turns : List Turn) :
    let start := s.ready program
    let now := start.play turns
    let next := (now.step .silent).state.machine.registers
    let opened := openCalls (start.executed turns)
    now.machine.registers.stack.live = opened ∧
    (∀ word, (now.step .silent).result = .ok word →
      Executed.isReturn ⟨now.machine.registers.pc, word⟩ →
        (∃ earlier between, start.Matches turns earlier between) ∧
        ∀ earlier between, start.Matches turns earlier between →
          let caller := (start.play earlier).machine.registers
          next.pc.toNat = caller.pc.toNat + 2 ∧ next.stack.live = caller.stack.live ∧
            next.stack.depth = caller.stack.depth) ∧
    (now.machine.registers.pc.toNat ≤ 0xFFE → now.machine.due.isCall →
      ((∃ e, (now.step .silent).result = .error e) ↔ opened.length = 16)) ∧
    (now.machine.registers.pc.toNat ≤ 0xFFE → now.machine.due.isReturn →
      ((∃ e, (now.step .silent).result = .error e) ↔ opened.length = 0)) := by
  intro start now next opened
  have live : now.machine.registers.stack.live = opened := by
    have empty : start.machine.registers.stack.live = [] := by
      rw [registers_ready]
      rfl
    rw [live_play, empty]
    rfl
  have depth : now.machine.registers.stack.depth = opened.length := by
    rw [← live, CallStack.length_live]
  refine ⟨live, ?_, ?_, ?_⟩
  · intro word result isReturn
    cases hstep : now.machine.step with
    | error cause => rw [step_silent, hstep] at result; cases result
    | ok p =>
      rw [step_silent, hstep] at result
      have after : next = p.machine.registers := by
        show (now.step .silent).state.machine.registers = _
        rw [step_silent, hstep]
      obtain rfl := Except.ok.inj result
      obtain ⟨-, word, -⟩ := Machine.of_step_ok hstep
      rw [word] at isReturn
      constructor
      · obtain ⟨address, closed, -⟩ := Machine.pc_of_return hstep isReturn
        exact exists_matches (live.symm.trans closed)
      · intro earlier between matching caller
        obtain ⟨pc, same⟩ := return_of_matches matching hstep isReturn
        rw [after]
        refine ⟨pc, same, ?_⟩
        rw [← CallStack.length_live, same, CallStack.length_live]
  · intro inside isCall
    rw [step_silent_fails_iff, Machine.fault?_of_call inside isCall, depth]
  · intro inside isReturn
    rw [step_silent_fails_iff, Machine.fault?_of_return inside isReturn, depth]

/-- A call to `0x204`, where a register is set and then the return comes. -/
theorem calls_and_returns_match_once :
    let start := (initial ⟨.listed [] 0, 0, false⟩).ready
      [0x22, 0x04, 0x12, 0x02, 0x60, 0x01, 0x00, 0xEE]
    let now := start.play [.step, .press 3, .step]
    (now.step .silent).state.machine.registers.pc.toNat =
      (start.play []).machine.registers.pc.toNat + 2 ∧
    ((∃ e, ((start.play []).step .silent).result = .error e) ↔
      (openCalls (start.executed [])).length = 16) ∧
    ((∃ e, (now.step .silent).result = .error e) ↔
      (openCalls (start.executed [.step, .press 3, .step])).length = 0) := by
  have whole := calls_and_returns_match (initial ⟨.listed [] 0, 0, false⟩)
    [0x22, 0x04, 0x12, 0x02, 0x60, 0x01, 0x00, 0xEE]
  have ran :
      let start := (initial ⟨.listed [] 0, 0, false⟩).ready
        [0x22, 0x04, 0x12, 0x02, 0x60, 0x01, 0x00, 0xEE]
      (start.play []).executes .step = [⟨0x200, 0x2204⟩] ∧
      (start.play [.step]).executed [.press 3, .step] = [⟨0x204, 0x6001⟩] ∧
      (start.play [.step, .press 3, .step]).executes .step = [⟨0x206, 0x00EE⟩] := by decide +kernel
  generalize (initial ⟨.listed [] 0, 0, false⟩).ready
    [0x22, 0x04, 0x12, 0x02, 0x60, 0x01, 0x00, 0xEE] = start at whole ran ⊢
  obtain ⟨called, between, returned⟩ := ran
  obtain ⟨-, low⟩ := executes_step_eq_iff.mp called
  obtain ⟨result, pc⟩ := executes_step_eq_iff.mp returned
  have matching : start.Matches [.step, .press 3, .step] [] [.press 3, .step] :=
    ⟨rfl, ⟨_, called, by decide⟩, between ▸ .single (by decide) (by decide)⟩
  obtain ⟨-, returns, -, returnFails⟩ := whole [.step, .press 3, .step]
  obtain ⟨-, -, callFails, -⟩ := whole []
  have back := (returns 0x00EE result (by rw [pc]; decide)).2 [] [.press 3, .step] matching
  exact ⟨back.1, callFails (by rw [low]; decide) (by rw [due_of_executes called]; decide),
    returnFails (by rw [pc]; decide) (by rw [due_of_executes returned]; decide)⟩

end Session

end Chip8

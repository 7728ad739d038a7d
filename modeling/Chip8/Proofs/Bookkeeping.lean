import Mathlib.Data.List.DropRight
import Chip8.Proofs.Drivers
import Chip8.Proofs.RandomNumbers
import Chip8.Proofs.Restarts

/-!
# Bookkeeping

A session counts its instructions, notes its last fault, and tells of both as they happen.  All of that
can be told from what has been done to it: the count is the number of instructions carried out since the
last reset of the session or of its processor, the note is the last fault since the last reset of the
session, and every instruction has its own block of events, the record of it first and the news of it last
(`Session.books_match_deeds`).

Which deeds an operation has done can be told from its result (`Accounts`), as long as the hooks behave: as
long as they ask for nothing that fails and for no reset.  Otherwise one step may do any number of deeds.
-/

namespace Chip8

/-! ### Hooks that behave -/

/-- What can be asked of any session and does not start it over. -/
def Command.IsMild : Command → Prop
  | .stop => True
  | .press key | .release key => 0 ≤ key ∧ key < 16
  | .reset | .reload => False

/-- Hooks that never fail and never start a session over. -/
structure Hooks.Behaved (hooks : Hooks) : Prop where
  onStep : ∀ s, ∀ c ∈ hooks.onStep s, c.IsMild
  onFault : ∀ cause, ∀ c ∈ hooks.onFault cause, c.IsMild

/-! ### Requests -/

/-- An operation, or a number of rounds of the loop of a terminal. -/
inductive Request where
  | operate (op : Operation)
  | loop (hooks : Nat → Hooks) (steps : Nat)

/-- All hooks of a request behave. -/
def Request.Behaved : Request → Prop
  | .operate (.step hooks) => hooks.Behaved
  | .operate (.run hooks _ _) | .loop hooks _ => ∀ k, (hooks k).Behaved
  | _ => True

namespace Session

/-- Carries out a request; nothing comes of a run that is given up. -/
def serve (s : Session) : Request → Option (Outcome Session Answer)
  | .operate op => s.perform op
  | .loop hooks steps =>
    let o := Terminal.stepLoop hooks steps ⟨s, true, []⟩
    some ⟨o.state.session, o.events, o.result.map .number⟩

/-- Carries out requests one after the other, whether they succeed or fail. -/
def serveAll (s : Session) : List Request → Option (List (Outcome Session Answer))
  | [] => some []
  | r :: rs => (s.serve r).bind fun o => (o.state.serveAll rs).map (o :: ·)

end Session

/-! ### Deeds and results -/

namespace Deed

/-- Whether an instruction is carried out. -/
def isStep : Deed → Bool
  | .step .. => true
  | _ => false

/-- The fault that an instruction meets. -/
def fault? : Deed → Option Fault
  | .fault _ cause => some cause
  | _ => none

/-- Whether the count starts again. -/
def zeroes : Deed → Bool
  | .reset | .resetProcessor => true
  | _ => false

end Deed

/-- Instructions one after the other: how many are carried out, and the fault that ends them. -/
inductive Walk : List Deed → Nat → Option Fault → Prop where
  | nil : Walk [] 0 none
  | step {deeds : List Deed} {n : Nat} (m : Machine) (p : Machine.Progress) :
    Walk deeds n none → Walk (deeds ++ [.step m p]) (n + 1) none
  | fault {deeds : List Deed} {n : Nat} (m : Machine) (cause : Fault) :
    Walk deeds n none → Walk (deeds ++ [.fault m cause]) n (some cause)

/-- The result of a request, and the main deeds that were done to get it. -/
inductive Accounts : Request → Except Error Answer → List Deed → Prop where
  | step (hooks : Hooks) (m : Machine) (p : Machine.Progress) :
    Accounts (.operate (.step hooks)) (.ok (.word p.word)) [.step m p]
  | stepFault (hooks : Hooks) (m : Machine) (cause : Fault) :
    Accounts (.operate (.step hooks)) (.error (.fault cause)) [.fault m cause]
  | run {hooks : Nat → Hooks} {patience : Nat} {limit : Option Int} {main : List Deed} {n : Nat} :
    Walk main n none → Accounts (.operate (.run hooks patience limit)) (.ok (.number n)) main
  | runFault {hooks : Nat → Hooks} {patience : Nat} {limit : Option Int} {main : List Deed} {n : Nat}
    {cause : Fault} :
    Walk main n (some cause) →
    Accounts (.operate (.run hooks patience limit)) (.error (.fault cause)) main
  /-- The answer of the loop is the number of instructions that are left. -/
  | loop {hooks : Nat → Hooks} {main : List Deed} {n : Nat} :
    Walk main n none → Accounts (.loop hooks n) (.ok (.number 0)) main
  | loopFault {hooks : Nat → Hooks} {main : List Deed} {k n : Nat} {cause : Fault} :
    Walk main k (some cause) → k < n → Accounts (.loop hooks n) (.ok (.number (n - k))) main
  | reset : Accounts (.operate .reset) (.ok .done) [.reset]
  | reload : Accounts (.operate .reload) (.ok .done) [.reset]
  | reloadOfNothing : Accounts (.operate .reload) (.error (.load .noProgram)) []
  | resetProcessor : Accounts (.operate .resetProcessor) (.ok .done) [.resetProcessor]
  | plain {op : Operation} (h : op.IsPlain) (result : Except Error Answer) :
    Accounts (.operate op) result []

/-- Requests with their outcomes, and the deeds of each of them. -/
inductive Annals :
    Session → List Request → List (Outcome Session Answer) → List (List Deed) → Prop where
  | nil (s : Session) : Annals s [] [] []
  | cons {s : Session} {r : Request} {rs : List Request} {o : Outcome Session Answer}
    {os : List (Outcome Session Answer)} {deeds : List Deed} {rest : List (List Deed)} :
    Chronicle (fun _ => True) s deeds o.events o.state →
    Accounts r o.result (deeds.filter Deed.isMain) →
    Annals o.state rs os rest → Annals s (r :: rs) (o :: os) (deeds :: rest)

/-! ### Deeds and events -/

/-- The record of an instruction that is due: of its word, if tracing is on and there is one. -/
inductive Traced (m : Machine) : Bool → List Event → Prop where
  | off : Traced m false []
  | fetched {word : Word} (h : m.fetch = .ok word) :
    Traced m true
      [.log (.trace m.registers.pc word m.registers.i m.registers.stack.depth)]
  | lost {cause : Fault} (h : m.fetch = .error cause) : Traced m true []

/-- Whether an event belongs to an instruction that is carried out or faults. -/
def Event.isOfInstruction : Event → Bool
  | .log (.trace ..) | .log (.fault _) | .stepped .. | .faulted _ => true
  | _ => false

/-- What is told of a deed. -/
inductive Tells (tracing : Bool) : Deed → List Event → Prop where
  | step {m : Machine} {p : Machine.Progress} {record : List Event} (h : m.step = .ok p)
    (traced : Traced m tracing record) :
    Tells tracing (.step m p)
      (record ++ (p.signals.map .signal ++ [.stepped p.machine.registers.pc p.machine.count]))
  | fault {m : Machine} {cause : Fault} {record : List Event} (h : m.step = .error cause)
    (traced : Traced m tracing record) :
    Tells tracing (.fault m cause) (record ++ [.log (.fault cause), .faulted cause])
  | other {deed : Deed} {events : List Event} (noStep : deed.isStep = false)
    (noFault : deed.fault? = none) (quiet : ∀ event ∈ events, event.isOfInstruction = false) :
    Tells tracing deed events

section

variable {supply : List Byte → Prop}

namespace Outcome.By

variable {α : Type} {s t : Session} {main : List Deed} {o : Outcome Session α}

theorem mono {supply' : List Byte → Prop} (larger : ∀ program, supply program → supply' program)
    (h : o.By supply s main) : o.By supply' s main := by
  obtain ⟨deeds, only, h⟩ := h
  exact ⟨deeds, only, h.mono larger⟩

theorem silently (h : o.By supply s main) (happens : Happening supply o.state .other [] t) :
    By supply s main { o with state := t } := by
  obtain ⟨deeds, rfl, h⟩ := h
  have h := h.trans (.single happens)
  rw [List.append_nil] at h
  exact ⟨_, by rw [List.filter_append]; exact List.append_nil _, h⟩

end Outcome.By

namespace Session

open Outcome (By)

/-! ### Steps, runs and loops -/

variable (supply) in
/-- A mild command is carried out without a word. -/
theorem obey_of_isMild (s : Session) {c : Command} (mild : c.IsMild) :
    ∃ t, s.obey c = ⟨t, [], .ok ()⟩ ∧ Happening supply s .other [] t := by
  cases c with
  | stop => exact ⟨s.stop, rfl, .run s false⟩
  | reset | reload => exact mild.elim
  | press key | release key =>
    obtain ⟨low, high⟩ := mild
    obtain ⟨k, rfl⟩ : ∃ k : Key, key = k.val := ⟨⟨key.toNat, by omega⟩, by simp only; omega⟩
    exact ⟨_, s.withKey_val k _, .keypad s _⟩

variable (supply) in
theorem obeyAll_of_isMild (s : Session) {commands : List Command} (mild : ∀ c ∈ commands, c.IsMild) :
    ∃ t, s.obeyAll commands = ⟨t, [], .ok ()⟩ ∧ (s.obeyAll commands).By supply s [] := by
  induction commands generalizing s with
  | nil => exact ⟨s, rfl, .nil s _⟩
  | cons c cs ih =>
    obtain ⟨t, done, happens⟩ := s.obey_of_isMild supply (mild c (List.mem_cons_self ..))
    obtain ⟨u, rest, others⟩ := ih t fun c later => mild c (List.mem_cons_of_mem _ later)
    have all : s.obeyAll (c :: cs) = (t.obeyAll cs).after [] := by
      rw [obeyAll, done]
      rfl
    rw [all]
    refine ⟨u, by rw [rest]; rfl, By.after (.single happens) others⟩

variable (supply) in
/-- A step whose hooks behave is one main deed. -/
theorem step_of_behaved (s : Session) {hooks : Hooks} (behaved : hooks.Behaved) :
    (∃ p, (s.step hooks).result = .ok p.word ∧ (s.step hooks).By supply s [.step s.machine p]) ∨
      ∃ cause, (s.step hooks).result = .error (.fault cause) ∧
        (s.step hooks).By supply s [.fault s.machine cause] ∧
        (s.step hooks).events.any Event.isStepped = false := by
  cases next : s.machine.step with
  | ok p =>
    refine .inl ⟨p, ?_⟩
    obtain ⟨t, obeyed, others⟩ :=
      ({ s with machine := p.machine } : Session).obeyAll_of_isMild supply
        (behaved.onStep { s with machine := p.machine })
    rw [step_eq, next]
    dsimp only
    rw [obeyed] at others ⊢
    exact ⟨rfl, By.after (.single (.step next)) (By.map (fun _ => p.word) others)⟩
  | error cause =>
    refine .inr ⟨cause, ?_⟩
    obtain ⟨t, obeyed, others⟩ :=
      (s.faulted cause).obeyAll_of_isMild supply (behaved.onFault cause)
    rw [step_eq, next]
    dsimp only
    rw [obeyed] at others ⊢
    refine ⟨rfl, By.after (.single (.fault next)) others, ?_⟩
    show ((s.traceEvents ++ [Event.log (.fault cause), .faulted cause]) ++ []).any Event.isStepped = false
    rw [List.append_nil, List.any_append, any_isStepped_traceEvents]
    rfl

variable {hooks : Nat → Hooks} {s : Session} {n k : Nat}

variable (supply) in
/-- Steps that all succeed are a walk to the end. -/
theorem walk_of_ok (behaved : ∀ k, (hooks k).Behaved) (h : (s.stepTimes hooks n).result = .ok ()) :
    ∃ main, (s.stepTimes hooks n).By supply s main ∧ Walk main n none := by
  induction n with
  | zero => exact ⟨[], .nil s _, .nil⟩
  | succ n ih =>
    have before := stepTimes_ok_of_le h (Nat.le_succ n)
    obtain ⟨_, ⟨deeds, rfl, earlier⟩, walk⟩ := ih before
    rw [stepTimes_succ_of_ok before] at h ⊢
    obtain ⟨word, stepped⟩ := Outcome.result_map_unit_iff.mp h
    rcases (s.stepTimes hooks n).state.step_of_behaved supply (behaved n) with
      ⟨p, -, last⟩ | ⟨cause, failed, -⟩
    · exact ⟨_, By.after earlier (By.map _ last), .step _ p walk⟩
    · rw [failed] at stepped
      cases stepped

variable (supply) in
/-- Steps of which one fails are a walk up to the fault, and the failing one is not told as a step. -/
theorem walk_of_failure {e : Error} (behaved : ∀ k, (hooks k).Behaved)
    (h : (s.stepTimes hooks k).result = .ok ())
    (failed : ((s.stepTimes hooks k).state.step (hooks k)).result = .error e) :
    ∃ main cause, e = .fault cause ∧ (s.stepTimes hooks (k + 1)).By supply s main ∧
      Walk main k (some cause) ∧
      ((s.stepTimes hooks k).state.step (hooks k)).events.any Event.isStepped = false := by
  obtain ⟨_, ⟨deeds, rfl, earlier⟩, walk⟩ := walk_of_ok supply behaved h
  rcases (s.stepTimes hooks k).state.step_of_behaved supply (behaved k) with
    ⟨p, stepped, -⟩ | ⟨cause, met, last, unfinished⟩
  · rw [stepped] at failed
    cases failed
  · rw [met] at failed
    cases failed
    rw [stepTimes_succ_of_ok h]
    exact ⟨_, cause, rfl, By.after earlier (By.map _ last), .fault _ cause walk, unfinished⟩

variable (supply) in
/-- A run that has been started is a walk, and its result says how long it was or what ended it. -/
theorem walk_of_started (behaved : ∀ k, (hooks k).Behaved) (s : Session) (limit : Nat) :
    let o := advance hooks limit 0 #[] s.started
    ∃ main, o.By supply s main ∧
      ((∃ n, o.result = .ok n ∧ Walk main n none) ∨
        ∃ n cause, o.result = .error (.fault cause) ∧ Walk main n (some cause)) := by
  intro o
  have start : Chronicle supply s [.other] [] s.started := .single (.run s true)
  obtain ⟨k, inside, undisturbed, ending⟩ := exists_undisturbed hooks s.started limit
  obtain ⟨main, done, walk⟩ := walk_of_ok supply behaved undisturbed.1
  obtain ⟨rest, rfl⟩ := Nat.exists_eq_add_of_le inside
  rcases ending with none | stopped | ⟨less, running, e, failed⟩
  · have ended : o = _ := advance_of_undisturbed undisturbed rest
    obtain rfl : rest = 0 := by omega
    rw [ended]
    exact ⟨main, By.after start done, .inl ⟨k, rfl, walk⟩⟩
  · have ended : o = _ := advance_of_undisturbed undisturbed rest
    rw [advance_of_stopped stopped] at ended
    rw [ended]
    exact ⟨main, By.after start done, .inl ⟨k, rfl, walk⟩⟩
  · obtain ⟨more, rfl⟩ : ∃ more, rest = more + 1 := ⟨rest - 1, by omega⟩
    have ended : o = _ := advance_of_failure undisturbed running failed more
    obtain ⟨main, cause, rfl, done, walk, -⟩ := walk_of_failure supply behaved undisturbed.1 failed
    rw [ended]
    exact ⟨main, By.after start done, .inr ⟨k, cause, rfl, walk⟩⟩

theorem result_settle (o : Outcome Session Nat) : (settle o).result = o.result := by
  unfold settle
  split <;> rfl

/-- The result of a run accounts for the steps that it took. -/
theorem accounts_of_run (behaved : ∀ k, (hooks k).Behaved) {patience : Nat} {limit : Option Int}
    {o : Outcome Session Nat} (h : s.run hooks patience limit = some o) :
    ∃ main, o.By supply s main ∧
      Accounts (.operate (.run hooks patience limit)) (o.map .number).result main := by
  have answer {main : List Deed} {result : Except Error Nat}
      (ended : (∃ n, result = .ok n ∧ Walk main n none) ∨
        ∃ n cause, result = .error (.fault cause) ∧ Walk main n (some cause)) :
      Accounts (.operate (.run hooks patience limit)) (result.map .number) main := by
    obtain ⟨n, rfl, walk⟩ | ⟨n, cause, rfl, walk⟩ := ended
    · exact .run walk
    · exact .runFault walk
  unfold run at h
  dsimp only at h
  split at h
  · cases h
    obtain ⟨main, done, ended⟩ := walk_of_started supply behaved s
      (limit.getD s.config.maxInstructions).toNat
    refine ⟨main, ?_, ?_⟩
    · unfold runFor settle
      split
      · exact done.silently (.run _ false)
      · exact done
    · rw [Outcome.map, runFor, result_settle]
      exact answer ended
  · obtain ⟨main, done, ended⟩ := walk_of_started supply behaved s patience
    unfold runUntilStopped at h
    dsimp only at h
    obtain rfl : o = advance hooks patience 0 #[] s.started := by
      split at h
      · split at h
        · cases h
        · exact (Option.some.inj h).symm
      · exact (Option.some.inj h).symm
    exact ⟨main, done, answer ended⟩

theorem accounts_of_loop (behaved : ∀ k, (hooks k).Behaved) (s : Session) (n : Nat) :
    let o := Terminal.stepLoop hooks n ⟨s, true, []⟩
    ∃ main, Outcome.By supply s main ⟨o.state.session, o.events, o.result⟩ ∧
      Accounts (.loop hooks n) (o.map .number).result main := by
  intro o
  cases all : (s.stepTimes hooks n).result with
  | ok _ =>
    obtain ⟨main, done, walk⟩ := walk_of_ok supply behaved all
    have looped : o = _ := Terminal.stepLoop_of_stepTimes rfl all
    rw [looped]
    exact ⟨main, done, .loop walk⟩
  | error e =>
    obtain ⟨k, less, before, failed⟩ := exists_first_failure all
    obtain ⟨main, cause, rfl, done, walk, unfinished⟩ :=
      walk_of_failure supply behaved before failed
    have looped : o = _ := Terminal.stepLoop_of_failure rfl before failed rfl unfinished less
    rw [looped]
    exact ⟨main, done, .loopFault walk less⟩

/-! ### Requests -/

/-- Reloading is a reset, as the program that is remembered fits. -/
theorem by_reload {program : List Byte} (remembered : s.program = some program)
    (fits : program.length ≤ programCapacity) : s.reload.By supply s [.reset] := by
  have kept : s.reset.state.program = some program := by rw [reset_eq, remembered]
  have loads : (s.reset.state.load program).By supply s.reset.state [] :=
    s.reset.state.by_load (.inr kept)
  have ended : s.reload = Outcome.after s.reset.events
      ⟨(s.reset.state.load program).state, (s.reset.state.load program).events, .ok ()⟩ := by
    rw [reload, remembered]
    show Outcome.after _ ((s.reset.state.load program).andThen _) = _
    rw [load_of_fits _ fits]
    rfl
  rw [ended]
  exact By.after (.single (.reset s)) (By.map (fun _ => ()) loads)

/-- What a request does to a session can be told from its result. -/
theorem accounts_of_serve {r : Request} {o : Outcome Session Answer} (behaved : r.Behaved)
    (fits : ∀ program, s.program = some program → program.length ≤ programCapacity)
    (h : s.serve r = some o) :
    ∃ main, o.By (fun _ => True) s main ∧ Accounts r o.result main := by
  cases r with
  | loop hooks n =>
    cases h
    exact accounts_of_loop behaved s n
  | operate op =>
    have h : s.perform op = some o := h
    cases op with
    | step hooks =>
      cases h
      obtain ⟨p, result, done⟩ | ⟨cause, result, done, -⟩ :=
        s.step_of_behaved (fun _ => True) behaved
      · refine ⟨_, By.map Answer.word done, ?_⟩
        rw [Outcome.map, result]
        exact .step hooks _ p
      · refine ⟨_, By.map Answer.word done, ?_⟩
        rw [Outcome.map, result]
        exact .stepFault hooks _ cause
    | run hooks patience limit =>
      obtain ⟨ran, hran, rfl⟩ := Option.map_eq_some_iff.mp h
      exact accounts_of_run behaved hran
    | reset =>
      cases h
      exact ⟨_, .single (.reset s), .reset⟩
    | reload =>
      cases h
      cases remembered : s.program with
      | none =>
        rw [reload, remembered]
        exact ⟨[], .nil s _, .reloadOfNothing⟩
      | some program =>
        obtain ⟨result, -⟩ := reload_of_program remembered (fits program remembered)
        refine ⟨_, By.map _ (by_reload remembered (fits program remembered)), ?_⟩
        rw [Outcome.map, result]
        exact .reload
    | resetProcessor =>
      cases h
      exact ⟨_, .single (.resetProcessor s), .resetProcessor⟩
    | _ =>
      refine ⟨[], (by_perform_of_isPlain ?_ h).mono fun _ _ => trivial, .plain ?_ _⟩
      all_goals trivial

/-! ### The books -/

/-- What a session has in its books after deeds that began with a new one. -/
structure Books (deeds : List Deed) (s : Session) : Prop where
  count_eq : s.machine.count = (deeds.rtakeWhile (!·.zeroes)).countP Deed.isStep
  lastFault_eq : s.lastFault = ((deeds.rtakeWhile (!·.isReset)).filterMap Deed.fault?).getLast?

variable {t : Session} {deed : Deed} {before deeds : List Deed}
  {events : List Event}

/-- The books stay in order when something happens. -/
theorem books_of_happening (happens : Happening supply s deed events t)
    (books : Books before s) : Books (before ++ [deed]) t := by
  obtain ⟨count_eq, lastFault_eq⟩ := books
  -- A deed that resets nothing is added to those that count.
  have counted (stays : deed.zeroes = false) :
      ((before ++ [deed]).rtakeWhile (!·.zeroes)).countP Deed.isStep =
        s.machine.count + if deed.isStep then 1 else 0 := by
    rw [List.rtakeWhile_concat_pos _ _ _ (by rw [stays]; rfl), List.countP_append,
      List.countP_singleton, count_eq]
  have noted (stays : deed.isReset = false) :
      (((before ++ [deed]).rtakeWhile (!·.isReset)).filterMap Deed.fault?).getLast? =
        deed.fault?.or s.lastFault := by
    rw [List.rtakeWhile_concat_pos _ _ _ (by rw [stays]; rfl), List.filterMap_append,
      List.getLast?_append, lastFault_eq]
    cases deed <;> rfl
  cases happens with
  | @step p h =>
    refine ⟨?_, ?_⟩
    · rw [counted rfl]
      exact Machine.count_of_step h
    · rw [noted rfl]
      rfl
  | fault h => exact ⟨(counted rfl).symm, (noted rfl).symm⟩
  | reset =>
    rw [reset_eq]
    refine ⟨?_, ?_⟩
    · rw [List.rtakeWhile_concat_neg _ _ _ (by decide)]
      rfl
    · rw [List.rtakeWhile_concat_neg _ _ _ (by decide)]
      rfl
  | resetProcessor =>
    refine ⟨?_, (noted rfl).symm⟩
    rw [List.rtakeWhile_concat_neg _ _ _ (by decide)]
    rfl
  | _ => exact ⟨(counted rfl).symm, (noted rfl).symm⟩

theorem books_of_chronicle (h : Chronicle supply s deeds events t) (books : Books before s) :
    Books (before ++ deeds) t := by
  induction h generalizing before with
  | nil =>
    rw [List.append_nil]
    exact books
  | cons happens _ ih =>
    have rest := ih (books_of_happening happens books)
    rw [List.append_assoc] at rest
    exact rest

/-! ### The news -/

theorem traced_traceEvents (s : Session) : Traced s.machine s.config.trace s.traceEvents := by
  unfold traceEvents
  cases s.config.trace with
  | false => exact .off
  | true =>
    cases fetched : s.machine.fetch with
    | ok word => exact .fetched fetched
    | error cause => exact .lost fetched

theorem quiet_of_signals (signals : List Signal) :
    ∀ event ∈ signals.map Event.signal, event.isOfInstruction = false := by
  intro event sent
  obtain ⟨signal, -, rfl⟩ := List.mem_map.mp sent
  rfl

/-- The events of a deed are those that are said of it. -/
theorem tells_of_happening (happens : Happening supply s deed events t) :
    Tells s.config.trace deed events := by
  cases happens with
  | step h => exact .step h s.traced_traceEvents
  | fault h => exact .fault h s.traced_traceEvents
  | reset =>
    refine .other rfl rfl fun event told => ?_
    rcases List.mem_append.mp told with signal | log
    · exact quiet_of_signals _ event signal
    · rw [List.mem_singleton.mp log]
      rfl
  | resetProcessor | timers => exact .other rfl rfl (quiet_of_signals _)
  | load =>
    refine .other rfl rfl fun event told => ?_
    rw [List.mem_singleton.mp told]
    rfl
  | _ => exact .other rfl rfl nofun

theorem config_of_happening (happens : Happening supply s deed events t) : t.config = s.config := by
  cases happens with
  | reset => rw [reset_eq]
  | _ => rfl

theorem config_of_chronicle (h : Chronicle supply s deeds events t) : t.config = s.config := by
  induction h with
  | nil => rfl
  | cons happens _ ih => exact ih.trans (config_of_happening happens)

/-- Every deed has a block of events, one after the other. -/
theorem tells_of_chronicle (h : Chronicle supply s deeds events t) :
    ∃ blocks, List.Forall₂ (Tells s.config.trace) deeds blocks ∧ events = blocks.flatten := by
  induction h with
  | nil => exact ⟨[], .nil, rfl⟩
  | cons happens _ ih =>
    obtain ⟨blocks, rest, rfl⟩ := ih
    rw [config_of_happening happens] at rest
    exact ⟨_ :: blocks, .cons (tells_of_happening happens) rest, rfl⟩

end Session

/-! ### Annals -/

namespace Annals

variable {s : Session} {requests : List Request} {outcomes : List (Outcome Session Answer)}
  {deeds : List (List Deed)} {config : Config}

/-- The annals of requests make one chronicle. -/
theorem chronicle (h : Annals s requests outcomes deeds) :
    Chronicle (fun _ => True) s deeds.flatten (outcomes.flatMap (·.events)) (s.afterAll outcomes) := by
  induction h with
  | nil s => exact .nil s
  | cons first _ _ ih => exact first.trans ih

/-- Each request tells of its own deeds. -/
theorem tells (h : Annals s requests outcomes deeds) (same : s.config = config) :
    List.Forall₂ (fun deeds (o : Outcome Session Answer) => ∃ blocks,
      List.Forall₂ (Tells config.trace) deeds blocks ∧ o.events = blocks.flatten) deeds outcomes := by
  induction h with
  | nil => exact .nil
  | cons first _ _ ih =>
    subst same
    exact .cons (Session.tells_of_chronicle first) (ih (Session.config_of_chronicle first))

end Annals

end

namespace Session

variable {config : Config} {s : Session} {requests : List Request}
  {outcomes : List (Outcome Session Answer)}

theorem exists_annals (grown : Grown config s) (behaved : ∀ r ∈ requests, r.Behaved)
    (h : s.serveAll requests = some outcomes) : ∃ deeds, Annals s requests outcomes deeds := by
  induction requests generalizing s outcomes with
  | nil =>
    cases h
    exact ⟨[], .nil s⟩
  | cons r rs ih =>
    obtain ⟨o, first, h⟩ := Option.bind_eq_some_iff.mp h
    obtain ⟨os, rest, rfl⟩ := Option.map_eq_some_iff.mp h
    obtain ⟨_, ⟨deeds, rfl, done⟩, account⟩ :=
      accounts_of_serve (behaved r (List.mem_cons_self ..)) grown.program_fits first
    have grown : Grown config o.state := (history_of_chronicle done).invariant grown_of_change grown
    obtain ⟨others, later⟩ := ih grown (fun r later => behaved r (List.mem_cons_of_mem _ later)) rest
    exact ⟨_, .cons done account later⟩

/-- Whatever is asked of a new session, with hooks that behave: what has been done can be told from the
results, request by request.  The count is the number of instructions carried out since it last started
again, and the note is of the last fault since the last reset.  The events of a request are those of its
deeds one after the other, and an instruction has one record, one piece of news, and its signals between
them. -/
theorem books_match_deeds (behaved : ∀ r ∈ requests, r.Behaved)
    (h : (initial config).serveAll requests = some outcomes) :
    let t := (initial config).afterAll outcomes
    (∃ deeds, Annals (initial config) requests outcomes deeds) ∧
      ∀ deeds, Annals (initial config) requests outcomes deeds →
        t.machine.count = (deeds.flatten.rtakeWhile (!·.zeroes)).countP Deed.isStep ∧
        t.lastFault = ((deeds.flatten.rtakeWhile (!·.isReset)).filterMap Deed.fault?).getLast? ∧
        List.Forall₂ (fun deeds (o : Outcome Session Answer) => ∃ blocks,
          List.Forall₂ (Tells config.trace) deeds blocks ∧ o.events = blocks.flatten) deeds outcomes := by
  intro t
  refine ⟨exists_annals (grown_initial config) behaved h, fun deeds annals => ?_⟩
  have new : Books [] (initial config) := ⟨rfl, rfl⟩
  have books := books_of_chronicle annals.chronicle new
  exact ⟨books.count_eq, books.lastFault_eq, annals.tells rfl⟩

/-- A program that starts the tone and then returns with no call open, under hooks that answer both pieces
of news with a key. -/
theorem books_match_deeds_return :
    let hooks : Hooks := ⟨fun _ => [.press 3, .stop], fun _ => [.release 3]⟩
    let s := initial ⟨.listed [] 0, 0, true⟩
    let requests : List Request := [.operate (.load [0x60, 0x05, 0xF0, 0x18, 0x00, 0xEE]),
      .loop (fun _ => hooks) 5, .operate (.step hooks)]
    ∃ outcomes, s.serveAll requests = some outcomes ∧
      ∃ deeds, Annals s requests outcomes deeds ∧
        (deeds.flatten.rtakeWhile (!·.zeroes)).countP Deed.isStep = 2 ∧
        ((deeds.flatten.rtakeWhile (!·.isReset)).filterMap Deed.fault?).getLast? =
          some (.stackUnderflow 0x204) := by
  intro hooks s requests
  have mild : hooks.Behaved := by
    refine ⟨fun _ c asked => ?_, fun _ c asked => ?_⟩
    · rcases List.mem_pair.mp asked with rfl | rfl
      · exact ⟨by decide, by decide⟩
      · trivial
    · rw [List.mem_singleton.mp asked]
      exact ⟨by decide, by decide⟩
  have behaved : ∀ r ∈ requests, r.Behaved := by
    intro r asked
    simp only [requests, List.mem_cons, List.not_mem_nil, or_false] at asked
    obtain rfl | rfl | rfl := asked
    · trivial
    · exact fun _ => mild
    · exact mild
  have ran : (s.serveAll requests).map (fun outcomes =>
      ((s.afterAll outcomes).machine.count, (s.afterAll outcomes).lastFault)) =
      some (2, some (.stackUnderflow 0x204)) := by
    decide +kernel
  obtain ⟨outcomes, served, books⟩ := Option.map_eq_some_iff.mp ran
  obtain ⟨count, note⟩ := Prod.mk.inj books
  obtain ⟨⟨deeds, annals⟩, kept⟩ := books_match_deeds behaved served
  obtain ⟨counted, noted, -⟩ := kept deeds annals
  exact ⟨outcomes, served, deeds, annals, counted.symm.trans count, noted.symm.trans note⟩

end Session

end Chip8

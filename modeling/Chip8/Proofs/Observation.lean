import Chip8.Proofs.Viewing
import Chip8.Session.Operation

/-!
# Watching changes nothing

Whoever watches a session refreshes its display, takes the draw flag down, or has the instructions logged.
What is left of a session without the draw flag and the log is `Session.unwatched`, and what an operation
does to that is a matter of that alone: it is `Oblivious`.  So two runs of the same operations, one of them
watched at any moments, agree in everything else (`View.watching_changes_nothing`).
-/

namespace Chip8

/-! ### The draw flag -/

/-- The screen with the flag up or down. -/
def Screen.flagged (s : Screen) (up : Bool) : Screen := { s with drawFlag := up }

/-- Drawing does not look at the draw flag. -/
theorem Screen.drawSprite_flagged (s : Screen) (x y : Nat) (sprite : List Byte) (up : Bool) :
    ∃ up', (s.flagged up).drawSprite x y sprite =
      ((s.drawSprite x y sprite).1, (s.drawSprite x y sprite).2.flagged up') := by
  induction sprite generalizing s y up with
  | nil => exact ⟨up, rfl⟩
  | cons bits rest ih =>
    have first : (s.flagged up).drawRow x y bits =
        ((s.drawRow x y bits).1, (s.drawRow x y bits).2.flagged (up || bits != 0)) := rfl
    obtain ⟨up', below⟩ := ih (s.drawRow x y bits).2 (y + 1) (up || bits != 0)
    refine ⟨up', ?_⟩
    rw [drawSprite, first]
    dsimp only
    rw [below]
    rfl

namespace Machine

/-- The machine with the draw flag up or down. -/
def flagged (m : Machine) (up : Bool) : Machine := { m with screen := m.screen.flagged up }

/-- What an instruction does to the pixels does not depend on the draw flag. -/
theorem screenAfter_flagged (m : Machine) (i : Instruction) (up : Bool) :
    ∃ up', (m.flagged up).screenAfter i = (m.screenAfter i).flagged up' := by
  cases i with
  | clearScreen => exact ⟨true, rfl⟩
  | drawSprite x y height =>
    obtain ⟨up', drawn⟩ := m.screen.drawSprite_flagged (m.v x).toNat (m.v y).toNat
      (m.memory.slice m.registers.i.toNat height.val) up
    exact ⟨up', congrArg Prod.snd drawn⟩
  | _ => exact ⟨up, rfl⟩

/-- No instruction looks at the draw flag. -/
theorem execute_flagged (m : Machine) (i : Instruction) (up : Bool) :
    ∃ up', (m.flagged up).execute i =
      (m.execute i).map fun (after, sent) => (after.flagged up', sent) := by
  obtain ⟨up', drawn⟩ := m.screenAfter_flagged i up
  refine ⟨up', ?_⟩
  have holds (condition : Condition) (_ : i = .skip condition) :
      (m.facing m.keypad (m.screen.flagged up)).holds condition = m.holds condition := by
    cases condition <;> rfl
  have erases (x y : Nat) (sprite : List Byte) :
      ((m.screen.flagged up).drawSprite x y sprite).1 = (m.screen.drawSprite x y sprite).1 := by
    obtain ⟨_, same⟩ := m.screen.drawSprite_flagged x y sprite up
    rw [same]
  show (m.facing m.keypad (m.screen.flagged up)).execute i = _
  rw [execute_facing holds (fun _ => rfl) erases]
  cases executed : m.execute i with
  | error cause => rfl
  | ok next =>
    have parts := parts_of_execute executed
    show Except.ok (next.1.facing m.keypad ((m.flagged up).screenAfter i), _) =
      Except.ok (next.1.flagged up', _)
    rw [drawn, ← parts.screen, ← parts.keypad]
    rfl

/-- A step does the same whether the draw flag is up or down. -/
theorem step_flagged (m : Machine) (up : Bool) :
    ∃ up', (m.flagged up).step = m.step.map fun p => { p with machine := p.machine.flagged up' } := by
  have fetches : (m.flagged up).fetch = m.fetch := rfl
  rw [step, step, fetches]
  cases m.fetch with
  | error cause => exact ⟨up, rfl⟩
  | ok word =>
    dsimp only
    rw [executeWord, executeWord]
    cases Instruction.ofWord? word with
    | none => exact ⟨up, rfl⟩
    | some i =>
      obtain ⟨up', executed⟩ := m.execute_flagged i up
      refine ⟨up', ?_⟩
      dsimp only
      rw [executed]
      cases m.execute i <;> rfl

end Machine

/-! ### What is left without the flag and the log -/

namespace Event

/-- Whether an event is the record of an instruction. -/
def isTrace : Event → Bool
  | .log (.trace ..) => true
  | _ => false

end Event

/-- The events without the records of instructions. -/
def untraced (events : List Event) : List Event := events.filter (!·.isTrace)

theorem untraced_append (earlier later : List Event) :
    untraced (earlier ++ later) = untraced earlier ++ untraced later :=
  List.filter_append earlier later

namespace Session

/-- The session with the draw flag up or down, and instructions logged or not. -/
def watched (s : Session) (up on : Bool) : Session :=
  { s with config := { s.config with trace := on }, machine := s.machine.flagged up }

/-- The session with the draw flag down, and no instructions logged. -/
def unwatched (s : Session) : Session := s.watched false false

/-- Sessions that are the same but for the flag and the log differ by these alone. -/
theorem exists_watched {s t : Session} (same : s.unwatched = t.unwatched) :
    ∃ up on, t = s.watched up on := by
  refine ⟨t.machine.screen.drawFlag, t.config.trace, ?_⟩
  show t.unwatched.watched _ _ = s.unwatched.watched _ _
  rw [same]

theorem untraced_traceEvents_append (s : Session) (events : List Event) :
    untraced (s.traceEvents ++ events) = untraced events := by
  rw [untraced_append]
  unfold traceEvents
  split
  · cases s.machine.fetch <;> rfl
  · rfl

end Session

/-- The outcome with all that is left of it without the draw flag and the log of instructions. -/
def Outcome.unwatched {α : Type} (o : Outcome Session α) : Outcome Session α :=
  ⟨o.state.unwatched, untraced o.events, o.result⟩

/-- What is left of the outcome depends on what is left of the session. -/
def Oblivious {α : Type} (f : Session → Outcome Session α) : Prop :=
  ∀ s t : Session, s.unwatched = t.unwatched → (f s).unwatched = (f t).unwatched

section

variable {α β : Type}

theorem Outcome.unwatched_after (earlier : List Event) (o : Outcome Session α) :
    (o.after earlier).unwatched = o.unwatched.after (untraced earlier) := by
  rw [unwatched, after, untraced_append]
  rfl

theorem Outcome.unwatched_map (f : α → β) (o : Outcome Session α) :
    (o.map f).unwatched = o.unwatched.map f := rfl

/-- Outcomes are the same but for the flag and the log if state, events and result are. -/
theorem Outcome.unwatched_eq_iff {o o' : Outcome Session α} :
    o.unwatched = o'.unwatched ↔ o.state.unwatched = o'.state.unwatched ∧
      untraced o.events = untraced o'.events ∧ o.result = o'.result := by
  rw [unwatched, unwatched, Outcome.mk.injEq]

/-- What goes on obliviously keeps outcomes the same. -/
theorem Outcome.unwatched_andThen {o o' : Outcome Session α} {next : α → Session → Outcome Session β}
    (same : o.unwatched = o'.unwatched) (oblivious : ∀ a, Oblivious (next a)) :
    (o.andThen next).unwatched = (o'.andThen next).unwatched := by
  obtain ⟨t, events, result⟩ := o
  obtain ⟨t', events', result'⟩ := o'
  obtain ⟨states, logs, rfl⟩ := unwatched_eq_iff.mp same
  unfold andThen
  cases result with
  | error e => exact unwatched_eq_iff.mpr ⟨states, logs, rfl⟩
  | ok a =>
    show (Outcome.after events (next a t)).unwatched = (Outcome.after events' (next a t')).unwatched
    rw [unwatched_after, unwatched_after, logs, oblivious a t t' states]

namespace Oblivious

/-- It is enough that the flag and the log make no difference. -/
theorem of_watched {f : Session → Outcome Session α}
    (h : ∀ s up on, (f (s.watched up on)).unwatched = (f s).unwatched) : Oblivious f := by
  intro s t same
  obtain ⟨up, on, rfl⟩ := Session.exists_watched same
  rw [h]

theorem pure (result : Except Error α) : Oblivious fun s => ⟨s, [], result⟩ :=
  of_watched fun _ _ _ => rfl

theorem andThen {f : Session → Outcome Session α} {next : α → Session → Outcome Session β}
    (hf : Oblivious f) (hnext : ∀ a, Oblivious (next a)) :
    Oblivious fun s => (f s).andThen next :=
  fun s t same => Outcome.unwatched_andThen (hf s t same) hnext

theorem map {f : Session → Outcome Session α} (hf : Oblivious f) (g : α → β) :
    Oblivious fun s => (f s).map g := by
  intro s t same
  rw [Outcome.unwatched_map, Outcome.unwatched_map, hf s t same]

end Oblivious

end

/-- Hooks that look neither at the draw flag nor at whether instructions are logged. -/
def Hooks.Blind (hooks : Hooks) : Prop := ∀ s : Session, hooks.onStep s = hooks.onStep s.unwatched

namespace Session

/-! ### Commands -/

/-- Loading looks at neither the flag nor the log. -/
theorem oblivious_load (program : List Byte) : Oblivious (load · program) := by
  refine .of_watched fun s up on => ?_
  have memory : (s.watched up on).machine.memory = s.machine.memory := rfl
  simp only [load, memory]
  cases s.machine.memory.loadProgram program <;> rfl

theorem oblivious_loadFile (read : Rom.Path → Except Rom.ReadFailure (List Byte)) (name : String) :
    Oblivious (loadFile · read name) := by
  intro s t same
  unfold loadFile
  dsimp only
  split
  · exact Oblivious.pure _ s t same
  · cases read (Rom.Path.ofString name) with
    | error failure => exact Oblivious.pure _ s t same
    | ok program =>
      dsimp only
      split
      · exact Oblivious.pure _ s t same
      · exact oblivious_load program s t same

theorem oblivious_reset : Oblivious reset := .of_watched fun _ _ _ => rfl

theorem oblivious_reload : Oblivious reload := by
  intro s t same
  have program : s.unwatched.program = t.unwatched.program := congrArg Session.program same
  have program : s.program = t.program := program
  unfold reload
  rw [program]
  cases t.program with
  | none => exact Oblivious.pure _ s t same
  | some program =>
    exact oblivious_reset.andThen (fun _ => (oblivious_load program).andThen fun _ => .pure _) s t same

theorem oblivious_withKey (number : Int) (change : Keypad → Key → Keypad) :
    Oblivious (withKey · number change) := by
  refine .of_watched fun s up on => ?_
  unfold withKey
  cases Key.ofInt? number <;> rfl

theorem oblivious_obey (c : Command) : Oblivious (obey · c) := by
  cases c with
  | stop => exact .of_watched fun _ _ _ => rfl
  | reset => exact oblivious_reset
  | reload => exact oblivious_reload
  | press key | release key => exact oblivious_withKey key _

theorem oblivious_obeyAll (commands : List Command) : Oblivious (obeyAll · commands) := by
  induction commands with
  | nil => exact .pure _
  | cons c cs ih => exact (oblivious_obey c).andThen fun _ => ih

/-! ### Steps and runs -/

/-- A step is oblivious if its hooks are blind. -/
theorem oblivious_step {hooks : Hooks} (blind : hooks.Blind) : Oblivious (step hooks) := by
  refine .of_watched fun s up on => ?_
  obtain ⟨up', stepped⟩ := s.machine.step_flagged up
  rw [step_eq, step_eq, show (s.watched up on).machine.step = _ from stepped]
  cases s.machine.step with
  | error cause =>
    dsimp only [Except.map]
    rw [Outcome.unwatched_after, Outcome.unwatched_after, untraced_traceEvents_append,
      untraced_traceEvents_append]
    exact congrArg _ (Outcome.unwatched_andThen (oblivious_obeyAll _ _ _ rfl) fun _ => .pure _)
  | ok p =>
    dsimp only [Except.map]
    rw [Outcome.unwatched_after, Outcome.unwatched_after, untraced_traceEvents_append,
      untraced_traceEvents_append, blind, blind { s with machine := p.machine }]
    exact congrArg _ (Outcome.unwatched_andThen (oblivious_obeyAll _ _ _ rfl) fun _ => .pure _)

/-- Runs from sessions of which the same is left, after events of which the same is left. -/
theorem unwatched_advance {hooks : Nat → Hooks} (blind : ∀ k, (hooks k).Blind) (limit done : Nat)
    {past past' : Array Event} (logs : untraced past.toList = untraced past'.toList) {s t : Session}
    (same : s.unwatched = t.unwatched) :
    (advance hooks limit done past s).unwatched = (advance hooks limit done past' t).unwatched := by
  induction limit generalizing done past past' s t with
  | zero =>
    unfold advance
    exact Outcome.unwatched_eq_iff.mpr ⟨same, logs, rfl⟩
  | succ limit ih =>
    have running : s.unwatched.running = t.unwatched.running := congrArg Session.running same
    have running : s.running = t.running := running
    have stepped : (s.step (hooks done)).unwatched = (t.step (hooks done)).unwatched :=
      oblivious_step (blind done) s t same
    unfold advance
    rw [running]
    cases t.running with
    | false => exact Outcome.unwatched_eq_iff.mpr ⟨same, logs, rfl⟩
    | true =>
      rw [if_pos rfl, if_pos rfl]
      -- The steps agree in all that is left, so in particular both succeed or both fail.
      generalize s.step (hooks done) = o at stepped ⊢
      generalize t.step (hooks done) = o' at stepped ⊢
      obtain ⟨u, events, result⟩ := o
      obtain ⟨u', events', result'⟩ := o'
      obtain ⟨states, sent, rfl⟩ := Outcome.unwatched_eq_iff.mp stepped
      have all : untraced (past ++ events).toList = untraced (past' ++ events').toList := by
        rw [Array.toList_appendList, Array.toList_appendList, untraced_append, untraced_append, logs,
          sent]
      cases result with
      | ok word => exact ih (done + 1) all states
      | error e => exact Outcome.unwatched_eq_iff.mpr ⟨states, all, rfl⟩

/-- A run that has begun goes the same way with the flag up or down. -/
theorem unwatched_started {hooks : Nat → Hooks} (blind : ∀ k, (hooks k).Blind) (limit : Nat)
    {s t : Session} (same : s.unwatched = t.unwatched) :
    (advance hooks limit 0 #[] { s with running := true }).unwatched =
      (advance hooks limit 0 #[] { t with running := true }).unwatched :=
  unwatched_advance blind limit 0 rfl (congrArg (fun u : Session => { u with running := true }) same)

theorem oblivious_runFor {hooks : Nat → Hooks} (blind : ∀ k, (hooks k).Blind) (limit : Nat) :
    Oblivious (runFor hooks limit) := by
  intro s t same
  have ran := unwatched_started blind limit same
  unfold runFor
  generalize advance hooks limit 0 #[] { s with running := true } = o at ran ⊢
  generalize advance hooks limit 0 #[] { t with running := true } = o' at ran ⊢
  obtain ⟨u, events, result⟩ := o
  obtain ⟨u', events', result'⟩ := o'
  obtain ⟨states, logs, rfl⟩ := Outcome.unwatched_eq_iff.mp ran
  cases result with
  | ok done =>
    have stopped : u.stop.unwatched = u'.stop.unwatched := congrArg stop states
    exact Outcome.unwatched_eq_iff.mpr ⟨stopped, logs, rfl⟩
  | error e => exact ran

/-- A run without a limit ends for both sessions or for neither. -/
theorem unwatched_runUntilStopped {hooks : Nat → Hooks} (blind : ∀ k, (hooks k).Blind)
    (patience : Nat) {s t : Session} (same : s.unwatched = t.unwatched) :
    (s.runUntilStopped hooks patience).map Outcome.unwatched =
      (t.runUntilStopped hooks patience).map Outcome.unwatched := by
  have ran := unwatched_started blind patience same
  unfold runUntilStopped
  dsimp only
  generalize advance hooks patience 0 #[] { s with running := true } = o at ran ⊢
  generalize advance hooks patience 0 #[] { t with running := true } = o' at ran ⊢
  obtain ⟨u, events, result⟩ := o
  obtain ⟨u', events', result'⟩ := o'
  obtain ⟨states, logs, rfl⟩ := Outcome.unwatched_eq_iff.mp ran
  have running : u.unwatched.running = u'.unwatched.running := congrArg Session.running states
  have running : u.running = u'.running := running
  cases result with
  | error e => exact congrArg some ran
  | ok done =>
    dsimp only
    rw [running]
    cases u'.running with
    | true => rfl
    | false => exact congrArg some ran

theorem unwatched_run {hooks : Nat → Hooks} (blind : ∀ k, (hooks k).Blind) (patience : Nat)
    (limit : Option Int) {s t : Session} (same : s.unwatched = t.unwatched) :
    (s.run hooks patience limit).map Outcome.unwatched =
      (t.run hooks patience limit).map Outcome.unwatched := by
  have limits : s.unwatched.config.maxInstructions = t.unwatched.config.maxInstructions :=
    congrArg (·.config.maxInstructions) same
  have limits : s.config.maxInstructions = t.config.maxInstructions := limits
  unfold run
  rw [limits]
  dsimp only
  split
  · exact congrArg some (oblivious_runFor blind _ s t same)
  · exact unwatched_runUntilStopped blind patience same

/-! ### Operations -/

theorem oblivious_withMemory {ε : Type} (error : ε → Error) (access : Memory → Except ε Memory) :
    Oblivious fun s => s.withMemory error (access s.machine.memory) := by
  refine .of_watched fun s up on => ?_
  show ((s.watched up on).withMemory error (access s.machine.memory)).unwatched = _
  cases access s.machine.memory <;> rfl

theorem oblivious_xorPixel (x y bit : Int) : Oblivious (xorPixel · x y bit) := by
  refine .of_watched fun s up on => ?_
  have flagged : (s.machine.screen.flagged up).xorPixel x y bit =
      (s.machine.screen.xorPixel x y bit).map fun p => (p.1, p.2.flagged up) := by
    unfold Screen.xorPixel
    cases Screen.checkPlace x y <;> rfl
  unfold xorPixel
  rw [show (s.watched up on).machine.screen.xorPixel x y bit = _ from flagged]
  cases s.machine.screen.xorPixel x y bit <;> rfl

end Session

/-- The answer without the draw flag. -/
def Answer.unwatched : Answer → Answer
  | .flag _ => .done
  | answer => answer

/-- What is left of what comes of an operation. -/
def Outcome.plain (o : Outcome Session Answer) : Outcome Session Answer :=
  (o.map Answer.unwatched).unwatched

/-- The hooks of an operation look neither at the draw flag nor at whether instructions are logged. -/
def Operation.Blind : Operation → Prop
  | .step hooks => hooks.Blind
  | .run hooks _ _ => ∀ k, (hooks k).Blind
  | _ => True

namespace Session

/-- Operations have the same results but for the flag, which one of them reads. -/
theorem plain_perform {op : Operation} (blind : op.Blind) {s t : Session}
    (same : s.unwatched = t.unwatched) :
    (s.perform op).map Outcome.plain = (t.perform op).map Outcome.plain := by
  have plain {α : Type} {f : Session → Outcome Session α} (hf : Oblivious f) (g : α → Answer) :
      some ((f s).map g).plain = some ((f t).map g).plain :=
    congrArg some (((hf.map g).map Answer.unwatched) s t same)
  cases op with
  | step hooks => exact plain (oblivious_step blind) _
  | run hooks patience limit =>
    have ran := congrArg (Option.map fun o => (o.map Answer.number).map Answer.unwatched)
      (unwatched_run blind patience limit same)
    rw [Option.map_map, Option.map_map] at ran
    show ((s.run hooks patience limit).map _).map _ = ((t.run hooks patience limit).map _).map _
    rw [Option.map_map, Option.map_map]
    exact ran
  | reset => exact plain oblivious_reset _
  | load program => exact plain (oblivious_load program) _
  | loadFile read name => exact plain (oblivious_loadFile read name) _
  | reload => exact plain oblivious_reload _
  | press key | release key => exact plain (oblivious_withKey key _) _
  | write8 address value => exact plain (oblivious_withMemory .fault (·.write8 address value)) _
  | writeBlock address values =>
    exact plain (oblivious_withMemory .fault (·.writeBlock address (values.map Byte.ofInt))) _
  | fillMemory program => exact plain (oblivious_withMemory .load (·.loadProgram program)) _
  | resetMemory => exact plain (oblivious_withMemory .fault fun _ => .ok .initial) _
  | xorPixel x y bit => exact plain (oblivious_xorPixel x y bit) _
  | _ =>
    obtain ⟨up, on, rfl⟩ := exists_watched same
    rfl

end Session

/-! ### Looks -/

/-- A look at a session from outside. -/
inductive Look where
  /-- The display is brought up to date. -/
  | refresh
  /-- The draw flag is taken down. -/
  | consume
  /-- From now on instructions are logged, or not. -/
  | trace (on : Bool)

/-- What someone does who works with a session and watches it. -/
inductive Act where
  | operate (op : Operation)
  | watch (look : Look)

/-- The operations among the acts. -/
def operations (acts : List Act) : List Operation :=
  acts.filterMap fun
    | .operate op => some op
    | .watch _ => none

namespace View

/-- The view after a look. -/
def watch (v : View) : Look → View
  | .refresh => v.refresh.2
  | .consume => { v with session := (v.session.withScreen () v.session.machine.screen.consume.2).state }
  | .trace on => { v with session := { v.session with config := { v.session.config with trace := on } } }

/-- Does one thing after the other; what comes of the operations, and the view afterwards, if no run is
given up. -/
def performAll (v : View) : List Act → Option (List (Outcome Session Answer) × View)
  | [] => some ([], v)
  | .watch look :: acts => (v.watch look).performAll acts
  | .operate op :: acts =>
    match v.session.perform op with
    | none => none
    | some o => (performAll { v with session := o.state } acts).map fun (later, w) => (o :: later, w)

theorem unwatched_watch (v : View) (look : Look) :
    (v.watch look).session.unwatched = v.session.unwatched := by
  cases look <;> rfl

/-- The same operations on two sessions of which the same is left without the draw flag and the log of
instructions, one of them watched in between: the same comes of every operation, and the same is left of
the sessions after each of them. -/
theorem watching_changes_nothing {s : Session} {v : View} (same : s.unwatched = v.session.unwatched)
    (acts : List Act) (blind : ∀ op ∈ operations acts, op.Blind) :
    (s.performAll (operations acts)).map
        (fun outcomes => (outcomes.map Outcome.plain, (s.afterAll outcomes).unwatched)) =
      (v.performAll acts).map fun (outcomes, w) =>
        (outcomes.map Outcome.plain, w.session.unwatched) := by
  induction acts generalizing s v with
  | nil => exact congrArg (fun u => some ([], u)) same
  | cons act acts ih =>
    cases act with
    | watch look => exact ih (same.trans (v.unwatched_watch look).symm) blind
    | operate op =>
      have first := Session.plain_perform (blind op List.mem_cons_self) same
      show (Session.performAll s (op :: operations acts)).map _ = _
      rw [Session.performAll, performAll]
      generalize s.perform op = done at first ⊢
      generalize v.session.perform op = done' at first ⊢
      cases done with
      | none =>
        cases done' with
        | none => rfl
        | some o' => cases first
      | some o =>
        cases done' with
        | none => cases first
        | some o' =>
          have plain : o.plain = o'.plain := Option.some.inj first
          have states : o.state.unwatched = o'.state.unwatched := congrArg Outcome.state plain
          have rest := ih (v := { v with session := o'.state }) states fun op member =>
            blind op (List.mem_cons_of_mem _ member)
          have rest := congrArg (Option.map fun (later, u) => (o.plain :: later, u)) rest
          dsimp only
          rw [Option.map_map, Option.map_map] at rest ⊢
          show _ = Option.map (fun r : List (Outcome Session Answer) × View =>
            (o'.plain :: r.1.map Outcome.plain, r.2.session.unwatched)) _
          rw [← plain]
          exact rest

/-- A program that clears the screen and then jumps to the same place for ever.  A refresh between its first
step and the question for the draw flag changes the answer to that question, and nothing else. -/
theorem watching_changes_nothing_clear :
    let s := ((Session.initial ⟨.listed [] 0, 0, false⟩).load [0x00, 0xE0, 0x12, 0x02]).state
    let acts : List Act := [.watch (.trace true), .operate (.step .silent), .watch .refresh,
      .operate .consumeFlag, .watch .consume, .operate (.step .silent)]
    s.unwatched = (ofSession s).session.unwatched ∧ (∀ op ∈ operations acts, op.Blind) ∧
      (s.performAll (operations acts)).map
          (fun outcomes => (outcomes.map Outcome.plain, (s.afterAll outcomes).unwatched)) =
        ((ofSession s).performAll acts).map (fun (outcomes, w) =>
          (outcomes.map Outcome.plain, w.session.unwatched)) ∧
      (s.performAll (operations acts)).map (·.map (·.result.toOption)) =
        some [some (.word 0x00E0), some (.flag true), some (.word 0x1202)] ∧
      ((ofSession s).performAll acts).map (·.1.map (·.result.toOption)) =
        some [some (.word 0x00E0), some (.flag false), some (.word 0x1202)] := by
  intro s acts
  have blind : ∀ op ∈ operations acts, op.Blind := by
    intro op member
    have listed : op ∈ [Operation.step .silent, .consumeFlag, .step .silent] := member
    rcases List.mem_cons.mp listed with rfl | listed
    · exact fun _ => rfl
    rcases List.mem_cons.mp listed with rfl | listed
    · trivial
    rw [List.mem_singleton.mp listed]
    exact fun _ => rfl
  have same : s.unwatched = (ofSession s).session.unwatched := rfl
  exact ⟨same, blind, watching_changes_nothing same acts blind, by decide +kernel, by decide +kernel⟩

end View

end Chip8

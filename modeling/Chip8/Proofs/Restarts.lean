import Chip8.Proofs.Control
import Chip8.Proofs.Histories
import Chip8.Proofs.Parts

/-!
# Starting over

A reset gives back the session as it was when it was new, and a reload gives it back as it was when it
was new and had loaded the program that it remembers.  Whatever has been asked of the session in the
meantime, nothing is left of it but that program, and the place in a list of random numbers, which goes
on.

Which program is remembered can be told from the operations and their results alone: it is the last one
that was loaded with success (`Session.program_afterAll`).
-/

namespace Chip8

/-! ### The program that is remembered -/

/-- The program that an operation has loaded, if it was to load one and has succeeded. -/
def Operation.loaded? (op : Operation) (result : Except Error Answer) : Option (List Byte) :=
  match op, result with
  | .load program, .ok _ => some program
  | .loadFile read name, .ok _ => (read (Rom.Path.ofString name)).toOption
  | _, _ => none

/-- The last program that operations have loaded. -/
def lastLoaded (ops : List Operation) (outcomes : List (Outcome Session Answer)) :
    Option (List Byte) :=
  ((ops.zip outcomes).filterMap fun (op, o) => op.loaded? o.result).getLast?

/-- The program that was loaded last is looked for from the end. -/
theorem lastLoaded_cons (op : Operation) (o : Outcome Session Answer) (ops : List Operation)
    (outcomes : List (Outcome Session Answer)) :
    lastLoaded (op :: ops) (o :: outcomes) = (lastLoaded ops outcomes).or (op.loaded? o.result) := by
  unfold lastLoaded
  rw [List.zip_cons_cons, List.filterMap_cons]
  dsimp only
  cases op.loaded? o.result with
  | none => rw [Option.or_none]
  | some program =>
    rw [List.getLast?_cons]
    generalize List.getLast? _ = later
    cases later <;> rfl

namespace Session

variable {s t : Session} {events : List Event}

/-- Without a supply from outside no program is forgotten for another. -/
theorem program_of_change {supply : List Byte → Prop} (unsupplied : ∀ program, ¬ supply program)
    (change : Change supply s events t) : t.program = s.program := by
  cases change with
  | @load program memory known h =>
    have remembered := known.resolve_left (unsupplied program)
    exact remembered.symm
  | reset => rw [reset_eq]
  | _ => rfl

/-- No program is remembered but those that are supplied. -/
theorem program_of_history {supply : List Byte → Prop} (unsupplied : ∀ program, ¬ supply program)
    (h : History supply s events t) : t.program = s.program := by
  have preserved {u v : Session} {events : List Event} (change : Change supply u events v)
      (same : u.program = s.program) : v.program = s.program :=
    (program_of_change unsupplied change).trans same
  exact h.invariant preserved rfl

theorem program_of_load (s : Session) (program : List Byte) :
    (s.load program).state.program =
      (Operation.loaded? (.load program) ((s.load program).map .number).result).or s.program := by
  unfold load
  cases s.machine.memory.loadProgram program with
  | error cause => rfl
  | ok memory => rfl

theorem program_of_loadFile (s : Session) (read : Rom.Path → Except Rom.ReadFailure (List Byte))
    (name : String) :
    (s.loadFile read name).state.program =
      (Operation.loaded? (.loadFile read name)
        ((s.loadFile read name).map .number).result).or s.program := by
  unfold loadFile
  dsimp only
  split
  · rfl
  · cases h : read (Rom.Path.ofString name) with
    | error failure => rfl
    | ok program =>
      dsimp only
      split
      · rfl
      · rw [program_of_load]
        unfold load
        cases s.machine.memory.loadProgram program with
        | error cause => rfl
        | ok memory =>
          show some program = _
          simp [Operation.loaded?, Outcome.map, h, Except.toOption, Except.map]

/-- Any other operation leaves the program that is remembered. -/
theorem program_of_perform {op : Operation} {o : Outcome Session Answer} (h : s.perform op = some o) :
    o.state.program = (op.loaded? o.result).or s.program := by
  cases op with
  | load program =>
    cases h
    exact s.program_of_load program
  | loadFile read name =>
    cases h
    exact s.program_of_loadFile read name
  | _ =>
    have kept := program_of_history (fun _ => id) (history_of_perform h)
    rw [kept]
    rfl

/-- A session remembers the last program that it has loaded. -/
theorem program_afterAll {ops : List Operation} {outcomes : List (Outcome Session Answer)}
    (h : s.performAll ops = some outcomes) :
    (s.afterAll outcomes).program = (lastLoaded ops outcomes).or s.program := by
  induction ops generalizing s outcomes with
  | nil =>
    cases h
    rfl
  | cons op ops ih =>
    obtain ⟨o, later, first, rest, rfl⟩ := performAll_cons h
    have loaded := program_of_perform first
    calc (s.afterAll (o :: later)).program
      _ = (o.state.afterAll later).program := rfl
      _ = (lastLoaded ops later).or ((op.loaded? o.result).or s.program) := by rw [ih rest, loaded]
      _ = (lastLoaded (op :: ops) (o :: later)).or s.program := by
        rw [lastLoaded_cons, Option.or_assoc]

end Session

/-! ### What a session never loses -/

/-- What stays true of a session from its first moment on. -/
structure Session.Grown (config : Config) (s : Session) : Prop where
  config_eq : s.config = config
  source_listed : ∀ numbers drawn, config.source = .listed numbers drawn →
    ∃ position, s.machine.source = .listed numbers position
  program_fits : ∀ program, s.program = some program → program.length ≤ programCapacity

namespace Session

theorem grown_initial (config : Config) : Grown config (initial config) where
  config_eq := rfl
  source_listed numbers drawn h := ⟨drawn, h⟩
  program_fits program h := by cases h

/-- No change takes away what a session never loses. -/
theorem grown_of_change {config : Config} {supply : List Byte → Prop} {s t : Session}
    {events : List Event} (change : Change supply s events t) (grown : Grown config s) :
    Grown config t := by
  obtain ⟨config_eq, source_listed, program_fits⟩ := grown
  cases change with
  | @instruction word m sent fetched h =>
    refine ⟨config_eq, fun numbers drawn listed => ?_, program_fits⟩
    obtain ⟨position, before⟩ := source_listed numbers drawn listed
    obtain ⟨i, -, executed⟩ := Machine.of_executeWord_ok h
    have source := (Machine.parts_of_execute executed).source
    cases i with
    | random x mask =>
      refine ⟨position + 1, source.trans ?_⟩
      rw [Machine.sourceAfter, before]
      rfl
    | _ => exact ⟨position, source.trans before⟩
  | reset =>
    rw [reset_eq]
    refine ⟨config_eq, fun numbers drawn listed => ?_, program_fits⟩
    obtain ⟨position, before⟩ := source_listed numbers drawn listed
    refine ⟨position, ?_⟩
    rw [config_eq, listed, Machine.initial]
    exact before
  | @load program memory known h =>
    refine ⟨config_eq, source_listed, fun other same => ?_⟩
    cases same
    have fits := s.machine.memory.loadProgram_isOk_iff program
    rw [h] at fits
    exact fits.mp rfl
  | _ => exact ⟨config_eq, source_listed, program_fits⟩

/-! ### Reset and reload -/

/-- A program that fits takes its place in the memory and is remembered. -/
theorem load_of_fits (s : Session) {program : List Byte} (fits : program.length ≤ programCapacity) :
    s.load program =
      { state := { s with
          machine := { s.machine with memory := s.machine.memory.store programStart program }
          program := some program }
        events := [.log (.loaded program.length)]
        result := .ok program.length } := by
  have loaded : s.machine.memory.loadProgram program =
      .ok (s.machine.memory.store programStart program) := if_neg (by omega)
  rw [load, loaded]

/-- A reload that finds a program is a reset and a load. -/
theorem reload_of_program {s : Session} {program : List Byte} (remembered : s.program = some program)
    (fits : program.length ≤ programCapacity) :
    s.reload.result = .ok () ∧ s.reload.state = (s.reset.state.load program).state := by
  have loaded := s.reset.state.load_of_fits fits
  unfold reload
  rw [remembered]
  dsimp only
  have resets : s.reset.result = .ok () := rfl
  simp only [Outcome.andThen, resets, loaded, Outcome.after, and_self]

/-- After any operations a reset makes the session new, but for the program that it remembers, and a
reload makes it new and loads that program, or fails and changes nothing if there is none.  A list of
random numbers is not rewound. -/
theorem reset_and_reload_start_over (config : Config) (ops : List Operation)
    (outcomes : List (Outcome Session Answer)) (h : (initial config).performAll ops = some outcomes) :
    let s := (initial config).afterAll outcomes
    ∃ new : Session,
      (∀ generator, config.source = .seeded generator → new = initial config) ∧
      (∀ numbers drawn, config.source = .listed numbers drawn → ∃ position,
        s.machine.source = .listed numbers position ∧
        new = { initial config with machine := Machine.initial (.listed numbers position) }) ∧
      (s.reset.result = .ok () ∧ s.reset.state = { new with program := lastLoaded ops outcomes }) ∧
      (lastLoaded ops outcomes = none → s.reload = ⟨s, [], .error (.load .noProgram)⟩) ∧
      ∀ program, lastLoaded ops outcomes = some program →
        s.reload.result = .ok () ∧ (new.load program).result = .ok program.length ∧
        s.reload.state = (new.load program).state ∧
        ∀ later, s.reload.state.performAll later = (new.load program).state.performAll later := by
  intro s
  have grown : Grown config s :=
    (history_of_performAll h).invariant grown_of_change (grown_initial config)
  obtain ⟨config_eq, source_listed, program_fits⟩ := grown
  have remembered : s.program = lastLoaded ops outcomes := by
    rw [program_afterAll h]
    exact Option.or_none
  obtain ⟨new, hnew⟩ : ∃ new : Session, new =
      { initial config with machine := Machine.initial (config.source.restart s.machine.source) } :=
    ⟨_, rfl⟩
  have resets : s.reset.state = { new with program := lastLoaded ops outcomes } := by
    rw [reset_eq, config_eq, remembered, hnew]
    rfl
  refine ⟨new, ?_, ?_, ⟨rfl, resets⟩, ?_, ?_⟩
  · intro generator seeded
    rw [hnew, initial, seeded]
    rfl
  · intro numbers drawn listed
    obtain ⟨position, before⟩ := source_listed numbers drawn listed
    refine ⟨position, before, ?_⟩
    rw [hnew, listed, before]
    rfl
  · intro none
    rw [reload, remembered, none]
  · intro program last
    have fits := program_fits program (remembered.trans last)
    obtain ⟨result, state⟩ := reload_of_program (remembered.trans last) fits
    have same : s.reload.state = (new.load program).state := by
      rw [state, resets, load_of_fits _ fits, load_of_fits _ fits]
    refine ⟨result, ?_, same, fun later => by rw [same]⟩
    rw [load_of_fits _ fits]

/-- A program that takes a random number and then runs into a fault. -/
theorem reset_and_reload_start_over_listed :
    let s := initial ⟨.listed [7, 9] 0, 0, false⟩
    let loaded := (s.load [0xC0, 0xFF]).map Answer.number
    let drawn := (loaded.state.step .silent).map Answer.word
    let failed := (drawn.state.step .silent).map Answer.word
    s.performAll [.load [0xC0, 0xFF], .step .silent, .step .silent] = some [loaded, drawn, failed] ∧
      failed.state.lastFault = some (.invalidOpcode 0 (some 0x202)) ∧
      failed.state.reload.state =
        ({ s with machine := Machine.initial (.listed [7, 9] 1) }.load [0xC0, 0xFF]).state := by
  intro s loaded drawn failed
  have performed : s.performAll [.load [0xC0, 0xFF], .step .silent, .step .silent] =
      some [loaded, drawn, failed] := rfl
  obtain ⟨new, -, listed, -, -, reloads⟩ := reset_and_reload_start_over _ _ _ performed
  obtain ⟨position, source, rfl⟩ := listed [7, 9] 0 rfl
  have ends : failed.state.machine.source = .listed [7, 9] 1 ∧
      failed.state.lastFault = some (.invalidOpcode 0 (some 0x202)) := by decide +kernel
  obtain ⟨once, fault⟩ := ends
  have first : position = 1 := by
    have same := source.symm.trans once
    injection same
  have last : lastLoaded [.load [0xC0, 0xFF], .step .silent, .step .silent] [loaded, drawn, failed] =
      some [0xC0, 0xFF] := rfl
  obtain ⟨-, -, state, -⟩ := reloads _ last
  rw [first] at state
  exact ⟨performed, fault, state⟩

end Session

end Chip8

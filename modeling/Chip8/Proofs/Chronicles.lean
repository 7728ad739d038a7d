import Chip8.Proofs.Transition
import Chip8.Proofs.Turns
import Chip8.Session.Operation

/-!
# Chronicles

Whatever is asked of a session, and whatever hooks answer on the way, a few kinds of things happen to it:
an instruction is carried out or faults, the session or its processor is reset, a program is loaded, or one
part is exchanged for another.  A `Chronicle` is a list of such deeds together with the events that they
send, and it says where the programs come from that are loaded in it: from a supply outside, or the session
has remembered them.

`Session.chronicle_of_perform` proves that operations do nothing else, whether they succeed or fail.
-/

namespace Chip8

/-- What happens to a session.  Of an instruction the machine before it is noted. -/
inductive Deed where
  /-- An instruction is carried out. -/
  | step (m : Machine) (p : Machine.Progress)
  /-- An instruction faults. -/
  | fault (m : Machine) (cause : Fault)
  | reset
  | resetProcessor
  /-- A program is loaded, or one part is exchanged for another. -/
  | other

/-- Whether a deed is more than a load or an exchange of one part. -/
def Deed.isMain : Deed → Bool
  | .other => false
  | _ => true

/-- A deed, and the events that it sends. -/
inductive Happening (supply : List Byte → Prop) : Session → Deed → List Event → Session → Prop where
  | step {s : Session} {p : Machine.Progress} (h : s.machine.step = .ok p) :
    Happening supply s (.step s.machine p)
      (s.traceEvents ++ (p.signals.map .signal ++ [.stepped p.machine.registers.pc p.machine.count]))
      { s with machine := p.machine }
  | fault {s : Session} {cause : Fault} (h : s.machine.step = .error cause) :
    Happening supply s (.fault s.machine cause)
      (s.traceEvents ++ [.log (.fault cause), .faulted cause]) (s.faulted cause)
  | reset (s : Session) : Happening supply s .reset s.reset.events s.reset.state
  | resetProcessor (s : Session) :
    Happening supply s .resetProcessor (s.withMachine s.machine.resetProcessor).events
      (s.withMachine s.machine.resetProcessor).state
  | load {s : Session} {program : List Byte} {memory : Memory}
    (known : supply program ∨ s.program = some program)
    (h : s.machine.memory.loadProgram program = .ok memory) :
    Happening supply s .other [.log (.loaded program.length)]
      { s with machine := { s.machine with memory }, program := some program }
  | run (s : Session) (running : Bool) : Happening supply s .other [] { s with running }
  | keypad (s : Session) (keypad : Keypad) : Happening supply s .other [] (s.withKeypad keypad)
  | memory (s : Session) (memory : Memory) :
    Happening supply s .other [] { s with machine := { s.machine with memory } }
  | screen (s : Session) (screen : Screen) :
    Happening supply s .other [] { s with machine := { s.machine with screen } }
  | timers (s : Session) (timers : Timers) :
    Happening supply s .other ((Timers.notice s.machine.timers timers).map .signal)
      { s with machine := { s.machine with timers } }

/-- Deeds one after the other, and the events of all of them. -/
inductive Chronicle (supply : List Byte → Prop) :
    Session → List Deed → List Event → Session → Prop where
  | nil (s : Session) : Chronicle supply s [] [] s
  | cons {s t u : Session} {deed : Deed} {deeds : List Deed} {first rest : List Event} :
    Happening supply s deed first t → Chronicle supply t deeds rest u →
    Chronicle supply s (deed :: deeds) (first ++ rest) u

/-- A larger supply allows the same deeds. -/
theorem Happening.mono {supply supply' : List Byte → Prop} {s t : Session} {deed : Deed}
    {events : List Event} (larger : ∀ program, supply program → supply' program)
    (happens : Happening supply s deed events t) : Happening supply' s deed events t := by
  cases happens with
  | step h => exact .step h
  | fault h => exact .fault h
  | reset => exact .reset _
  | resetProcessor => exact .resetProcessor _
  | load known h => exact .load (known.imp_left (larger _)) h
  | run => exact .run _ _
  | keypad => exact .keypad _ _
  | memory => exact .memory _ _
  | screen => exact .screen _ _
  | timers => exact .timers _ _

section

variable {supply supply' : List Byte → Prop}

namespace Chronicle

variable {s t u : Session} {deed : Deed} {deeds deeds' : List Deed} {first rest : List Event}

theorem single (happens : Happening supply s deed first t) : Chronicle supply s [deed] first t := by
  have h := cons happens (nil t)
  rwa [List.append_nil] at h

theorem trans (h₁ : Chronicle supply s deeds first t) (h₂ : Chronicle supply t deeds' rest u) :
    Chronicle supply s (deeds ++ deeds') (first ++ rest) u := by
  induction h₁ with
  | nil => exact h₂
  | cons happens _ ih =>
    rw [List.append_assoc]
    exact cons happens (ih h₂)

theorem mono (larger : ∀ program, supply program → supply' program)
    (h : Chronicle supply s deeds first t) : Chronicle supply' s deeds first t := by
  induction h with
  | nil => exact nil _
  | cons happens _ ih => exact cons (happens.mono larger) ih

/-- A chronicle can be taken apart wherever its deeds can. -/
theorem split {before later : List Deed} {events : List Event}
    (h : Chronicle supply s (before ++ later) events u) :
    ∃ t first rest, Chronicle supply s before first t ∧ Chronicle supply t later rest u ∧
      events = first ++ rest := by
  induction before generalizing s events with
  | nil => exact ⟨s, [], events, nil s, h, rfl⟩
  | cons deed before ih =>
    cases h with
    | cons happens others =>
      obtain ⟨t, first, rest, earlier, later, rfl⟩ := ih others
      exact ⟨t, _, rest, cons happens earlier, later, (List.append_assoc ..).symm⟩

end Chronicle

/-- The outcome has come about by deeds. -/
def Outcome.From {α : Type} (supply : List Byte → Prop) (s : Session) (o : Outcome Session α) : Prop :=
  ∃ deeds, Chronicle supply s deeds o.events o.state

namespace Outcome.From

variable {α β : Type} {s t : Session} {deed : Deed} {deeds : List Deed} {events : List Event}

theorem nil (s : Session) (result : Except Error α) : From supply s ⟨s, [], result⟩ := ⟨[], .nil s⟩

theorem single {result : Except Error α} (happens : Happening supply s deed events t) :
    From supply s ⟨t, events, result⟩ :=
  ⟨[deed], .single happens⟩

theorem map {o : Outcome Session α} (f : α → β) (h : o.From supply s) : (o.map f).From supply s := h

theorem after {o : Outcome Session α} (h₁ : Chronicle supply s deeds events t)
    (h₂ : o.From supply t) : (o.after events).From supply s := by
  obtain ⟨others, h₂⟩ := h₂
  exact ⟨_, h₁.trans h₂⟩

theorem andThen {o : Outcome Session α} {next : α → Session → Outcome Session β}
    (h₁ : o.From supply s) (h₂ : ∀ a, (next a o.state).From supply o.state) :
    (o.andThen next).From supply s := by
  unfold Outcome.andThen
  cases o.result with
  | error e => exact h₁
  | ok a =>
    obtain ⟨deeds, h₁⟩ := h₁
    exact after h₁ (h₂ a)

/-- One more deed that sends nothing. -/
theorem silently {o : Outcome Session α} (h : o.From supply s)
    (happens : Happening supply o.state deed [] t) : From supply s { o with state := t } := by
  obtain ⟨deeds, h⟩ := h
  have h := h.trans (.single happens)
  rw [List.append_nil] at h
  exact ⟨_, h⟩

end Outcome.From

/-- The outcome has come about by deeds of which these are the main ones. -/
def Outcome.By {α : Type} (supply : List Byte → Prop) (s : Session) (main : List Deed)
    (o : Outcome Session α) : Prop :=
  ∃ deeds, deeds.filter Deed.isMain = main ∧ Chronicle supply s deeds o.events o.state

namespace Outcome.By

variable {α β : Type} {s t : Session} {deed : Deed} {main deeds : List Deed} {events : List Event}

theorem toFrom {o : Outcome Session α} (h : o.By supply s main) : o.From supply s := by
  obtain ⟨deeds, -, h⟩ := h
  exact ⟨deeds, h⟩

theorem nil (s : Session) (result : Except Error α) : By supply s [] ⟨s, [], result⟩ :=
  ⟨[], rfl, .nil s⟩

theorem single {result : Except Error α} (happens : Happening supply s deed events t) :
    By supply s ([deed].filter Deed.isMain) ⟨t, events, result⟩ :=
  ⟨[deed], rfl, .single happens⟩

theorem map {o : Outcome Session α} (f : α → β) (h : o.By supply s main) :
    (o.map f).By supply s main := h

theorem after {o : Outcome Session α} (h₁ : Chronicle supply s deeds events t)
    (h₂ : o.By supply t main) : (o.after events).By supply s (deeds.filter Deed.isMain ++ main) := by
  obtain ⟨others, rfl, h₂⟩ := h₂
  exact ⟨_, List.filter_append .., h₁.trans h₂⟩

end Outcome.By

namespace Session

open Outcome (From By)

/-! ### Commands -/

/-- A program is loaded whole or not at all, and it must be supplied or known. -/
theorem by_load (s : Session) {program : List Byte}
    (known : supply program ∨ s.program = some program) : (s.load program).By supply s [] := by
  unfold load
  cases h : s.machine.memory.loadProgram program with
  | error cause => exact .nil s _
  | ok memory => exact .single (.load known h)

/-- A file is read before anything changes, and what is read is supplied. -/
theorem by_loadFile (s : Session) {read : Rom.Path → Except Rom.ReadFailure (List Byte)}
    {name : String} (supplied : ∀ program, read (Rom.Path.ofString name) = .ok program → supply program) :
    (s.loadFile read name).By supply s [] := by
  unfold loadFile
  dsimp only
  split
  · exact .nil s _
  · cases h : read (Rom.Path.ofString name) with
    | error failure => exact .nil s _
    | ok program =>
      dsimp only
      split
      · exact .nil s _
      · exact s.by_load (.inl (supplied program h))

/-- Reloading resets the session, and loads the program if that still fits. -/
theorem from_reload (s : Session) : s.reload.From supply s := by
  unfold reload
  cases h : s.program with
  | none => exact .nil s _
  | some program =>
    refine From.andThen (.single (.reset s)) fun _ => ?_
    -- A reset keeps the program, so what is loaded is what the session remembers.
    have remembered : s.reset.state.program = some program := by rw [reset_eq, h]
    exact From.andThen (s.reset.state.by_load (.inr remembered)).toFrom fun _ => .nil _ _

/-- A key that there is none of changes nothing. -/
theorem by_withKey (s : Session) (number : Int) (change : Keypad → Key → Keypad) :
    (s.withKey number change).By supply s [] := by
  unfold withKey
  cases Key.ofInt? number with
  | none => exact .nil s _
  | some key => exact .single (.keypad s (change s.machine.keypad key))

/-- Whatever an operation on the timers says, it is the notice that is due. -/
theorem by_withTimers (s : Session) {m : Machine × List Signal} {timers : Timers}
    (h : m = ({ s.machine with timers }, s.machine.timers.notice timers)) :
    (s.withMachine m).By supply s [] := by
  rw [h]
  exact .single (.timers s timers)

/-- Each command is told by a chronicle, also if it fails. -/
theorem from_obey (s : Session) (c : Command) : (s.obey c).From supply s := by
  cases c with
  | stop => exact .single (.run s false)
  | reset => exact .single (.reset s)
  | reload => exact s.from_reload
  | press key | release key => exact (s.by_withKey key _).toFrom

theorem from_obeyAll (s : Session) (commands : List Command) : (s.obeyAll commands).From supply s := by
  induction commands generalizing s with
  | nil => exact .nil s _
  | cons c cs ih => exact From.andThen (s.from_obey c) fun _ => ih _

/-! ### Steps and runs -/

/-- A step is one deed, and what the hooks answer to it. -/
theorem from_step (s : Session) (hooks : Hooks) : (s.step hooks).From supply s := by
  rw [step_eq]
  cases h : s.machine.step with
  | error cause =>
    exact From.after (.single (.fault h))
      (From.andThen ((s.faulted cause).from_obeyAll _) fun _ => .nil _ _)
  | ok p => exact From.after (.single (.step h)) (From.andThen (from_obeyAll _ _) fun _ => .nil _ _)

/-- The loop of a run is told step by step. -/
theorem from_advance (hooks : Nat → Hooks) (limit done : Nat) (past : Array Event) (s : Session) :
    ∃ events, (advance hooks limit done past s).events = past.toList ++ events ∧
      ∃ deeds, Chronicle supply s deeds events (advance hooks limit done past s).state := by
  induction limit generalizing done past s with
  | zero => exact ⟨[], by simp [advance], [], .nil s⟩
  | succ limit ih =>
    unfold advance
    split
    · have stepped : (s.step (hooks done)).From supply s := s.from_step (hooks done)
      unfold From at stepped
      cases h : s.step (hooks done) with
      | mk t events result =>
        rw [h] at stepped
        cases result with
        | error e => exact ⟨events, by simp, stepped⟩
        | ok word =>
          obtain ⟨deeds, stepped⟩ := stepped
          obtain ⟨later, split, others, rest⟩ := ih (done + 1) (past ++ events) t
          refine ⟨events ++ later, ?_, _, stepped.trans rest⟩
          rw [split]
          simp
    · exact ⟨[], by simp, [], .nil s⟩

/-- A run that has been started carries out its instructions. -/
theorem from_started (hooks : Nat → Hooks) (limit : Nat) (s : Session) :
    (advance hooks limit 0 #[] { s with running := true }).From supply s := by
  obtain ⟨events, all, deeds, ran⟩ := from_advance hooks limit 0 #[] { s with running := true }
  have started := (Chronicle.single (.run s true)).trans ran
  unfold From
  rw [all]
  exact ⟨_, started⟩

/-- A run is told by a chronicle, however it ends. -/
theorem from_run {s : Session} {hooks : Nat → Hooks} {patience : Nat} {limit : Option Int}
    {o : Outcome Session Nat} (h : s.run hooks patience limit = some o) : o.From supply s := by
  unfold run at h
  dsimp only at h
  split at h
  · cases h
    unfold runFor settle
    split
    · exact (s.from_started hooks _).silently (.run _ false)
    · exact s.from_started hooks _
  · unfold runUntilStopped at h
    dsimp only at h
    split at h
    · split at h
      · cases h
      · cases h
        exact s.from_started hooks patience
    · cases h
      exact s.from_started hooks patience

/-! ### Operations -/

theorem by_withMemory {ε : Type} (s : Session) (error : ε → Error) (access : Except ε Memory) :
    (s.withMemory error access).By supply s [] := by
  cases access with
  | error e => exact .nil s _
  | ok memory => exact .single (.memory s memory)

theorem by_xorPixel (s : Session) (x y bit : Int) : (s.xorPixel x y bit).By supply s [] := by
  unfold xorPixel
  split
  · exact .single (.screen s _)
  · exact .nil s _

end Session

end

/-- The programs that an operation brings along. -/
def Operation.Supplies (op : Operation) (program : List Byte) : Prop :=
  match op with
  | .load given => given = program
  | .loadFile read name => read (Rom.Path.ofString name) = .ok program
  | _ => False

/-- Whether an operation carries out no instruction and resets nothing but a part. -/
def Operation.IsPlain : Operation → Prop
  | .step _ | .run .. | .reset | .reload | .resetProcessor => False
  | _ => True

namespace Session

open Outcome (From By)

/-- A plain operation carries out no instruction and resets nothing. -/
theorem by_perform_of_isPlain {s : Session} {op : Operation} {o : Outcome Session Answer}
    (plain : op.IsPlain) (h : s.perform op = some o) : o.By op.Supplies s [] := by
  cases op with
  | step | run | reset | reload | resetProcessor => exact plain.elim
  | stop => cases h; exact .single (.run s false)
  | load program => cases h; exact s.by_load (.inl rfl)
  | loadFile read name => cases h; exact s.by_loadFile fun _ given => given
  | press key => cases h; exact s.by_withKey key _
  | release key => cases h; exact s.by_withKey key _
  | releaseAll => cases h; exact .single (.keypad s .released)
  | write8 address value => cases h; exact s.by_withMemory .fault _
  | writeBlock address values => cases h; exact s.by_withMemory .fault _
  | fillMemory program => cases h; exact s.by_withMemory .load _
  | resetMemory => cases h; exact .single (.memory s .initial)
  | xorPixel x y bit => cases h; exact s.by_xorPixel x y bit
  | clearScreen | consumeFlag | resetScreen => cases h; exact .single (.screen s _)
  | setDelay value => cases h; exact s.by_withTimers (s.machine.setDelay_eq _)
  | setSound value => cases h; exact s.by_withTimers (s.machine.setSound_eq _)
  | tick => cases h; exact s.by_withTimers s.machine.tick_eq
  | stopTimers => cases h; exact s.by_withTimers s.machine.stopTimers_eq

/-- What an operation does to a session is done by deeds, also when it fails. -/
theorem from_perform {s : Session} {op : Operation} {o : Outcome Session Answer}
    (h : s.perform op = some o) : o.From op.Supplies s := by
  cases op with
  | run hooks patience limit =>
    obtain ⟨ran, hran, rfl⟩ := Option.map_eq_some_iff.mp h
    exact From.map Answer.number (from_run hran)
  | step hooks => cases h; exact s.from_step hooks
  | reset => cases h; exact .single (.reset s)
  | reload => cases h; exact s.from_reload
  | resetProcessor => cases h; exact .single (.resetProcessor s)
  | _ =>
    refine (by_perform_of_isPlain ?_ h).toFrom
    trivial

theorem performAll_cons {s : Session} {op : Operation} {ops : List Operation}
    {outcomes : List (Outcome Session Answer)} (h : s.performAll (op :: ops) = some outcomes) :
    ∃ o later, s.perform op = some o ∧ o.state.performAll ops = some later ∧ outcomes = o :: later := by
  rw [performAll] at h
  cases first : s.perform op with
  | none => rw [first] at h; cases h
  | some o =>
    rw [first] at h
    obtain ⟨later, rest, rfl⟩ := Option.map_eq_some_iff.mp h
    exact ⟨o, later, rfl, rest, rfl⟩

theorem performAll_of_cons {s : Session} {op : Operation} {ops : List Operation} {o : Outcome Session Answer}
    {outcomes : List (Outcome Session Answer)} (first : s.perform op = some o)
    (rest : o.state.performAll ops = some outcomes) : s.performAll (op :: ops) = some (o :: outcomes) := by
  rw [performAll, first]
  dsimp only
  rw [rest]
  rfl

/-- Operations have a chronicle, and its events are those of all of them. -/
theorem exists_chronicle {s : Session} {ops : List Operation}
    {outcomes : List (Outcome Session Answer)} (h : s.performAll ops = some outcomes) :
    ∃ deeds, Chronicle (fun _ => True) s deeds (outcomes.flatMap (·.events)) (s.afterAll outcomes) := by
  induction ops generalizing s outcomes with
  | nil =>
    cases h
    exact ⟨[], .nil s⟩
  | cons op ops ih =>
    obtain ⟨o, later, first, rest, rfl⟩ := performAll_cons h
    obtain ⟨deeds, first⟩ := from_perform first
    obtain ⟨others, rest⟩ := ih rest
    exact ⟨_, (first.mono fun _ _ => trivial).trans rest⟩

end Session

end Chip8

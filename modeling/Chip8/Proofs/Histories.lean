import Chip8.Proofs.Chronicles

/-!
# Histories

For what every instruction and every count down preserves, deeds are too large: a step writes the timers
twice.  A `Change` is a deed or a part of one, and no change writes the timers more than once.  A `History`
is a list of changes together with the events that they send, and whatever has a chronicle has a history.
What every change preserves holds therefore after any operations at all (`History.invariant`).
-/

namespace Chip8

/-- A single change of a session, and the events that it sends. -/
inductive Change (supply : List Byte → Prop) : Session → List Event → Session → Prop where
  /-- The record of the instruction that is due. -/
  | trace (s : Session) : Change supply s s.traceEvents s
  /-- The first half of a step. -/
  | instruction {s : Session} {word : Word} {m : Machine} {sent : List Signal}
    (fetched : s.machine.fetch = .ok word) (h : s.machine.executeWord word = .ok (m, sent)) :
    Change supply s (sent.map .signal) { s with machine := m }
  /-- The second half of a step. -/
  | countDown (s : Session) :
    Change supply s
      (s.machine.tick.2.map .signal ++ [.stepped s.machine.registers.pc (s.machine.count + 1)])
      { s with machine := { s.machine.tick.1 with count := s.machine.count + 1 } }
  | fault {s : Session} {cause : Fault} (h : s.machine.step = .error cause) :
    Change supply s [.log (.fault cause), .faulted cause] (s.faulted cause)
  | reset (s : Session) : Change supply s s.reset.events s.reset.state
  | load {s : Session} {program : List Byte} {memory : Memory}
    (known : supply program ∨ s.program = some program)
    (h : s.machine.memory.loadProgram program = .ok memory) :
    Change supply s [.log (.loaded program.length)]
      { s with machine := { s.machine with memory }, program := some program }
  | run (s : Session) (running : Bool) : Change supply s [] { s with running }
  | keypad (s : Session) (keypad : Keypad) : Change supply s [] (s.withKeypad keypad)
  | memory (s : Session) (memory : Memory) :
    Change supply s [] { s with machine := { s.machine with memory } }
  | screen (s : Session) (screen : Screen) :
    Change supply s [] { s with machine := { s.machine with screen } }
  | timers (s : Session) (timers : Timers) :
    Change supply s ((Timers.notice s.machine.timers timers).map .signal)
      { s with machine := { s.machine with timers } }
  | resetProcessor (s : Session) :
    Change supply s (s.withMachine s.machine.resetProcessor).events
      (s.withMachine s.machine.resetProcessor).state

/-- Changes one after the other, and the events of all of them. -/
inductive History (supply : List Byte → Prop) : Session → List Event → Session → Prop where
  | nil (s : Session) : History supply s [] s
  | cons {s t u : Session} {first rest : List Event} :
    Change supply s first t → History supply t rest u → History supply s (first ++ rest) u

section

variable {supply : List Byte → Prop}

namespace History

variable {s t u : Session} {first rest : List Event}

theorem single (change : Change supply s first t) : History supply s first t := by
  have h := cons change (nil t)
  rwa [List.append_nil] at h

theorem trans (h₁ : History supply s first t) (h₂ : History supply t rest u) :
    History supply s (first ++ rest) u := by
  induction h₁ with
  | nil => exact h₂
  | cons change _ ih =>
    rw [List.append_assoc]
    exact cons change (ih h₂)

/-- What every change preserves, a history preserves. -/
theorem invariant {P : Session → Prop}
    (preserved : ∀ {s t : Session} {events : List Event}, Change supply s events t → P s → P t)
    (h : History supply s first t) (holds : P s) : P t := by
  induction h with
  | nil => exact holds
  | cons change _ ih => exact ih (preserved change holds)

end History

namespace Session

/-- A step that succeeds is an instruction and the count down after it. -/
theorem history_of_step {s : Session} {p : Machine.Progress} (h : s.machine.step = .ok p) :
    History supply s (p.signals.map .signal ++ [.stepped p.machine.registers.pc p.machine.count])
      { s with machine := p.machine } := by
  obtain ⟨m, sent, fetched, executed, machine, signals⟩ := Machine.parts_of_step h
  have done : History supply s (sent.map .signal) { s with machine := m } :=
    .single (.instruction fetched executed)
  have counted := done.trans (.single (.countDown { s with machine := m }))
  rw [signals, machine, List.map_append, List.append_assoc]
  exact counted

/-- Each deed is made up of changes. -/
theorem history_of_happening {s t : Session} {deed : Deed} {events : List Event}
    (happens : Happening supply s deed events t) : History supply s events t := by
  cases happens with
  | step h => exact (History.single (.trace s)).trans (history_of_step h)
  | fault h => exact (History.single (.trace s)).trans (.single (.fault h))
  | reset => exact .single (.reset s)
  | resetProcessor => exact .single (.resetProcessor s)
  | load known h => exact .single (.load known h)
  | run running => exact .single (.run s running)
  | keypad keypad => exact .single (.keypad s keypad)
  | memory memory => exact .single (.memory s memory)
  | screen screen => exact .single (.screen s screen)
  | timers timers => exact .single (.timers s timers)

/-- A chronicle, with the deeds left out, is a history. -/
theorem history_of_chronicle {s t : Session} {deeds : List Deed} {events : List Event}
    (h : Chronicle supply s deeds events t) : History supply s events t := by
  induction h with
  | nil s => exact .nil s
  | cons happens _ ih => exact (history_of_happening happens).trans ih

end Session

end

namespace Session

/-- An operation changes a session by a history, also when it fails. -/
theorem history_of_perform {s : Session} {op : Operation} {o : Outcome Session Answer}
    (h : s.perform op = some o) : History op.Supplies s o.events o.state := by
  obtain ⟨deeds, happened⟩ := from_perform h
  exact history_of_chronicle happened

/-- Operations change a session by a history, and the events are those of all of them. -/
theorem history_of_performAll {s : Session} {ops : List Operation}
    {outcomes : List (Outcome Session Answer)} (h : s.performAll ops = some outcomes) :
    History (fun _ => True) s (outcomes.flatMap (·.events)) (s.afterAll outcomes) := by
  obtain ⟨deeds, happened⟩ := exists_chronicle h
  exact history_of_chronicle happened

end Session

end Chip8

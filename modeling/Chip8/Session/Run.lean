import Chip8.Session

/-!
# Runs

A run carries out one instruction after the other until its limit is reached, until a hook stops it,
or until an instruction faults.  The answers to the steps of a run may differ from step to step:
`hooks k` answers the step before which `k` instructions of the run have been carried out.

Without a limit a run may never end.  `Session.run` is then given a patience, a number of instructions
after which it is given up without a result.
-/

namespace Chip8.Session

/-- Carries out up to `limit` more instructions of a run, of which `done` have been carried out and
`past` are the events.  The result counts the instructions of the whole run. -/
def advance (hooks : Nat → Hooks) :
    (limit done : Nat) → (past : Array Event) → Session → Outcome Session Nat
  | 0, done, past, s => ⟨s, past.toList, .ok done⟩
  | limit + 1, done, past, s =>
    if s.running then
      match s.step (hooks done) with
      | ⟨s, events, .ok _⟩ => advance hooks limit (done + 1) (past ++ events) s
      | ⟨s, events, .error e⟩ => ⟨s, (past ++ events).toList, .error e⟩
    else ⟨s, past.toList, .ok done⟩

/-- Ends a run that did not fail. -/
def settle (o : Outcome Session Nat) : Outcome Session Nat :=
  match o.result with
  | .ok _ => { o with state := o.state.stop }
  | .error _ => o

/-- A run of at most `limit` instructions; how many were carried out. -/
def runFor (hooks : Nat → Hooks) (limit : Nat) (s : Session) : Outcome Session Nat :=
  settle (advance hooks limit 0 #[] { s with running := true })

/-- A run until a hook stops it or an instruction faults, if that comes within `patience`
instructions. -/
def runUntilStopped (hooks : Nat → Hooks) (patience : Nat) (s : Session) :
    Option (Outcome Session Nat) :=
  let o := advance hooks patience 0 #[] { s with running := true }
  match o.result with
  | .ok _ => if o.state.running then none else some o
  | .error _ => some o

/-- A run with the given limit, or with that of the session.  A limit of zero or less is none. -/
def run (hooks : Nat → Hooks) (patience : Nat) (limit : Option Int) (s : Session) :
    Option (Outcome Session Nat) :=
  let limit := limit.getD s.config.maxInstructions
  if 0 < limit then some (s.runFor hooks limit.toNat) else s.runUntilStopped hooks patience

end Chip8.Session

import Chip8.Proofs.Control
import Chip8.Proofs.Histories
import Chip8.Proofs.Parts

/-!
# The tone

The timers are written in three places, by a program or a caller that sets them, by the count down and by
a reset, and each of these says for itself whether the tone has started or stopped (`Timers.setSound`,
`Timers.countBoth`, `Timers.stop`).  Together they say so exactly once for each time: the notices of a
history alternate, and the last of them tells whether the tone sounds (`Session.tone_notices_alternate`).

It is not enough to look at a session before and after each step: an instruction may start the tone and
the count down of the same step stop it.  `Starts` counts the times the tone starts at every change of a
history, and there the two are apart.
-/

namespace Chip8

/-! ### Notices -/

/-- What is told of the tone: whether it has started or stopped, time after time. -/
def notices (events : List Event) : List Bool :=
  events.filterMap fun
    | .signal (.sound on) => some on
    | _ => none

/-- A list that begins with `first` and says the opposite each time. -/
def alternating (first : Bool) : Nat → List Bool
  | 0 => []
  | n + 1 => first :: alternating (!first) n

/-- What a terminal bell writes at the events, one write after the other. -/
def bells (events : List Event) : List String := (events.map Event.bell).filter (· ≠ "")

theorem notices_append (first rest : List Event) :
    notices (first ++ rest) = notices first ++ notices rest :=
  List.filterMap_append

/-- There is a notice if the tone has changed, and it tells whether it sounds. -/
theorem notices_notice (before after : Timers) :
    notices ((Timers.notice before after).map .signal) =
      if before.sounding = after.sounding then [] else [after.sounding] := by
  unfold Timers.notice
  split <;> rfl

/-- A bell rings for each notice that the tone sounds. -/
theorem bells_eq (events : List Event) :
    bells events = List.replicate ((notices events).count true) "\x07" := by
  induction events with
  | nil => rfl
  | cons e rest ih =>
    have tail : bells (e :: rest) = bells [e] ++ bells rest := by
      show ([e.bell] ++ rest.map Event.bell).filter _ = _
      rw [List.filter_append]
      rfl
    rw [tail, ih, show e :: rest = [e] ++ rest from rfl, notices_append, List.count_append,
      ← List.replicate_append_replicate]
    congr 1
    cases e with
    | signal signal =>
      cases signal with
      | sound on => cases on <;> rfl
      | draw => rfl
    | _ => rfl

/-! ### Instructions and changes -/

/-- An instruction tells of the tone what is due for its write of the timers. -/
theorem Machine.notices_of_execute {m m' : Machine} {i : Instruction} {sent : List Signal}
    (h : m.execute i = .ok (m', sent)) :
    notices (sent.map .signal) =
      if m.timers.sounding = m'.timers.sounding then [] else [m'.timers.sounding] := by
  have parts := parts_of_execute h
  rw [parts.sent]
  unfold sentBy
  rw [List.map_append, notices_append, ← parts.timers, notices_notice]
  cases i <;> rfl

namespace Session

/-- Whether the tone sounds. -/
def sounds (s : Session) : Bool := s.machine.timers.sounding

theorem sounds_iff (s : Session) : s.sounds ↔ 0 < s.machine.timers.sound.toNat := by
  unfold sounds Timers.sounding
  rw [bne_iff_ne, ne_eq, ← BitVec.toNat_inj, Nat.pos_iff_ne_zero]
  rfl

variable {supply : List Byte → Prop} {s t : Session} {events : List Event}

/-- A change tells of the tone if it makes a difference to it, and only then. -/
theorem notices_of_change (change : Change supply s events t) :
    notices events = if s.sounds = t.sounds then [] else [t.sounds] := by
  -- Without a signal nothing is told, and the timers are as before.
  have silent (none : notices events = []) (same : s.sounds = t.sounds) :
      notices events = if s.sounds = t.sounds then [] else [t.sounds] := by
    rw [none, if_pos same]
  cases change with
  | trace =>
    refine silent (List.filterMap_eq_nil_iff.mpr fun e member => ?_) rfl
    cases e with
    | signal signal => exact absurd member (s.traceEvents_no_signal signal)
    | _ => rfl
  | instruction fetched h =>
    obtain ⟨i, -, executed⟩ := Machine.of_executeWord_ok h
    exact Machine.notices_of_execute executed
  | countDown =>
    rw [s.machine.tick_eq, notices_append, notices_notice]
    exact List.append_nil _
  | fault h => exact silent rfl rfl
  | reset =>
    rw [reset_eq]
    rw [notices_append, notices_notice]
    exact List.append_nil _
  | load known h => exact silent rfl rfl
  | run => exact silent rfl rfl
  | keypad => exact silent rfl rfl
  | memory => exact silent rfl rfl
  | screen => exact silent rfl rfl
  | timers timers => exact notices_notice s.machine.timers timers
  | resetProcessor =>
    rw [s.machine.resetProcessor_eq]
    exact notices_notice s.machine.timers Timers.stopped

/-! ### Histories -/

/-- A history in which the tone starts a number of times. -/
inductive Starts (supply : List Byte → Prop) : Session → List Event → Session → Nat → Prop where
  | nil (s : Session) : Starts supply s [] s 0
  | cons {s t u : Session} {first rest : List Event} {n : Nat} :
    Change supply s first t → Starts supply t rest u n →
    Starts supply s (first ++ rest) u ((if !s.sounds && t.sounds then 1 else 0) + n)

theorem exists_starts (h : History supply s events t) : ∃ n, Starts supply s events t n := by
  induction h with
  | nil s => exact ⟨0, .nil s⟩
  | cons change _ ih =>
    obtain ⟨n, starts⟩ := ih
    exact ⟨_, .cons change starts⟩

/-- There are as many notices that the tone sounds as it has started. -/
theorem count_notices_of_starts {n : Nat} (h : Starts supply s events t n) :
    (notices events).count true = n := by
  induction h with
  | nil => rfl
  | @cons s t u first rest n change _ ih =>
    rw [notices_append, List.count_append, ih, notices_of_change change]
    congr 1
    cases s.sounds <;> cases t.sounds <;> rfl

/-- The notices of a history alternate, and the last one tells whether the tone sounds. -/
theorem notices_of_history (h : History supply s events t) :
    (∃ n, notices events = alternating (!s.sounds) n) ∧
      t.sounds = (notices events).getLast?.getD s.sounds := by
  induction h with
  | nil s => exact ⟨⟨0, rfl⟩, rfl⟩
  | @cons s t u first rest change _ ih =>
    obtain ⟨⟨n, alternates⟩, last⟩ := ih
    rw [notices_append, notices_of_change change, List.getLast?_append, last]
    by_cases same : s.sounds = t.sounds
    · rw [if_pos same, same, List.getLast?_nil, Option.or_none]
      exact ⟨⟨n, alternates⟩, rfl⟩
    · have opposite : t.sounds = !s.sounds := by
        revert same
        cases s.sounds <;> cases t.sounds <;> simp
      rw [if_neg same]
      constructor
      · refine ⟨n + 1, ?_⟩
        rw [alternates, alternating, ← opposite]
        rfl
      · cases (notices rest).getLast? <;> rfl

/-- From silence on, whatever operations follow: the notices alternate and begin with a start, and the
last of them tells whether the tone sounds.  A bell rings as often as the tone starts. -/
theorem tone_notices_alternate {s : Session} (silent : s.machine.timers.sound = 0)
    {ops : List Operation} {outcomes : List (Outcome Session Answer)}
    (h : s.performAll ops = some outcomes) :
    let events := outcomes.flatMap (·.events)
    let t := s.afterAll outcomes
    (∃ n, notices events = alternating true n) ∧
      ((notices events).getLast? = some true ↔ 0 < t.machine.timers.sound.toNat) ∧
      ((notices events).getLast? ≠ some true → t.machine.timers.sound = 0) ∧
      (∃ n, Starts (fun _ => True) s events t n) ∧
      ∀ n, Starts (fun _ => True) s events t n → bells events = List.replicate n "\x07" := by
  intro events t
  have history : History (fun _ => True) s events t := history_of_performAll h
  have before : s.sounds = false := by
    unfold sounds Timers.sounding
    rw [silent]
    rfl
  obtain ⟨alternates, last⟩ := notices_of_history history
  rw [before] at alternates last
  have told : (notices events).getLast? = some true ↔ 0 < t.machine.timers.sound.toNat := by
    rw [← sounds_iff, last]
    cases (notices events).getLast? <;> simp
  refine ⟨alternates, told, fun quiet => ?_, exists_starts history, fun n starts => ?_⟩
  · have none : t.machine.timers.sound.toNat = 0 := by
      have := mt told.mpr quiet
      omega
    exact BitVec.eq_of_toNat_eq none
  · rw [bells_eq, count_notices_of_starts starts]

/-- A tone that starts and stops within one step, and another one that goes on. -/
theorem tone_notices_alternate_blip :
    let s := initial ⟨.listed [] 0, 0, false⟩
    let program : List Byte := [0x60, 0x01, 0xF0, 0x18, 0x60, 0x05, 0xF0, 0x18]
    ∃ outcomes, s.performAll (.load program :: List.replicate 4 (.step .silent)) = some outcomes ∧
      notices (outcomes.flatMap (·.events)) = [true, false, true] ∧
      0 < (s.afterAll outcomes).machine.timers.sound.toNat ∧
      bells (outcomes.flatMap (·.events)) = ["\x07", "\x07"] := by
  intro s program
  have told : (s.performAll (.load program :: List.replicate 4 (.step .silent))).map
      (fun outcomes => notices (outcomes.flatMap (·.events))) = some [true, false, true] := by
    decide +kernel
  obtain ⟨outcomes, performed, heard⟩ := Option.map_eq_some_iff.mp told
  obtain ⟨-, last, -, ⟨n, starts⟩, rings⟩ := tone_notices_alternate rfl performed
  have twice : n = 2 := by
    rw [← count_notices_of_starts starts, heard]
    rfl
  refine ⟨outcomes, performed, heard, last.mp ?_, ?_⟩
  · rw [heard]
    rfl
  · rw [rings n starts, twice]
    rfl

end Session

end Chip8

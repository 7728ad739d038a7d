import Chip8.Proofs.Frames
import Chip8.Terminal

/-!
# Keys and their timers

A keystroke puts its key down and winds up a timer, and the timer lets the key up.  Keys have no other way
down, so whatever happens in between, a key that is down has a timer, and when the last timer has fired all
keys are up, in whatever order they fire (`Terminal.no_key_sticks`).

The other way round it is not so.  Every timer lets its key up, also if the key has been struck again since
and waits for a later timer.  A key with a timer is down at all times exactly if no timer ever fires while
another one of the same key is wound up (`Terminal.held_keys_down_iff`).
-/

namespace Chip8

/-! ### The keyboard -/

/-- The characters that stand for keys, with the numbers of the keys. -/
def keyboard : List (Char × Nat) :=
  [('1', 0x1), ('2', 0x2), ('3', 0x3), ('4', 0xC),
    ('q', 0x4), ('w', 0x5), ('e', 0x6), ('r', 0xD),
    ('a', 0x7), ('s', 0x8), ('d', 0x9), ('f', 0xE),
    ('z', 0xA), ('x', 0x0), ('c', 0xB), ('v', 0xF)]

/-- The key for a keystroke: it has to be a single character of the keyboard. -/
def keyOfStroke? (key : String) : Option Key :=
  match key.toList with
  | [c] => keyOfChar? c
  | _ => none

/-- The keyboard lists the letters that stand for keys, in either case. -/
theorem keyNumber?_eq_some_iff {c : Char} {number : Nat} :
    keyNumber? c = some number ↔ (c.toLower, number) ∈ keyboard := by
  unfold keyNumber? keyboard
  generalize c.toLower = small
  split
  case h_17 =>
    -- The character is none of those on the keyboard.
    simp_all
  all_goals simp [eq_comm]

/-- A stroke stands for a key if it is one letter of the keyboard. -/
theorem keyOfStroke?_eq_some_iff {key : String} {k : Key} :
    keyOfStroke? key = some k ↔ ∃ c, key.toLower = String.singleton c ∧ (c, k.val) ∈ keyboard := by
  have lower (c : Char) : key.toLower = String.singleton c ↔ ∃ d, key.toList = [d] ∧ d.toLower = c := by
    have mapped : key.toLower = key.map Char.toLower := rfl
    rw [mapped, ← String.toList_inj, String.toList_map, String.toList_singleton,
      List.map_eq_singleton_iff]
  -- The numbers on the keyboard are those of keys.
  have known : ∀ entry ∈ keyboard, entry.2 < 16 := by decide
  simp only [lower]
  unfold keyOfStroke?
  split
  next d single =>
    rw [keyOfChar?, Option.map_eq_some_iff, single]
    constructor
    · rintro ⟨number, listed, rfl⟩
      rw [keyNumber?_eq_some_iff] at listed
      refine ⟨d.toLower, ⟨d, rfl, rfl⟩, ?_⟩
      rwa [show (Key.ofNat number).val = number from Nat.mod_eq_of_lt (known _ listed)]
    · rintro ⟨c, ⟨d', same, rfl⟩, listed⟩
      obtain rfl : d = d' := (List.cons.inj same).1
      exact ⟨k.val, keyNumber?_eq_some_iff.mpr listed, Fin.ext (Nat.mod_eq_of_lt k.isLt)⟩
  next many =>
    refine iff_of_false (fun same => by cases same) ?_
    rintro ⟨c, ⟨d, single, -⟩, -⟩
    exact many d single

/-! ### Which keys are down -/

/-- Every key that is down on the one keypad is down on the other. -/
def Keypad.Within (p q : Keypad) : Prop := ∀ key, p.isDown key = true → q.isDown key = true

namespace Keypad

variable {p q : Keypad}

theorem isDown_released (key : Key) : released.isDown key = false := Vector.getElem_replicate _

theorem released_within (p : Keypad) : released.Within p := by
  intro key down
  rw [isDown_released] at down
  cases down

theorem release_within (p : Keypad) (key : Key) : (p.release key).Within p := by
  intro query down
  rw [isDown_release, Bool.and_eq_true] at down
  exact down.2

end Keypad

/-- Hooks that never ask for a key to go down. -/
def Hooks.NeverPress (hooks : Hooks) : Prop :=
  (∀ s, ∀ c ∈ hooks.onStep s, ∀ key, c ≠ .press key) ∧
    ∀ cause, ∀ c ∈ hooks.onFault cause, ∀ key, c ≠ .press key

theorem Hooks.neverPress_silent : Hooks.silent.NeverPress :=
  ⟨fun _ _ member => absurd member List.not_mem_nil, fun _ _ member => absurd member List.not_mem_nil⟩

namespace Session

theorem keypad_load (s : Session) (program : List Byte) :
    (s.load program).state.machine.keypad = s.machine.keypad := by
  unfold load
  cases s.machine.memory.loadProgram program <;> rfl

theorem keypad_reload_within (s : Session) :
    s.reload.state.machine.keypad.Within s.machine.keypad := by
  rw [state_reload]
  cases s.program with
  | none => exact fun _ down => down
  | some program =>
    show (s.reset.state.load program).state.machine.keypad.Within _
    rw [keypad_load]
    exact Keypad.released_within _

/-- Only a command to press a key presses one. -/
theorem keypad_obey_within (s : Session) {c : Command} (lets : ∀ key, c ≠ .press key) :
    (s.obey c).state.machine.keypad.Within s.machine.keypad := by
  cases c with
  | stop => exact fun _ down => down
  | reset => exact Keypad.released_within _
  | reload => exact s.keypad_reload_within
  | press key => exact absurd rfl (lets key)
  | release key =>
    show (s.withKey key Keypad.release).state.machine.keypad.Within _
    unfold withKey
    cases Key.ofInt? key with
    | none => exact fun _ down => down
    | some k => exact Keypad.release_within _ k

/-- A step puts no key down, unless its hooks ask for it. -/
theorem keypad_step_within (s : Session) {hooks : Hooks} (never : hooks.NeverPress) :
    (s.step hooks).state.machine.keypad.Within s.machine.keypad := by
  refine keeps_step (P := fun t => t.machine.keypad.Within s.machine.keypad) never ?_ ?_ ?_
  · intro t c lets within key down
    exact within key (t.keypad_obey_within lets key down)
  · intro p stepped key down
    rwa [show ({ s with machine := p.machine } : Session).machine.keypad = s.machine.keypad from
      (Machine.framed_of_step stepped).keypad] at down
  · exact fun _ _ _ down => down

end Session

/-! ### Incidents at a terminal -/

/-- What happens at a terminal. -/
inductive Incident where
  | strike (key : String)
  /-- A timer fires: the one at this place in the list, if there is one. -/
  | fire (place : Nat)
  | step (hooks : Hooks)
  | reset

/-- A keystroke or a timer. -/
def Incident.IsAtKeys : Incident → Prop
  | .strike _ | .fire _ => True
  | .step _ | .reset => False

namespace Terminal

/-- Whether a key is down. -/
def isDown (t : Terminal) (key : Key) : Bool := t.session.machine.keypad.isDown key

/-- Fires the timer at a place in the list, if there is one: its key goes up. -/
def fireAt (t : Terminal) (place : Nat) : Terminal :=
  match t.held[place]? with
  | none => t
  | some k => { t.changeKeypad (·.release k) with held := t.held.eraseIdx place }

/-- The terminal after an incident. -/
def undergo (t : Terminal) : Incident → Terminal
  | .strike key => t.strike key
  | .fire place => t.fireAt place
  | .step hooks => { t with session := (t.session.step hooks).state }
  | .reset => { t with session := t.session.reset.state }

/-- The terminal after incidents one after the other. -/
def undergoAll (t : Terminal) (incidents : List Incident) : Terminal := incidents.foldl undergo t

/-- Every key that is down waits for a timer. -/
def AllHeld (t : Terminal) : Prop := ∀ key, t.isDown key = true → key ∈ t.held

/-- Every key that waits for a timer is down. -/
def AllDown (t : Terminal) : Prop := ∀ key ∈ t.held, t.isDown key = true

variable {t : Terminal}

theorem undergoAll_append (t : Terminal) (earlier later : List Incident) :
    t.undergoAll (earlier ++ later) = (t.undergoAll earlier).undergoAll later :=
  List.foldl_append

/-- A keystroke winds up a timer if it stands for a key, and does nothing else to the session than put this
key down. -/
theorem strike_eq (t : Terminal) (key : String) :
    (t.strike key).held = t.held ++ (keyOfStroke? key).toList ∧
      (t.strike key).session =
        (keyOfStroke? key).elim t.session fun k => (t.changeKeypad (·.press k)).session := by
  unfold strike keyOfStroke?
  split
  next escape => simp [escape, show keyOfChar? '\x1b' = none from rfl]
  next c _ single =>
    rw [single]
    dsimp only
    cases keyOfChar? c <;> simp
  next _ many =>
    split
    next c single => exact absurd single (many c)
    · simp

/-- A stroke presses its key and no other. -/
theorem isDown_strike (t : Terminal) (key : String) (query : Key) :
    (t.strike key).isDown query = (keyOfStroke? key == some query || t.isDown query) := by
  unfold isDown
  rw [(t.strike_eq key).2]
  cases keyOfStroke? key with
  | none => rfl
  | some k => exact Keypad.isDown_press _ k query

theorem held_fireAt (t : Terminal) (place : Nat) : (t.fireAt place).held = t.held.eraseIdx place := by
  unfold fireAt
  split
  next none => exact (List.eraseIdx_of_length_le (List.getElem?_eq_none_iff.mp none)).symm
  · rfl

/-- A timer that fires releases its key and no other. -/
theorem isDown_fireAt (t : Terminal) (place : Nat) (query : Key) :
    (t.fireAt place).isDown query = (t.held[place]? != some query && t.isDown query) := by
  unfold fireAt
  split
  next none => rw [none]; rfl
  next k fires => rw [fires]; exact Keypad.isDown_release _ k query

/-! ### A key that is down has a timer -/

/-- A key goes down only with a timer, and a timer takes no key from the list but its own. -/
theorem allHeld_undergo {incident : Incident}
    (never : ∀ hooks, incident = .step hooks → hooks.NeverPress) (held : t.AllHeld) :
    (t.undergo incident).AllHeld := by
  intro query down
  cases incident with
  | strike key =>
    have down : (t.strike key).isDown query = true := down
    show query ∈ (t.strike key).held
    rw [isDown_strike, Bool.or_eq_true, beq_iff_eq] at down
    rw [(t.strike_eq key).1, List.mem_append]
    exact down.symm.imp (held query) fun struck => by rw [struck]; exact List.mem_singleton_self query
  | fire place =>
    have down : (t.fireAt place).isDown query = true := down
    show query ∈ (t.fireAt place).held
    rw [isDown_fireAt, Bool.and_eq_true, bne_iff_ne] at down
    obtain ⟨other, down⟩ := down
    obtain ⟨i, listed⟩ := List.mem_iff_getElem?.mp (held query down)
    rw [held_fireAt, List.mem_eraseIdx_iff_getElem?]
    exact ⟨i, fun same => other (same ▸ listed), listed⟩
  | step hooks => exact held query (t.session.keypad_step_within (never hooks rfl) query down)
  | reset =>
    have down : Keypad.released.isDown query = true := down
    rw [Keypad.isDown_released] at down
    cases down

/-- Through all incidents each key that is down keeps a timer. -/
theorem allHeld_undergoAll {incidents : List Incident}
    (never : ∀ hooks, .step hooks ∈ incidents → hooks.NeverPress) (held : t.AllHeld) :
    (t.undergoAll incidents).AllHeld := by
  induction incidents generalizing t with
  | nil => exact held
  | cons incident later ih =>
    refine ih (fun hooks member => never hooks (List.mem_cons_of_mem _ member)) ?_
    exact allHeld_undergo (fun hooks same => never hooks (same ▸ List.mem_cons_self)) held

/-- As many firings as there are timers, each of one of those that are left, leave no timer. -/
theorem held_undergoAll_fire {order : List Nat} (all : order.length = t.held.length)
    (left : ∀ i (inside : i < order.length), order[i] < t.held.length - i) :
    (t.undergoAll (order.map .fire)).held = [] := by
  induction order generalizing t with
  | nil => exact List.length_eq_zero_iff.mp all.symm
  | cons place later ih =>
    have first : place < t.held.length := left 0 (Nat.zero_lt_succ _)
    have fewer : (t.fireAt place).held.length = t.held.length - 1 := by
      rw [held_fireAt, List.length_eraseIdx_of_lt first]
    rw [List.length_cons] at all
    refine ih (t := t.fireAt place) (by omega) fun i inside => ?_
    have next := left (i + 1) (Nat.succ_lt_succ inside)
    rw [List.getElem_cons_succ] at next
    omega

/-- From a terminal on where no key is down, whatever is struck, whichever timers fire, and however the
session goes on, a key that is down has a timer.  So when all timers have fired, in any order, no key is
down.

A keystroke winds up a timer exactly if its character is one of the keyboard, small or large; the escape
character is not.  No character beyond ASCII has one of the keyboard for its small letter. -/
theorem no_key_sticks (t : Terminal) (up : ∀ key, t.isDown key = false) (incidents : List Incident)
    (never : ∀ hooks, .step hooks ∈ incidents → hooks.NeverPress) :
    let u := t.undergoAll incidents
    (∀ key, u.isDown key = true → key ∈ u.held) ∧
      (∀ order : List Nat, order.length = u.held.length →
        (∀ i (inside : i < order.length), order[i] < u.held.length - i) →
        let v := u.undergoAll (order.map .fire)
        v.held = [] ∧ ∀ key, v.isDown key = false) ∧
      ∀ key,
        ((∀ c number, (c, number) ∈ keyboard → key.toLower ≠ String.singleton c) ∨ key = "\x1b" →
          (u.strike key).held = u.held ∧ (u.strike key).session = u.session) ∧
        ∀ c (k : Key), (c, k.val) ∈ keyboard → key.toLower = String.singleton c →
          (u.strike key).held = u.held ++ [k] ∧ (u.strike key).isDown k = true := by
  intro u
  have held : u.AllHeld := by
    refine allHeld_undergoAll never fun key down => ?_
    rw [up key] at down
    cases down
  refine ⟨held, fun order all left => ?_, fun key => ⟨fun none => ?_, fun c k listed small => ?_⟩⟩
  · have idle := held_undergoAll_fire all left
    refine ⟨idle, fun key => Bool.eq_false_iff.mpr fun down => ?_⟩
    have waits : key ∈ (u.undergoAll (order.map .fire)).held :=
      allHeld_undergoAll (fun hooks member => by simp at member) held key down
    rw [idle] at waits
    cases waits
  · have stands : keyOfStroke? key = .none := by
      rcases none with none | rfl
      · refine Option.eq_none_iff_forall_ne_some.mpr fun k stands => ?_
        obtain ⟨c, small, listed⟩ := keyOfStroke?_eq_some_iff.mp stands
        exact none c k.val listed small
      · rfl
    obtain ⟨timers, session⟩ := u.strike_eq key
    rw [stands] at timers session
    exact ⟨timers.trans (List.append_nil _), session⟩
  · have stands : keyOfStroke? key = some k := keyOfStroke?_eq_some_iff.mpr ⟨c, small, listed⟩
    have timers := (u.strike_eq key).1
    rw [stands] at timers
    refine ⟨timers, ?_⟩
    rw [isDown_strike, stands, beq_self_eq_true, Bool.true_or]

/-- The second of two timers of a key fires first, and then the timer of another key. -/
theorem no_key_sticks_twice :
    let t := ofSession ((Session.initial ⟨.listed [] 0, 0, false⟩).load [0xF0, 0x0A]).state
    let incidents : List Incident :=
      [.strike "q", .strike "Q", .step .silent, .strike "p", .fire 1, .strike "4"]
    let u := t.undergoAll incidents
    (∀ key, t.isDown key = false) ∧ (∀ hooks, .step hooks ∈ incidents → hooks.NeverPress) ∧
      u.held = [0x4, 0xC] ∧ u.isDown 0xC = true ∧
      let v := u.undergoAll [.fire 1, .fire 0]
      v.held = [] ∧ ∀ key, v.isDown key = false := by
  intro t incidents u
  have up (key : Key) : t.isDown key = false := Keypad.isDown_released key
  have never (hooks : Hooks) (member : .step hooks ∈ incidents) : hooks.NeverPress := by
    have same : hooks = .silent := by simpa [incidents] using member
    rw [same]
    exact Hooks.neverPress_silent
  have facts : u.held = [0x4, 0xC] ∧ u.isDown 0xC = true := by decide +kernel
  obtain ⟨-, fires, -⟩ := no_key_sticks t up incidents never
  refine ⟨up, never, facts.1, facts.2, fires [1, 0] ?_ ?_⟩
  · rw [facts.1]
    rfl
  · rw [facts.1]
    decide

/-! ### A key that has a timer -/

/-- Firing a timer beside which there is none of the same key leaves every key down that waits. -/
theorem allDown_undergo {incident : Incident} (keys : incident.IsAtKeys)
    (alone : ∀ place, incident = .fire place →
      ∀ key, t.held[place]? = some key → key ∉ t.held.eraseIdx place)
    (down : t.AllDown) : (t.undergo incident).AllDown := by
  intro query waits
  cases incident with
  | strike key =>
    have waits : query ∈ (t.strike key).held := waits
    show (t.strike key).isDown query = true
    rw [(t.strike_eq key).1, List.mem_append, Option.mem_toList] at waits
    rw [isDown_strike, Bool.or_eq_true, beq_iff_eq]
    exact waits.symm.imp_right (down query)
  | fire place =>
    have waits : query ∈ (t.fireAt place).held := waits
    show (t.fireAt place).isDown query = true
    rw [held_fireAt] at waits
    rw [isDown_fireAt, Bool.and_eq_true, bne_iff_ne]
    exact ⟨fun fires => alone place rfl query fires waits, down query (List.mem_of_mem_eraseIdx waits)⟩
  | step hooks => exact keys.elim
  | reset => exact keys.elim

/-- From a terminal on where no timer is wound up, while keys are struck and timers fire: that every key with
a timer is down at all times comes to this, that no timer fires while another one of its key is wound up.
Otherwise the timer lets the key up, though the key has been struck again since. -/
theorem held_keys_down_iff (t : Terminal) (idle : t.held = []) (incidents : List Incident)
    (keys : ∀ incident ∈ incidents, incident.IsAtKeys) :
    (∀ earlier, earlier <+: incidents →
      ∀ key ∈ (t.undergoAll earlier).held, (t.undergoAll earlier).isDown key = true) ↔
    ∀ earlier place later, incidents = earlier ++ .fire place :: later →
      ∀ key, (t.undergoAll earlier).held[place]? = some key →
        key ∉ (t.undergoAll earlier).held.eraseIdx place := by
  constructor
  · rintro always earlier place later rfl key fires waits
    have upTo : earlier ++ [.fire place] <+: earlier ++ .fire place :: later := by
      rw [List.prefix_append_right_inj]
      exact List.prefix_append [_] later
    have fired : t.undergoAll (earlier ++ [.fire place]) = (t.undergoAll earlier).fireAt place :=
      t.undergoAll_append earlier [.fire place]
    have down := always _ upTo key
    rw [fired, held_fireAt, isDown_fireAt, fires] at down
    simpa using down waits
  · intro alone earlier
    have down : t.AllDown := by
      intro key waits
      rw [idle] at waits
      cases waits
    clear idle
    -- The walk goes along the incidents, with the terminal in front of those that are left.
    induction earlier generalizing t incidents with
    | nil => exact fun _ => down
    | cons incident earlier ih =>
      rintro ⟨rest, rfl⟩
      have first : (t.undergo incident).AllDown := by
        refine allDown_undergo (keys incident List.mem_cons_self) ?_ down
        rintro place rfl
        exact alone [] place (earlier ++ rest) rfl
      refine ih (t.undergo incident) (earlier ++ rest)
        (fun later member => keys later (List.mem_cons_of_mem _ member)) ?_ first ⟨rest, rfl⟩
      intro before place later split
      exact alone (incident :: before) place later (congrArg (incident :: ·) split)

/-- Two keys are struck, and the timer of the first fires. -/
theorem held_keys_down_iff_other :
    let t := ofSession (Session.initial ⟨.listed [] 0, 0, false⟩)
    let incidents : List Incident := [.strike "w", .strike "s", .fire 0]
    t.held = [] ∧ (∀ incident ∈ incidents, incident.IsAtKeys) ∧
      ∀ earlier, earlier <+: incidents →
        ∀ key ∈ (t.undergoAll earlier).held, (t.undergoAll earlier).isDown key = true := by
  intro t incidents
  have keys : ∀ incident ∈ incidents, incident.IsAtKeys := by simp [incidents, Incident.IsAtKeys]
  have timers : (t.undergoAll [.strike "w", .strike "s"]).held = [0x5, 0x8] := by decide +kernel
  refine ⟨rfl, keys, (held_keys_down_iff t rfl incidents keys).mpr ?_⟩
  intro earlier place later split key fires
  rcases earlier with _ | ⟨first, _ | ⟨second, _ | ⟨third, rest⟩⟩⟩
  all_goals simp only [incidents, List.cons_append, List.nil_append, List.cons.injEq] at split
  · cases split.1
  · cases split.2.1
  · obtain ⟨rfl, rfl, same, -⟩ := split
    cases same
    rw [timers] at fires ⊢
    cases fires
    decide
  · obtain ⟨-, -, -, none⟩ := split
    cases rest <;> cases none

/-- A key is struck twice, and the timer of the first stroke lets it up, while that of the second goes on. -/
theorem second_stroke_cut_short :
    let t := ((ofSession (Session.initial ⟨.listed [] 0, 0, false⟩)).strike "w").strike "w"
    t.isDown 0x5 = true ∧ t.fire.held = [0x5] ∧ t.fire.isDown 0x5 = false := by
  decide +kernel

end Terminal

end Chip8

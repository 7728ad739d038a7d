import Chip8.Proofs.Control
import Chip8.Proofs.Parts
import Chip8.Proofs.Turns

/-!
# Keys and steps in any order

Keys go up and down while a program runs, at moments that nobody foresees.  A step looks at them only
where its word asks for a key: what it finds out is the `answer` to its instruction, and two keypads that
give the same answer are all the same to it (`Machine.step_withKeypad`).

So a turn at a key and a step may change places unless the step looks at that key.  Taken together:
two orders of the same turns come to the same if every step that asks for a key finds the same turns
before it (`Session.play_withKeypad`).
-/

namespace Chip8

/-! ### Keypads -/

namespace Keypad

theorem anyDown_iff (p : Keypad) : p.anyDown = true ↔ ∃ key, p.isDown key = true := by
  unfold anyDown isDown
  rw [List.contains_iff_mem, Vector.mem_toList_iff, Vector.mem_iff_getElem]
  constructor
  · rintro ⟨k, inside, down⟩
    exact ⟨⟨k, inside⟩, down⟩
  · rintro ⟨key, down⟩
    exact ⟨key.val, key.isLt, down⟩

end Keypad

namespace Turn

/-- The key that a turn is at. -/
def key? : Turn → Option Key
  | .step => none
  | .press key | .release key => some key

variable {turn : Turn} {key : Key}

/-- A turn at a key says whether the key is down, whatever it was before. -/
theorem exists_down_of_key? (h : turn.key? = some key) :
    ∃ down, ∀ p : Keypad, turn.onKeypad p = ⟨p.keys.set key.val down key.isLt⟩ := by
  cases turn with
  | step => cases h
  | press k => cases h; exact ⟨true, fun _ => rfl⟩
  | release k => cases h; exact ⟨false, fun _ => rfl⟩

theorem isDown_onKeypad_of_ne (h : turn.key? = some key) {other : Key} (ne : other ≠ key)
    (p : Keypad) : (turn.onKeypad p).isDown other = p.isDown other := by
  obtain ⟨down, sets⟩ := exists_down_of_key? h
  rw [sets, Keypad.isDown, Vector.getElem_set_ne _ _ fun same => ne (Fin.ext same.symm)]
  rfl

/-- Turns of different keys may be exchanged. -/
theorem onKeypad_comm {a b : Turn} {j k : Key} (ha : a.key? = some j) (hb : b.key? = some k)
    (ne : j ≠ k) (p : Keypad) : b.onKeypad (a.onKeypad p) = a.onKeypad (b.onKeypad p) := by
  obtain ⟨down, setsA⟩ := exists_down_of_key? ha
  obtain ⟨down', setsB⟩ := exists_down_of_key? hb
  rw [setsA, setsB, setsB, setsA, Vector.set_comm _ _ (Fin.val_ne_of_ne ne)]

/-- Of two turns of the same key the later one counts. -/
theorem onKeypad_onKeypad {a b : Turn} (ha : a.key? = some key) (hb : b.key? = some key)
    (p : Keypad) : b.onKeypad (a.onKeypad p) = b.onKeypad p := by
  obtain ⟨down, setsA⟩ := exists_down_of_key? ha
  obtain ⟨down', setsB⟩ := exists_down_of_key? hb
  rw [setsA, setsB, setsB, Vector.set_set]

end Turn

/-! ### What a step finds out about the keys -/

namespace Machine

/-- The machine with other keys down. -/
def withKeypad (m : Machine) (keypad : Keypad) : Machine := { m with keypad }

/-- What an instruction finds out about the keys: whether the key that it asks for is down, or whether
any key is. -/
def answer (m : Machine) (keypad : Keypad) : Instruction → Option Bool
  | .skip (.keyDown x) | .skip (.keyUp x) => (m.keyIn x).toOption.map keypad.isDown
  | .waitForKey => some keypad.anyDown
  | _ => none

variable {m : Machine} {keypad : Keypad}

/-- A condition that gets the same answer from two keypads holds with both or with neither. -/
theorem holds_withKeypad {condition : Condition}
    (same : m.answer keypad (.skip condition) = m.answer m.keypad (.skip condition)) :
    (m.withKeypad keypad).holds condition = m.holds condition := by
  cases condition with
  | keyDown x | keyUp x =>
    have asked : (m.withKeypad keypad).keyIn x = m.keyIn x := rfl
    simp only [answer] at same
    simp only [holds, asked]
    cases found : m.keyIn x with
    | error cause => rfl
    | ok key =>
      rw [found] at same
      have down : keypad.isDown key = m.keypad.isDown key := Option.some.inj same
      show Except.ok _ = Except.ok _
      rw [show (m.withKeypad keypad).keypad.isDown key = m.keypad.isDown key from down]
  | _ => rfl

/-- An instruction to which other keys give the same answer does the same, and leaves those keys. -/
theorem execute_withKeypad {i : Instruction} (same : m.answer keypad i = m.answer m.keypad i) :
    (m.withKeypad keypad).execute i =
      (m.execute i).map fun (after, sent) => (after.withKeypad keypad, sent) := by
  have holds (condition : Condition) (h : i = .skip condition) :
      (m.facing keypad m.screen).holds condition = m.holds condition := by
    subst h
    exact holds_withKeypad same
  have waits (h : i = .waitForKey) : keypad.anyDown = m.keypad.anyDown := by
    subst h
    exact Option.some.inj same
  show (m.facing keypad m.screen).execute i = _
  rw [execute_facing holds waits fun _ _ _ => rfl]
  cases executed : m.execute i with
  | error cause => rfl
  | ok next =>
    have screen : next.1.screen = m.screenAfter i := (parts_of_execute executed).screen
    have drawn : (m.facing keypad m.screen).screenAfter i = m.screenAfter i := by cases i <;> rfl
    show Except.ok (next.1.facing keypad _, _) = Except.ok (next.1.withKeypad keypad, _)
    rw [drawn, ← screen]
    rfl

/-- A step to which other keys give the same answer comes to the same, and leaves those keys. -/
theorem step_withKeypad
    (same : ∀ word i, m.fetch = .ok word → i.spells word.toNat →
      m.answer keypad i = m.answer m.keypad i) :
    (m.withKeypad keypad).step =
      m.step.map fun p => { p with machine := p.machine.withKeypad keypad } := by
  have fetches : (m.withKeypad keypad).fetch = m.fetch := rfl
  rw [step, step, fetches]
  cases fetched : m.fetch with
  | error cause => rfl
  | ok word =>
    dsimp only
    rw [executeWord, executeWord]
    cases spelled : Instruction.ofWord? word with
    | none => rfl
    | some i =>
      dsimp only
      rw [execute_withKeypad (same word i fetched (Instruction.spells_of_ofWord? spelled))]
      cases m.execute i <;> rfl

/-! ### Words that ask for keys -/

/-- The word asks whether a key is down: the one that a register names, or any. -/
def AsksKeys (w : Nat) : Prop :=
  w / 4096 = 0xE ∧ w % 256 ∈ [0x9E, 0xA1] ∨ w / 4096 = 0xF ∧ w % 256 = 0x0A

instance (w : Nat) : Decidable (AsksKeys w) := inferInstanceAs (Decidable (_ ∨ _))

/-- The step that is due looks at a key: its word asks for that key, or it asks for any key and no other
is down. -/
def LooksAt (m : Machine) (key : Key) : Prop :=
  ∃ word, m.fetch = .ok word ∧
    let w := word.toNat
    (w / 4096 = 0xE ∧ w % 256 ∈ [0x9E, 0xA1] ∧ (m.v (Word.x word)).toNat = key.val ∨
      w / 4096 = 0xF ∧ w % 256 = 0x0A ∧ ∀ other ≠ key, m.keypad.isDown other = false)

/-- A turn at a key that a step does not look at makes no difference to what it finds out. -/
theorem answer_onKeypad {turn : Turn} {key : Key} (at_key : turn.key? = some key)
    (unseen : ¬ m.LooksAt key) {word : Word} {i : Instruction} (fetched : m.fetch = .ok word)
    (spells : i.spells word.toNat) :
    m.answer (turn.onKeypad m.keypad) i = m.answer m.keypad i := by
  cases i with
  | skip condition =>
    cases condition with
    | keyDown x | keyUp x =>
      obtain ⟨⟨group, low⟩, hx⟩ := spells
      rw [answer, answer]
      cases found : m.keyIn x with
      | error cause => rfl
      | ok asked =>
        refine congrArg some (Turn.isDown_onKeypad_of_ne at_key ?_ m.keypad)
        rintro rfl
        refine unseen ⟨word, fetched, .inl ⟨group, by simp [low], ?_⟩⟩
        rw [Fin.ext ((Word.val_x word).trans hx.symm)]
        exact toNat_of_keyIn found
    | _ => rfl
  | waitForKey =>
    obtain ⟨group, low⟩ := spells
    -- Some other key is down before and after the turn.
    obtain ⟨other, ne, down⟩ : ∃ other, other ≠ key ∧ m.keypad.isDown other = true := by
      refine Classical.byContradiction fun none => unseen ⟨word, fetched, .inr ⟨group, low, ?_⟩⟩
      intro other ne
      exact Bool.eq_false_iff.mpr fun down => none ⟨other, ne, down⟩
    have before : m.keypad.anyDown = true := m.keypad.anyDown_iff.mpr ⟨other, down⟩
    have after : (turn.onKeypad m.keypad).anyDown = true :=
      (Keypad.anyDown_iff _).mpr ⟨other, by rw [Turn.isDown_onKeypad_of_ne at_key ne, down]⟩
    rw [answer, answer, before, after]
  | _ => rfl

/-- The step that is due will succeed, and its word asks for a key. -/
def Asks (m : Machine) : Prop := (∃ p, m.step = .ok p) ∧ AsksKeys m.nextWord.toNat

theorem exists_step_of_instructionFault? {word : Word} {i : Instruction} (fetched : m.fetch = .ok word)
    (spelled : Instruction.ofWord? word = some i) (fine : m.instructionFault? i = none) :
    ∃ p, m.step = .ok p := by
  obtain ⟨⟨after, sent⟩, executed⟩ := faultOf_eq_none_iff.mp ((m.faultOf_execute i).trans fine)
  exact ⟨_, step_of_execute fetched spelled executed⟩

/-- A step that asks for no key, or that fails, finds out nothing about the keys. -/
theorem answer_of_not_asks (blind : ¬ m.Asks) {word : Word} {i : Instruction}
    (fetched : m.fetch = .ok word) (spells : i.spells word.toNat) :
    m.answer keypad i = m.answer m.keypad i := by
  obtain ⟨-, next⟩ := of_fetch_ok fetched
  have spelled := Instruction.ofWord?_of_spells spells
  cases i with
  | skip condition =>
    cases condition with
    | keyDown x | keyUp x =>
      obtain ⟨⟨group, low⟩, -⟩ := spells
      rw [answer, answer]
      cases found : m.keyIn x with
      | error cause => rfl
      | ok key =>
        have fine : m.keyFault? x = none := by rw [← faultOf_keyIn, found]; rfl
        refine absurd ⟨exists_step_of_instructionFault? fetched spelled fine, .inl ?_⟩ blind
        rw [← next]
        exact ⟨group, by simp [low]⟩
    | _ => rfl
  | waitForKey =>
    refine absurd ⟨exists_step_of_instructionFault? fetched spelled rfl, .inr ?_⟩ blind
    rw [← next]
    exact spells
  | _ => rfl

end Machine

/-! ### Orders of turns -/

/-- The turns that are at keys, in order. -/
def keyTurns (turns : List Turn) : List Turn := turns.filter (· ≠ .step)

/-- Only the turns of keys change the keypad. -/
theorem foldl_onKeypad_keyTurns (turns : List Turn) (p : Keypad) :
    (keyTurns turns).foldl Turn.onKeypad p = turns.foldl Turn.onKeypad p := by
  induction turns generalizing p with
  | nil => rfl
  | cons turn later ih =>
    cases turn with
    | step => exact ih p
    | press key | release key => exact ih _

namespace Session

/-- What comes of a turn that is a step: its events and its result. -/
def report (s : Session) : Turn → List (List Event × Except Error Word)
  | .step => [((s.step .silent).events, (s.step .silent).result)]
  | .press _ | .release _ => []

/-- What comes of all the steps among turns, one after the other. -/
def reports (s : Session) : List Turn → List (List Event × Except Error Word)
  | [] => []
  | turn :: later => s.report turn ++ (s.take turn).reports later

theorem reports_append (s : Session) (earlier later : List Turn) :
    s.reports (earlier ++ later) = s.reports earlier ++ (s.play earlier).reports later := by
  induction earlier generalizing s with
  | nil => rfl
  | cons turn earlier ih =>
    rw [List.cons_append, reports, ih, reports, List.append_assoc]
    rfl

/-- Without a step only the keypad changes, and there is nothing to report. -/
theorem play_of_not_mem (s : Session) {turns : List Turn} (none : .step ∉ turns) :
    s.play turns = s.withKeypad (turns.foldl Turn.onKeypad s.machine.keypad) ∧
      s.reports turns = [] := by
  induction turns generalizing s with
  | nil => exact ⟨rfl, rfl⟩
  | cons turn later ih =>
    obtain ⟨first, rest⟩ := List.ne_and_not_mem_of_not_mem_cons none
    obtain ⟨state, silent⟩ := ih (s.take turn) rest
    constructor
    · show (s.take turn).play later = _
      rw [state, s.take_of_ne_step first.symm]
      rfl
    · rw [reports, silent, List.append_nil]
      cases turn with
      | step => exact absurd rfl first
      | press key | release key => rfl

/-- A step leaves the keys as they are, whether it succeeds or fails. -/
theorem keypad_step (s : Session) : (s.step .silent).state.machine.keypad = s.machine.keypad := by
  rw [step_silent]
  cases stepped : s.machine.step with
  | error cause => rfl
  | ok p =>
    obtain ⟨-, -, i, m', sent, -, executed, machine, -⟩ := Machine.of_step_ok stepped
    show p.machine.keypad = _
    rw [machine]
    exact (Machine.parts_of_execute executed).keypad

theorem step_withKeypad {s : Session} {keypad : Keypad}
    (same : ∀ word i, s.machine.fetch = .ok word → i.spells word.toNat →
      s.machine.answer keypad i = s.machine.answer s.machine.keypad i) :
    (s.withKeypad keypad).step .silent =
      { s.step .silent with state := (s.step .silent).state.withKeypad keypad } := by
  have stepped : (s.withKeypad keypad).machine.step = _ := Machine.step_withKeypad same
  rw [step_silent, step_silent, stepped]
  cases s.machine.step <;> rfl

theorem withKeypad_of_eq {s : Session} {p : Keypad} (h : s.machine.keypad = p) :
    s.withKeypad p = s := by
  rw [withKeypad, ← h]

/-- With other keys down a step comes to the same, if the keys are the same whenever it asks for one. -/
theorem exists_step_of_agree {s : Session} {p q : Keypad}
    (agree : (s.withKeypad p).machine.Asks → p = q) :
    ∃ (u : Session) (events : List Event) (result : Except Error Word),
      (s.withKeypad p).step .silent = ⟨u.withKeypad p, events, result⟩ ∧
        (s.withKeypad q).step .silent = ⟨u.withKeypad q, events, result⟩ := by
  have kept : ((s.withKeypad p).step .silent).state.machine.keypad = p := keypad_step _
  refine ⟨((s.withKeypad p).step .silent).state, ((s.withKeypad p).step .silent).events,
    ((s.withKeypad p).step .silent).result, ?_, ?_⟩
  · rw [withKeypad_of_eq kept]
  · by_cases asks : (s.withKeypad p).machine.Asks
    · rw [← agree asks, withKeypad_of_eq kept]
    · exact step_withKeypad (s := s.withKeypad p) fun word i => Machine.answer_of_not_asks asks

/-- Turns at keys change the keys, and then the step comes. -/
theorem play_keys_step {s u : Session} {p : Keypad} {keys : List Turn} {events : List Event}
    {result : Except Error Word} (noStep : .step ∉ keys)
    (stepped : (s.withKeypad (keys.foldl Turn.onKeypad p)).step .silent = ⟨u, events, result⟩)
    (rest : List Turn) :
    (s.withKeypad p).play (keys ++ .step :: rest) = u.play rest ∧
      (s.withKeypad p).reports (keys ++ .step :: rest) = (events, result) :: u.reports rest := by
  obtain ⟨before, silent⟩ := (s.withKeypad p).play_of_not_mem noStep
  have before : (s.withKeypad p).play keys = s.withKeypad (keys.foldl Turn.onKeypad p) := before
  rw [play_append, reports_append, before, silent]
  constructor
  · show ((s.withKeypad _).step .silent).state.play rest = _
    rw [stepped]
  · show [_] ++ ((s.withKeypad _).step .silent).state.reports rest = _
    rw [stepped]
    rfl

/-- Two orders of turns, from sessions that differ in the keys alone: they come to the same if there are
as many steps in both, if both leave the same keys down, and if every step that asks for a key finds the
same keys down in both. -/
theorem play_withKeypad {s : Session} {p q : Keypad} {first second : List Turn}
    (steps : first.count .step = second.count .step)
    (ends : first.foldl Turn.onKeypad p = second.foldl Turn.onKeypad q)
    (agree : ∀ earlier later earlier' later', first = earlier ++ .step :: later →
      second = earlier' ++ .step :: later' → earlier.count .step = earlier'.count .step →
      ((s.withKeypad p).play earlier).machine.Asks →
      earlier.foldl Turn.onKeypad p = earlier'.foldl Turn.onKeypad q) :
    (s.withKeypad p).play first = (s.withKeypad q).play second ∧
      (s.withKeypad p).reports first = (s.withKeypad q).reports second := by
  induction n : first.count .step generalizing s p q first second with
  | zero =>
    obtain ⟨state, silent⟩ := (s.withKeypad p).play_of_not_mem (List.count_eq_zero.mp n)
    obtain ⟨state', silent'⟩ := (s.withKeypad q).play_of_not_mem (List.count_eq_zero.mp (steps ▸ n))
    rw [state, state', silent, silent']
    exact ⟨congrArg s.withKeypad ends, rfl⟩
  | succ n ih =>
    obtain ⟨keys, later, rfl, noStep⟩ :=
      List.eq_append_cons_of_mem (List.count_pos_iff.mp (by omega : 0 < first.count .step))
    obtain ⟨keys', later', rfl, noStep'⟩ :=
      List.eq_append_cons_of_mem (List.count_pos_iff.mp (by omega : 0 < second.count .step))
    have none : keys.count .step = keys'.count .step := by
      rw [List.count_eq_zero.mpr noStep, List.count_eq_zero.mpr noStep']
    -- Before the first step of each order and after it, the sessions differ in the keys alone.
    obtain ⟨u, events, result, stepped, stepped'⟩ := exists_step_of_agree
      (s := s) (p := keys.foldl Turn.onKeypad p) (q := keys'.foldl Turn.onKeypad q) fun asks => by
        refine agree keys later keys' later' rfl rfl none ?_
        rw [((s.withKeypad p).play_of_not_mem noStep).1]
        exact asks
    have rest : ∀ earlier last earlier' last', later = earlier ++ .step :: last →
        later' = earlier' ++ .step :: last' → earlier.count .step = earlier'.count .step →
        ((u.withKeypad (keys.foldl Turn.onKeypad p)).play earlier).machine.Asks →
        earlier.foldl Turn.onKeypad (keys.foldl Turn.onKeypad p) =
          earlier'.foldl Turn.onKeypad (keys'.foldl Turn.onKeypad q) := by
      intro earlier last earlier' last' split split' counts asks
      have same := agree (keys ++ .step :: earlier) last (keys' ++ .step :: earlier') last'
        (by rw [split, List.append_assoc, List.cons_append])
        (by rw [split', List.append_assoc, List.cons_append])
        (by rw [List.count_append, List.count_append, none, List.count_cons, List.count_cons, counts])
        (by rw [(play_keys_step noStep stepped earlier).1]; exact asks)
      rw [List.foldl_append, List.foldl_append] at same
      exact same
    rw [List.count_append, List.count_append, none, List.count_cons_self, List.count_cons_self]
      at steps
    rw [List.count_append, List.count_eq_zero.mpr noStep, List.count_cons_self] at n
    have ends : later.foldl Turn.onKeypad (keys.foldl Turn.onKeypad p) =
        later'.foldl Turn.onKeypad (keys'.foldl Turn.onKeypad q) := by
      rw [List.foldl_append, List.foldl_append] at ends
      exact ends
    obtain ⟨state, reported⟩ := ih (by omega) ends rest (by omega)
    obtain ⟨plays, reports⟩ := play_keys_step noStep stepped later
    obtain ⟨plays', reports'⟩ := play_keys_step noStep' stepped' later'
    rw [plays, plays', reports, reports']
    exact ⟨state, congrArg _ reported⟩

/-- A turn at a key that the step does not look at may come before the step or after it.

Two orders of the same steps and of the same turns at keys, each in its order, come to the same session
and to the same reports of the steps, if every step that asks for a key finds the same turns before it.

Turns at two keys may change places, and of turns at one key the last one counts. -/
theorem keys_commute_with_steps (s : Session) :
    (∀ (turn : Turn) (key : Key), turn.key? = some key → ¬ s.machine.LooksAt key →
      (s.take turn).step .silent =
        { s.step .silent with state := (s.step .silent).state.take turn }) ∧
      (∀ first second : List Turn, first.count .step = second.count .step →
        keyTurns first = keyTurns second →
        (∀ earlier later earlier' later', first = earlier ++ .step :: later →
          second = earlier' ++ .step :: later' → earlier.count .step = earlier'.count .step →
          (s.play earlier).machine.Asks → keyTurns earlier = keyTurns earlier') →
        s.play first = s.play second ∧ s.reports first = s.reports second) ∧
      ∀ (a b : Turn) (j k : Key), a.key? = some j → b.key? = some k →
        (j ≠ k → s.play [a, b] = s.play [b, a]) ∧ (j = k → s.play [a, b] = s.play [b]) := by
  have at_keys {turn : Turn} {key : Key} (h : turn.key? = some key) (t : Session) :
      t.take turn = t.withKeypad (turn.onKeypad t.machine.keypad) :=
    t.take_of_ne_step fun same => by rw [same] at h; cases h
  refine ⟨?_, ?_, ?_⟩
  · intro turn key at_key unseen
    rw [at_keys at_key, at_keys at_key, s.keypad_step]
    exact step_withKeypad fun word i => Machine.answer_onKeypad at_key unseen
  · intro first second steps turns agree
    refine play_withKeypad (s := s) (p := s.machine.keypad) (q := s.machine.keypad) steps ?_ ?_
    · rw [← foldl_onKeypad_keyTurns first, turns, foldl_onKeypad_keyTurns]
    · intro earlier later earlier' later' split split' counts asks
      rw [← foldl_onKeypad_keyTurns earlier, agree _ _ _ _ split split' counts asks,
        foldl_onKeypad_keyTurns]
  · intro a b j k ha hb
    have second (x y : Turn) {j k : Key} (hx : x.key? = some j) (hy : y.key? = some k) :
        s.play [x, y] = s.withKeypad (y.onKeypad (x.onKeypad s.machine.keypad)) := by
      show (s.take x).take y = _
      rw [at_keys hy, at_keys hx]
      rfl
    constructor
    · intro ne
      rw [second a b ha hb, second b a hb ha, Turn.onKeypad_comm ha hb ne]
    · rintro rfl
      rw [second a b ha hb, Turn.onKeypad_onKeypad ha hb]
      exact (at_keys hb s).symm

/-- A program that sets a register to five and then asks for key 5, and a player who presses that key before
the first step or before the second. -/
theorem keys_commute_with_steps_skip :
    let s := ((initial ⟨.listed [] 0, 0, false⟩).load [0x60, 0x05, 0xE0, 0x9E]).state
    (s.take (.press 5)).step .silent =
        { s.step .silent with state := (s.step .silent).state.take (.press 5) } ∧
      s.play [.press 5, .step, .step] = s.play [.step, .press 5, .step] ∧
      (s.play [.press 5, .step, .step]).machine.registers.pc = 0x206 ∧
      s.play [.press 5, .release 7] = s.play [.release 7, .press 5] ∧
      s.play [.press 5, .release 5] = s.play [.release 5] := by
  intro s
  have facts : s.machine.fetch.toOption = some 0x6005 ∧ (s.play [.press 5]).machine.nextWord = 0x6005 ∧
      (s.play [.press 5, .step, .step]).machine.registers.pc = 0x206 := by decide +kernel
  generalize s = s at facts ⊢
  obtain ⟨first, firstAgain, passed⟩ := facts
  obtain ⟨oneStep, orders, pairs⟩ := keys_commute_with_steps s
  have unseen : ¬ s.machine.LooksAt 5 := by
    rintro ⟨word, fetched, asks⟩
    rw [fetched] at first
    obtain rfl := Option.some.inj first
    revert asks
    simp
  -- The step that asks is the second one, and finds the key pressed in both orders.
  have same := orders [.press 5, .step, .step] [.step, .press 5, .step] rfl rfl (by
    intro earlier later earlier' later' split split' counts asks
    rcases earlier with _ | ⟨turn₁, _ | ⟨turn₂, _ | ⟨turn₃, rest⟩⟩⟩
    all_goals simp only [List.nil_append, List.cons_append, List.cons.injEq] at split
    · exact absurd split.1 (by decide)
    · obtain ⟨rfl, -⟩ := split
      obtain ⟨-, asked⟩ := asks
      rw [firstAgain] at asked
      exact absurd asked (by decide)
    · obtain ⟨rfl, rfl, -⟩ := split
      rcases earlier' with _ | ⟨turn₁, _ | ⟨turn₂, _ | ⟨turn₃, rest⟩⟩⟩
      all_goals simp only [List.nil_append, List.cons_append, List.cons.injEq] at split'
      · exact absurd counts (by decide)
      · exact absurd split'.2.1 (by decide)
      · obtain ⟨rfl, rfl, -⟩ := split'
        rfl
      · obtain ⟨-, -, -, none⟩ := split'
        cases rest <;> cases none
    · obtain ⟨-, -, -, none⟩ := split
      cases rest <;> cases none)
  exact ⟨oneStep (.press 5) 5 rfl unseen, same.1, passed,
    (pairs (.press 5) (.release 7) 5 7 rfl rfl).1 (by decide),
    (pairs (.press 5) (.release 5) 5 5 rfl rfl).2 rfl⟩

end Session

end Chip8

import Chip8.Proofs.Chronicles
import Chip8.Proofs.Frames
import Chip8.Terminal.Display

/-!
# Random numbers

A source is a stream of numbers with a place in it.  The instructions of group C take the numbers one after
the other, and nothing else moves the place but a reset, which goes back to the start of a generator and
leaves a list where it is.  So the place can be told from what has happened (`Random.Source.taken`), and
with it the number that every such instruction gets (`Session.numbers_come_in_order`).
-/

namespace Chip8

/-! ### Streams -/

namespace Random

namespace Source

/-- The source after so many numbers. -/
def skip (source : Source) : Nat → Source
  | 0 => source
  | k + 1 => (source.skip k).draw.2

/-- The numbers that a source gives, the next one at 0. -/
def number (source : Source) (k : Nat) : Byte := (source.skip k).draw.1

theorem skip_listed (numbers : List Byte) (drawn k : Nat) :
    (listed numbers drawn).skip k = .listed numbers (drawn + k) := by
  induction k with
  | zero => rfl
  | succ k ih =>
    rw [skip, ih]
    rfl

/-- A list is gone through over and over. -/
theorem number_listed (numbers : List Byte) (drawn k : Nat) :
    (listed numbers drawn).number k = numbers.getD ((drawn + k) % numbers.length) 0 := by
  rw [number, skip_listed]
  rfl

variable {t t' : Twister} {w : UInt32}

/-- A generator whose next output is not rejected gives the upper eight bits of it. -/
theorem draw_seeded_of_lt (next : t.next = (w, t')) (small : (w >>> 24).toNat < 255) :
    (seeded t).draw = (BitVec.ofNat 8 (w >>> 24).toNat, .seeded t') := by
  have taken : attempt t = .inr (⟨(w >>> 24).toNat, small⟩, t') := by
    rw [attempt, next]
    exact dif_pos small
  rw [draw, drawBelow255_eq, taken]

/-- A generator whose next output is rejected goes on as if it had not been there. -/
theorem draw_seeded_of_not_lt (next : t.next = (w, t')) (large : ¬ (w >>> 24).toNat < 255) :
    (seeded t).draw = (seeded t').draw := by
  have rejected : attempt t = .inl t' := by
    rw [attempt, next]
    exact dif_neg large
  rw [draw, drawBelow255_eq, rejected]
  rfl

/-- A number below 255 is taken as it comes. -/
theorem draw_seeded_of_unused {n : Nat} (unused : t.used < twisterSize)
    (output : (Twister.temper (Twister.word t.words t.used) >>> 24).toNat = n) (small : n < 255) :
    (seeded t).draw = (BitVec.ofNat 8 n, .seeded { t with used := t.used + 1 }) := by
  subst output
  exact draw_seeded_of_lt (if_pos unused) small

theorem exists_skip_seeded (generator : Twister) (k : Nat) :
    ∃ later, (seeded generator).skip k = .seeded later := by
  induction k with
  | zero => exact ⟨generator, rfl⟩
  | succ k ih =>
    obtain ⟨later, skipped⟩ := ih
    rw [skip, skipped]
    exact ⟨_, rfl⟩

/-- A generator never gives 255. -/
theorem number_seeded_le (generator : Twister) (k : Nat) : ((seeded generator).number k).toNat ≤ 254 := by
  obtain ⟨later, skipped⟩ := exists_skip_seeded generator k
  have small := (drawBelow255 later).1.isLt
  rw [number, skipped]
  show (BitVec.ofNat 8 (drawBelow255 later).1.val).toNat ≤ 254
  rw [BitVec.toNat_ofNat]
  omega

end Source

end Random

/-! ### Instructions -/

namespace Machine

/-- A change of the timers sends no draw. -/
theorem count_draw_notice (before after : Timers) : (Timers.notice before after).count .draw = 0 := by
  unfold Timers.notice
  split <;> rfl

/-- An instruction of group C takes the next number, and its register gets as much of it as the mask lets
through.  The source is left alone by all others. -/
theorem number_of_step {m : Machine} {p : Progress} (h : m.step = .ok p) :
    (p.word.toNat / 4096 = 0xC →
      p.machine.v (Word.x p.word) = m.source.draw.1 &&& Word.nn p.word ∧
        p.machine.source = m.source.draw.2 ∧ p.signals.count .draw = 1) ∧
      (p.word.toNat / 4096 ≠ 0xC → p.machine.source = m.source ∧ p.signals.count .draw = 0) := by
  have framed := framed_of_step h
  obtain ⟨-, -, i, m', sent, spells, executed, machine, signals⟩ := of_step_ok h
  have parts := parts_of_execute executed
  have drawn : p.signals.count .draw = (m.sentBy i).count .draw := by
    rw [signals, List.count_append, count_draw_notice, parts.sent]
    rfl
  constructor
  · intro group
    obtain rfl : i = .random (Word.x p.word) (Word.nn p.word) :=
      Instruction.eq_of_spells spells ⟨group, Word.val_x p.word, Word.toNat_nn p.word⟩
    have registers : m'.registers =
        (m.registers.set (Word.x p.word) (m.source.draw.1 &&& Word.nn p.word)).advance 1 :=
      congrArg (fun after => after.1.registers) (Except.ok.inj executed).symm
    refine ⟨?_, ?_, ?_⟩
    · show p.machine.registers.get _ = _
      rw [machine]
      show m'.registers.get _ = _
      rw [registers]
      exact Registers.get_set_self _ _ _
    · rw [machine]
      exact parts.source
    · rw [drawn, sentBy, List.count_append, count_draw_notice]
      rfl
  · intro other
    refine ⟨framed.source other, drawn.trans ?_⟩
    cases i with
    | random x mask => exact absurd spells.1 other
    | _ => exact count_draw_notice _ _

/-- The machine after an instruction of group C has put `value` into `VX` and left `source` behind. -/
def rolled (m : Machine) (x : Register) (value : Byte) (source : Random.Source) : Machine :=
  let m' := { m with source }.goOn (m.registers.set x value)
  { m' with timers := m'.timers.tick, count := m'.count + 1 }

end Machine

/-! ### What has been taken -/

namespace Deed

/-- Whether an instruction of group C is carried out. -/
def rolls : Deed → Bool
  | .step _ p => p.word.toNat / 4096 == 0xC
  | _ => false

/-- Whether the session is reset. -/
def isReset : Deed → Bool
  | .reset => true
  | _ => false

end Deed

/-- The deeds after the last reset. -/
def sinceReset (deeds : List Deed) : List Deed :=
  deeds.foldl (fun since deed => if deed.isReset then [] else since ++ [deed]) []

/-- How many numbers have been taken since the stream began: at the last reset if it comes from a generator,
and otherwise when the session was new. -/
def Random.Source.taken (source : Source) (deeds : List Deed) : Nat :=
  match source with
  | .seeded _ => (sinceReset deeds).countP Deed.rolls
  | .listed _ _ => deeds.countP Deed.rolls

open Chip8.Random (Source)

/-- A reset begins the deeds anew. -/
theorem sinceReset_concat (deeds : List Deed) (deed : Deed) :
    sinceReset (deeds ++ [deed]) = if deed.isReset then [] else sinceReset deeds ++ [deed] := by
  unfold sinceReset
  rw [List.foldl_append]
  rfl

/-- Each roll takes one number more. -/
theorem taken_concat (source : Source) (deeds : List Deed) {deed : Deed} (stays : deed.isReset = false) :
    source.taken (deeds ++ [deed]) = source.taken deeds + if deed.rolls then 1 else 0 := by
  unfold Source.taken
  cases source with
  | seeded generator =>
    dsimp only
    rw [sinceReset_concat, stays, if_neg Bool.false_ne_true, List.countP_append, List.countP_singleton]
  | listed numbers drawn =>
    dsimp only
    rw [List.countP_append, List.countP_singleton]

/-! ### Sessions -/

namespace Session

/-- Where the source of a session stands after deeds that began with a new one. -/
structure Stands (config : Config) (deeds : List Deed) (s : Session) : Prop where
  config_eq : s.config = config
  source_eq : s.machine.source = config.source.skip (config.source.taken deeds)

variable {supply : List Byte → Prop} {config : Config} {s t : Session} {before : List Deed}
  {deed : Deed} {deeds : List Deed} {events : List Event}

theorem stands_initial (config : Config) : Stands config [] (initial config) := by
  refine ⟨rfl, ?_⟩
  have none : config.source.taken [] = 0 := by cases config.source <;> rfl
  rw [none]
  rfl

/-- Whatever happens, the source stands where its numbers have been taken up to. -/
theorem stands_of_happening (happens : Happening supply s deed events t)
    (stands : Stands config before s) : Stands config (before ++ [deed]) t := by
  obtain ⟨config_eq, source_eq⟩ := stands
  have still (same : t.machine.source = s.machine.source) (stays : deed.isReset = false)
      (quiet : deed.rolls = false) :
      t.machine.source = config.source.skip (config.source.taken (before ++ [deed])) := by
    rw [taken_concat _ _ stays, quiet, same]
    exact source_eq
  cases happens with
  | @step p h =>
    refine ⟨config_eq, ?_⟩
    obtain ⟨rolled, other⟩ := Machine.number_of_step h
    by_cases group : p.word.toNat / 4096 = 0xC
    · have rolls : Deed.rolls (.step s.machine p) = true := beq_iff_eq.mpr group
      show p.machine.source = _
      rw [taken_concat _ _ rfl, rolls, (rolled group).2.1, source_eq]
      rfl
    · exact still (other group).1 rfl (beq_eq_false_iff_ne.mpr group)
  | reset =>
    rw [reset_eq]
    refine ⟨config_eq, ?_⟩
    show s.config.source.restart s.machine.source = _
    rw [config_eq, source_eq]
    -- A generator starts over, and nothing has been taken since.  A list goes on.
    unfold Source.taken
    cases config.source with
    | seeded generator =>
      dsimp only
      rw [sinceReset_concat]
      rfl
    | listed numbers drawn =>
      dsimp only
      rw [List.countP_append]
      rfl
  | _ => exact ⟨config_eq, still rfl rfl rfl⟩

theorem stands_of_chronicle (h : Chronicle supply s deeds events t)
    (stands : Stands config before s) : Stands config (before ++ deeds) t := by
  induction h generalizing before with
  | nil =>
    rw [List.append_nil]
    exact stands
  | cons happens _ ih =>
    have rest := ih (stands_of_happening happens stands)
    rw [List.append_assoc] at rest
    exact rest

theorem count_draw_signals (signals : List Signal) :
    (signals.map Event.signal).count (.signal .draw) = signals.count .draw := by
  induction signals with
  | nil => rfl
  | cons signal rest ih =>
    rw [List.map_cons, List.count_cons, List.count_cons, ih]
    cases signal <;> rfl

/-- A deed tells of as many draws as it takes numbers. -/
theorem count_draw_of_happening (happens : Happening supply s deed events t) :
    events.count (.signal .draw) = if deed.rolls then 1 else 0 := by
  have untold (u : Session) : u.traceEvents.count (.signal .draw) = 0 :=
    List.count_eq_zero.mpr (u.traceEvents_no_signal .draw)
  have quiet (before after : Timers) :
      ((Timers.notice before after).map Event.signal).count (.signal .draw) = 0 := by
    rw [count_draw_signals, Machine.count_draw_notice]
  cases happens with
  | @step p h =>
    obtain ⟨rolled, other⟩ := Machine.number_of_step h
    have news : [Event.stepped p.machine.registers.pc p.machine.count].count (.signal .draw) = 0 := rfl
    rw [List.count_append, List.count_append, untold, count_draw_signals, news]
    by_cases group : p.word.toNat / 4096 = 0xC
    · rw [(rolled group).2.2, show Deed.rolls (.step s.machine p) = true from beq_iff_eq.mpr group]
      rfl
    · rw [(other group).2, show Deed.rolls (.step s.machine p) = false from beq_eq_false_iff_ne.mpr group]
      rfl
  | fault h =>
    rw [List.count_append, untold]
    rfl
  | reset =>
    rw [reset_eq]
    show ((Timers.notice s.machine.timers .stopped).map _ ++ _).count _ = _
    rw [List.count_append, quiet]
    rfl
  | resetProcessor =>
    rw [s.machine.resetProcessor_eq]
    exact quiet s.machine.timers .stopped
  | timers timers => exact quiet s.machine.timers timers
  | _ => rfl

/-- There are as many signals of a draw as there are rolls. -/
theorem count_draw_of_chronicle (h : Chronicle supply s deeds events t) :
    events.count (.signal .draw) = deeds.countP Deed.rolls := by
  induction h with
  | nil => rfl
  | cons happens _ ih =>
    rw [List.count_append, count_draw_of_happening happens, ih, List.countP_cons]
    exact Nat.add_comm _ _

/-- From a new session on, whatever operations follow and whatever hooks answer: an instruction of group C
gets the next number of the stream, which starts over at a reset if it comes from a generator and goes on
if it is a list.  No other instruction takes a number, and nothing else does; neither does a refresh of a
display, which only takes the draw flag down. -/
theorem numbers_come_in_order {config : Config} {ops : List Operation}
    {outcomes : List (Outcome Session Answer)} (h : (initial config).performAll ops = some outcomes) :
    let events := outcomes.flatMap (·.events)
    let t := (initial config).afterAll outcomes
    (∃ deeds, Chronicle (fun _ => True) (initial config) deeds events t) ∧
      (∀ deeds, Chronicle (fun _ => True) (initial config) deeds events t →
        (∀ before m p later, deeds = before ++ .step m p :: later →
          (p.word.toNat / 4096 = 0xC →
            p.machine.v (Word.x p.word) =
              config.source.number (config.source.taken before) &&& Word.nn p.word ∧
            p.signals.count .draw = 1) ∧
          (p.word.toNat / 4096 ≠ 0xC → p.machine.source = m.source ∧ p.signals.count .draw = 0)) ∧
        events.count (.signal .draw) = deeds.countP Deed.rolls ∧
        t.machine.source = config.source.skip (config.source.taken deeds)) ∧
      (∀ generator, config.source = .seeded generator → ∀ k, (config.source.number k).toNat ≤ 254) ∧
      (∀ numbers drawn, config.source = .listed numbers drawn →
        ∀ k, config.source.number k = numbers.getD ((drawn + k) % numbers.length) 0) ∧
      ∀ (d : Display) (s : Session),
        s.perform .consumeFlag = some ⟨(d.refresh s).2.2, [], .ok (.flag (d.refresh s).1)⟩ := by
  intro events t
  have new : Stands config [] (initial config) := stands_initial config
  refine ⟨exists_chronicle h, ?_, ?_, ?_, fun _ _ => rfl⟩
  · intro deeds happened
    refine ⟨?_, count_draw_of_chronicle happened, (stands_of_chronicle happened new).source_eq⟩
    rintro before m p later rfl
    -- `u` is the session in which the step was due.
    obtain ⟨u, first, rest, earlier, others, -⟩ := happened.split
    have source : u.machine.source = config.source.skip (config.source.taken before) :=
      (stands_of_chronicle earlier new).source_eq
    cases others with
    | cons happens _ =>
      cases happens with
      | step stepped =>
        obtain ⟨rolled, other⟩ := Machine.number_of_step stepped
        refine ⟨fun group => ?_, other⟩
        obtain ⟨value, -, once⟩ := rolled group
        rw [source] at value
        exact ⟨value, once⟩
  · intro generator seeded k
    rw [seeded]
    exact Source.number_seeded_le generator k
  · intro numbers drawn listed k
    rw [listed]
    exact Source.number_listed numbers drawn k

/-- A step that finds an instruction of group C, with hooks that do not answer and without a trace. -/
theorem step_of_random {s : Session} {w : Word} {x : Register} {mask number : Byte} {source : Source}
    (untraced : s.config.trace = false) (fetched : s.machine.fetch = .ok w)
    (spelled : Instruction.ofWord? w = some (.random x mask))
    (drawn : s.machine.source.draw = (number, source)) :
    s.step .silent =
      { state := { s with machine := s.machine.rolled x (number &&& mask) source }
        events := (.draw :: s.machine.timers.notice s.machine.timers.tick).map .signal ++
          [.stepped (s.machine.registers.pc + 2) (s.machine.count + 1)]
        result := .ok w } := by
  have executed : s.machine.execute (.random x mask) =
      .ok ({ s.machine with source }.goOn (s.machine.registers.set x (number &&& mask)), [.draw]) := by
    rw [Machine.execute, drawn]
  have stepped := Machine.step_of_execute fetched spelled executed
  rw [Machine.tick_eq] at stepped
  rw [step_silent, stepped, traceEvents, untraced]
  rfl

/-- A generator whose first two numbers are 2B and 41, and a program that takes them.  After a reload it
takes the first one again. -/
theorem numbers_come_in_order_reload :
    let generator : Random.Twister :=
      ⟨((Vector.replicate 624 0).set 0 0x12345678).set 1 0x9ABCDEF0, 0⟩
    let s := initial ⟨.seeded generator, 0, false⟩
    let ops : List Operation := [.load [0xC0, 0xFF, 0xC1, 0x0F], .step .silent, .step .silent, .reload,
      .step .silent]
    ∃ outcomes, s.performAll ops = some outcomes ∧
      outcomes.map (fun o => (o.state.machine.v 0, o.state.machine.v 1)) =
        [(0x00, 0x00), (0x2B, 0x00), (0x2B, 0x01), (0x00, 0x00), (0x2B, 0x00)] ∧
      ∃ deeds, Chronicle (fun _ => True) s deeds (outcomes.flatMap (·.events)) (s.afterAll outcomes) ∧
        deeds.countP Deed.rolls = 3 := by
  intro generator s ops
  have draw₁ : (Source.seeded generator).draw = (0x2B, .seeded { generator with used := 1 }) :=
    Source.draw_seeded_of_unused (t := generator) (n := 0x2B) (by decide) (by decide +kernel) (by decide)
  have draw₂ : (Source.seeded { generator with used := 1 }).draw =
      (0x41, .seeded { generator with used := 2 }) :=
    Source.draw_seeded_of_unused (t := { generator with used := 1 }) (n := 0x41) (by decide)
      (by decide +kernel) (by decide)
  -- The session with the program loaded, to which the reload comes back, and after one step and two.
  let t := (s.load [0xC0, 0xFF, 0xC1, 0x0F]).state
  let u := { t with machine := t.machine.rolled 0 0x2B (.seeded { generator with used := 1 }) }
  let v := { u with machine := u.machine.rolled 1 0x01 (.seeded { generator with used := 2 }) }
  have step₁ : t.step .silent = ⟨u, [.signal .draw, .stepped 0x202 1], .ok 0xC0FF⟩ :=
    step_of_random (s := t) (w := 0xC0FF) rfl (Machine.fetch_of_inside (by decide) (by decide +kernel)) rfl draw₁
  have step₂ : u.step .silent = ⟨v, [.signal .draw, .stepped 0x204 2], .ok 0xC10F⟩ :=
    step_of_random (s := u) (w := 0xC10F) rfl (Machine.fetch_of_inside (by decide) (by decide +kernel)) rfl draw₂
  have reload : v.reload = ⟨t, [.log .reset, .log (.loaded 4)], .ok ()⟩ := by
    show (v.reset.andThen fun _ r => (r.load _).andThen fun _ r => ⟨r, [], .ok ()⟩) = _
    rw [reset_eq]
    rfl
  have performed : s.performAll ops =
      some [⟨t, [.log (.loaded 4)], .ok (.number 4)⟩,
        ⟨u, [.signal .draw, .stepped 0x202 1], .ok (.word 0xC0FF)⟩,
        ⟨v, [.signal .draw, .stepped 0x204 2], .ok (.word 0xC10F)⟩,
        ⟨t, [.log .reset, .log (.loaded 4)], .ok .done⟩,
        ⟨u, [.signal .draw, .stepped 0x202 1], .ok (.word 0xC0FF)⟩] := by
    refine performAll_of_cons rfl (performAll_of_cons (congrArg (some ∘ Outcome.map _) step₁) ?_)
    refine performAll_of_cons (congrArg (some ∘ Outcome.map _) step₂) ?_
    refine performAll_of_cons (congrArg (some ∘ Outcome.map _) reload) ?_
    exact performAll_of_cons (congrArg (some ∘ Outcome.map _) step₁) rfl
  obtain ⟨⟨deeds, happened⟩, told, -⟩ := numbers_come_in_order performed
  exact ⟨_, performed, by decide +kernel, deeds, happened, (told deeds happened).2.1.symm.trans rfl⟩

end Session

end Chip8

import Chip8.Proofs.Accesses
import Chip8.Proofs.Control
import Chip8.Proofs.Sprites
import Chip8.Proofs.Turns
import Chip8.Terminal.Display

/-!
# The picture on the terminal

A display keeps the panel of the screen until a refresh finds the draw flag up.  That is sound, because
nothing that a program does changes a pixel without raising the flag: as long as the flag is down, the
panel that is kept is the panel of the screen (`View.Current`).  A refresh says truly whether something
has been drawn since the one before it (`View.shown_screen_is_current`).

A reset erases the screen and takes the flag down, and it is the one thing left out here that a hook may
ask for.
-/

namespace Chip8

/-! ### Drawing -/

namespace Machine

/-- The instruction clears the screen, or it draws a sprite that has a set bit. -/
def DrawsWith (m : Machine) : Instruction → Prop
  | .clearScreen => True
  | .drawSprite _ _ height => ∃ k < height.val, m.memory.get (m.registers.i.toNat + k) ≠ 0
  | _ => False

/-- The step that is due will succeed, and it clears the screen or draws a sprite that has a set bit. -/
def Draws (m : Machine) : Prop :=
  let w := m.nextWord.toNat
  (∃ p, m.step = .ok p) ∧
    (w / 4096 = 0x0 ∧ w % 256 = 0xE0 ∨
      w / 4096 = 0xD ∧ ∃ k < w % 16, m.memory.get (m.registers.i.toNat + k) ≠ 0)

theorem drawFlag_screenAfter {m : Machine} {i : Instruction} (draws : m.DrawsWith i) :
    (m.screenAfter i).drawFlag = true := by
  cases i with
  | clearScreen => rfl
  | drawSprite x y height =>
    have set := (m.memory.any_slice m.registers.i.toNat height.val).mpr draws
    rw [screenAfter, Screen.drawFlag_drawSprite, set, Bool.or_true]
  | _ => exact draws.elim

/-- What does not draw leaves the screen as it is. -/
theorem screenAfter_of_not_draws {m : Machine} {i : Instruction} (still : ¬ m.DrawsWith i) :
    m.screenAfter i = m.screen := by
  cases i with
  | clearScreen => exact absurd trivial still
  | drawSprite x y height =>
    have clear := mt (m.memory.any_slice m.registers.i.toNat height.val).mp still
    rw [screenAfter]
    exact Screen.drawSprite_of_zero _ _ _ (Bool.eq_false_iff.mpr clear)
  | _ => rfl

/-- Whether an instruction draws can be told from its word and the memory. -/
theorem drawsWith_iff_of_spells {m : Machine} {w : Nat} {i : Instruction} (spells : i.spells w) :
    m.DrawsWith i ↔ w / 4096 = 0x0 ∧ w % 256 = 0xE0 ∨
      w / 4096 = 0xD ∧ ∃ k < w % 16, m.memory.get (m.registers.i.toNat + k) ≠ 0 := by
  cases i with
  | clearScreen => exact iff_of_true trivial (.inl spells)
  | ret =>
    obtain ⟨group, low⟩ := spells
    simp [DrawsWith, group, low]
  | drawSprite x y height =>
    obtain ⟨group, -, -, rows⟩ := spells
    simp [DrawsWith, group, rows]
  | skip condition =>
    cases condition with
    | keyDown x | keyUp x =>
      obtain ⟨⟨group, -⟩, -⟩ := spells
      simp [DrawsWith, group]
    | _ =>
      obtain ⟨group, -⟩ := spells
      simp [DrawsWith, group]
  | _ =>
    simp only [Instruction.spells] at spells
    simp [DrawsWith, spells]

/-- A step leaves the flag up if it draws, and otherwise the screen as it was. -/
theorem screen_of_step {m : Machine} {p : Progress} (h : m.step = .ok p) :
    (m.Draws → p.machine.screen.drawFlag = true) ∧ (¬ m.Draws → p.machine.screen = m.screen) := by
  obtain ⟨-, word, i, m', sent, spells, executed, machine, -⟩ := of_step_ok h
  have screen : p.machine.screen = m.screenAfter i := by
    rw [machine]
    exact (parts_of_execute executed).screen
  have draws : m.Draws ↔ m.DrawsWith i := by
    rw [drawsWith_iff_of_spells spells, word]
    exact and_iff_right ⟨p, h⟩
  rw [screen, draws]
  exact ⟨drawFlag_screenAfter, screenAfter_of_not_draws⟩

end Machine

/-! ### Steps of a session -/

/-- Hooks that never ask for a reset, nor for a reload, which begins with one. -/
def Hooks.NeverReset (hooks : Hooks) : Prop :=
  (∀ s, ∀ c ∈ hooks.onStep s, c ≠ .reset ∧ c ≠ .reload) ∧
    ∀ cause, ∀ c ∈ hooks.onFault cause, c ≠ .reset ∧ c ≠ .reload

namespace Session

theorem screen_withKey (s : Session) (number : Int) (change : Keypad → Key → Keypad) :
    (s.withKey number change).state.machine.screen = s.machine.screen := by
  unfold withKey
  cases Key.ofInt? number <;> rfl

theorem screen_load (s : Session) (program : List Byte) :
    (s.load program).state.machine.screen = s.machine.screen := by
  unfold load
  cases s.machine.memory.loadProgram program <;> rfl

/-- Only a reset, alone or before a reload, changes the screen on command. -/
theorem screen_obey (s : Session) {c : Command} (spares : c ≠ .reset ∧ c ≠ .reload) :
    (s.obey c).state.machine.screen = s.machine.screen := by
  cases c with
  | stop => rfl
  | reset => exact absurd rfl spares.1
  | reload => exact absurd rfl spares.2
  | press key | release key => exact s.screen_withKey key _

/-- Whatever hooks answer to a step, the screen is as the machine has left it. -/
theorem screen_step (s : Session) {hooks : Hooks} (never : hooks.NeverReset) :
    (s.step hooks).state.machine.screen =
      match s.machine.step with
      | .ok p => p.machine.screen
      | .error _ => s.machine.screen := by
  refine keeps_step never (fun t c spares same => (t.screen_obey spares).trans same) ?_ ?_
  · intro p stepped
    rw [stepped]
  · intro cause stepped
    rw [stepped]
    rfl

end Session

/-! ### Views -/

/-- What someone who watches a session does. -/
inductive Activity where
  | step (hooks : Hooks)
  | press (key : Int)
  | release (key : Int)
  | load (program : List Byte)
  | refresh

/-- A session and the display that shows it. -/
structure View where
  session : Session
  display : Display

namespace View

/-- A new display of a session. -/
def ofSession (s : Session) : View := ⟨s, Display.ofSession s⟩

/-- A refresh; whether it has rebuilt the panel of the screen. -/
def refresh (v : View) : Bool × View :=
  let (changed, display, session) := v.display.refresh v.session
  (changed, ⟨session, display⟩)

/-- The view after an activity. -/
def act (v : View) : Activity → View
  | .step hooks => { v with session := (v.session.step hooks).state }
  | .press key => { v with session := (v.session.press key).state }
  | .release key => { v with session := (v.session.release key).state }
  | .load program => { v with session := (v.session.load program).state }
  | .refresh => v.refresh.2

/-- The view after activities one after the other. -/
def actAll (v : View) (activities : List Activity) : View := activities.foldl act v

/-- The screen of the session. -/
def screen (v : View) : Screen := v.session.machine.screen

/-- Whether an activity is a step that draws. -/
def DrawsBy (v : View) (a : Activity) : Prop :=
  (∃ hooks, a = .step hooks) ∧ v.session.machine.Draws

/-- One of the activities is a step that draws. -/
def Drawn (v : View) (activities : List Activity) : Prop :=
  ∃ before a after, activities = before ++ a :: after ∧ (v.actAll before).DrawsBy a

/-- While the draw flag is down, what is shown is the screen. -/
def Current (v : View) : Prop :=
  v.screen.drawFlag = false → v.display.screen = screenPanel v.screen

variable {v : View} {a : Activity}

/-- Between refreshes an activity that does not draw leaves the screen alone, and one that draws raises the
flag. -/
theorem screen_act (never : ∀ hooks, a = .step hooks → hooks.NeverReset) (between : a ≠ .refresh) :
    (v.act a).display = v.display ∧ (v.DrawsBy a → (v.act a).screen.drawFlag = true) ∧
      (¬ v.DrawsBy a → (v.act a).screen = v.screen) := by
  refine ⟨?_, ?_, ?_⟩
  · cases a with
    | refresh => exact absurd rfl between
    | _ => rfl
  · rintro ⟨⟨hooks, rfl⟩, draws⟩
    obtain ⟨p, stepped⟩ := draws.1
    show (v.session.step hooks).state.machine.screen.drawFlag = true
    rw [v.session.screen_step (never hooks rfl), stepped]
    exact (Machine.screen_of_step stepped).1 draws
  · intro still
    cases a with
    | step hooks =>
      show (v.session.step hooks).state.machine.screen = _
      rw [v.session.screen_step (never hooks rfl)]
      cases stepped : v.session.machine.step with
      | error cause => rfl
      | ok p => exact (Machine.screen_of_step stepped).2 fun draws => still ⟨⟨hooks, rfl⟩, draws⟩
    | press key | release key => exact v.session.screen_withKey key _
    | load program => exact v.session.screen_load program
    | refresh => exact absurd rfl between

/-- A refresh shows the screen as it is then, and takes the flag down. -/
theorem refresh_current (current : v.Current) :
    v.refresh.2.display.screen = screenPanel v.screen ∧ v.refresh.2.Current := by
  have shown : v.refresh.2.display.screen = screenPanel v.screen := by
    show (if v.screen.drawFlag then screenPanel v.screen.consume.2 else v.display.screen) = _
    cases flag : v.screen.drawFlag with
    | true => rfl
    | false => exact current flag
  exact ⟨shown, fun _ => shown⟩

/-- After an activity the panel shows the screen, unless the draw flag is up. -/
theorem current_act (never : ∀ hooks, a = .step hooks → hooks.NeverReset) (current : v.Current) :
    (v.act a).Current := by
  by_cases again : a = .refresh
  · rw [again]
    exact (refresh_current current).2
  · obtain ⟨display, raises, keeps⟩ := screen_act (v := v) never again
    intro flag
    by_cases draws : v.DrawsBy a
    · rw [raises draws] at flag
      cases flag
    · rw [keeps draws] at flag ⊢
      rw [display]
      exact current flag

theorem current_actAll {activities : List Activity}
    (never : ∀ hooks, .step hooks ∈ activities → hooks.NeverReset) (current : v.Current) :
    (v.actAll activities).Current := by
  induction activities generalizing v with
  | nil => exact current
  | cons a rest ih =>
    refine ih (fun hooks member => never hooks (List.mem_cons_of_mem _ member)) (current_act ?_ current)
    rintro hooks rfl
    exact never hooks List.mem_cons_self

/-- Something has been drawn by the first activity, or by a later one. -/
theorem drawn_cons (v : View) (a : Activity) (rest : List Activity) :
    v.Drawn (a :: rest) ↔ v.DrawsBy a ∨ (v.act a).Drawn rest := by
  constructor
  · rintro ⟨before, b, after, split, draws⟩
    cases before with
    | nil =>
      cases split
      exact .inl draws
    | cons first before =>
      cases split
      exact .inr ⟨before, b, after, rfl, draws⟩
  · rintro (draws | ⟨before, b, after, rfl, draws⟩)
    · exact ⟨[], a, rest, rfl, draws⟩
    · exact ⟨a :: before, b, after, rfl, draws⟩

/-- Between refreshes the flag is up if it was up before, or if something has been drawn since. -/
theorem drawFlag_actAll {since : List Activity}
    (never : ∀ hooks, .step hooks ∈ since → hooks.NeverReset) (between : .refresh ∉ since) :
    (v.actAll since).screen.drawFlag = true ↔ v.screen.drawFlag = true ∨ v.Drawn since := by
  induction since generalizing v with
  | nil => simp [actAll, Drawn]
  | cons a rest ih =>
    have first : (v.act a).screen.drawFlag = true ↔ v.screen.drawFlag = true ∨ v.DrawsBy a := by
      have noRefresh : a ≠ .refresh := fun same => between (same ▸ List.mem_cons_self)
      obtain ⟨-, raises, keeps⟩ := screen_act (v := v)
        (fun hooks same => never hooks (same ▸ List.mem_cons_self)) noRefresh
      by_cases draws : v.DrawsBy a
      · simp [raises draws, draws]
      · simp [keeps draws, draws]
    have later := ih (v := v.act a) (fun hooks member => never hooks (List.mem_cons_of_mem _ member))
      fun member => between (List.mem_cons_of_mem _ member)
    calc (v.actAll (a :: rest)).screen.drawFlag = true
      _ ↔ (v.act a).screen.drawFlag = true ∨ (v.act a).Drawn rest := later
      _ ↔ v.screen.drawFlag = true ∨ v.DrawsBy a ∨ (v.act a).Drawn rest := by rw [first, or_assoc]
      _ ↔ v.screen.drawFlag = true ∨ v.Drawn (a :: rest) := by rw [drawn_cons]

theorem actAll_append (v : View) (earlier later : List Activity) :
    v.actAll (earlier ++ later) = (v.actAll earlier).actAll later :=
  List.foldl_append

/-- From a new display on, whatever is done but a reset: while the draw flag is down what is shown is the
screen, so that a refresh leaves the screen of its moment on show.  A refresh rebuilds the panel if
something has been drawn since the refresh before it, and the first refresh also if the flag was up at
the start. -/
theorem shown_screen_is_current (s : Session) (activities : List Activity)
    (never : ∀ hooks, .step hooks ∈ activities → hooks.NeverReset) :
    let v := (ofSession s).actAll activities
    (v.screen.drawFlag = false → v.display.screen = screenPanel v.screen) ∧
      (v.refresh.2.display.screen = screenPanel v.screen ∧
        v.refresh.2.screen = { v.screen with drawFlag := false }) ∧
      (.refresh ∉ activities →
        (v.refresh.1 = true ↔ s.machine.screen.drawFlag = true ∨ (ofSession s).Drawn activities)) ∧
      ∀ earlier since, activities = earlier ++ .refresh :: since → .refresh ∉ since →
        (v.refresh.1 = true ↔ ((ofSession s).actAll (earlier ++ [.refresh])).Drawn since) := by
  intro v
  have current : v.Current := current_actAll never fun _ => rfl
  refine ⟨current, ⟨(refresh_current current).1, rfl⟩, fun between => ?_, ?_⟩
  · exact drawFlag_actAll never between
  · rintro earlier since rfl between
    have split : v = ((ofSession s).actAll (earlier ++ [.refresh])).actAll since := by
      rw [← actAll_append, List.append_assoc]
      rfl
    have lowered : ((ofSession s).actAll (earlier ++ [.refresh])).screen.drawFlag = false := by
      rw [actAll_append]
      rfl
    have neverSince (hooks : Hooks) (member : .step hooks ∈ since) : hooks.NeverReset :=
      never hooks (List.mem_append_right _ (List.mem_cons_of_mem _ member))
    show v.screen.drawFlag = true ↔ _
    rw [split, drawFlag_actAll neverSince between, lowered]
    simp

/-- A refresh before a zero is drawn keeps the panel, and the one after it shows the zero. -/
theorem shown_screen_is_current_zero :
    let program : List Byte := [0xA0, 0x00, 0xD0, 0x05]
    let activities : List Activity := [.load program, .step .silent, .refresh, .step .silent]
    let v := (ofSession (Session.initial ⟨.listed [] 0, 0, false⟩)).actAll activities
    v.refresh.1 = true ∧ v.refresh.2.display.screen = screenPanel v.screen ∧
      v.screen.pixel 3 4 = true := by
  intro program activities v
  have silent : Hooks.silent.NeverReset :=
    ⟨fun _ _ member => absurd member List.not_mem_nil, fun _ _ member => absurd member List.not_mem_nil⟩
  have never (hooks : Hooks) (member : .step hooks ∈ activities) : hooks.NeverReset := by
    have same : hooks = .silent := by simpa [activities] using member
    rw [same]
    exact silent
  obtain ⟨-, ⟨shown, -⟩, -, answer⟩ := shown_screen_is_current _ activities never
  refine ⟨(answer [.load program, .step .silent] [.step .silent] rfl (by simp)).mpr ?_, shown, ?_⟩
  · refine ⟨[], .step .silent, [], rfl, ⟨.silent, rfl⟩, faultOf_eq_none_iff.mp ?_, .inr ?_⟩
    · rw [Machine.faultOf_step]
      decide +kernel
    · decide +kernel
  · decide +kernel

end View

end Chip8

import Chip8.Proofs.Observation
import Chip8.Proofs.Pictures
import Chip8.Proofs.Restarts

/-!
# What a reset leaves on show

A reset erases the screen and takes the draw flag down, and the flag is all that a refresh goes by.  So the
refresh after a reset keeps the panel that it finds, whatever it shows, and only a panel that is dark all over
is the one of the screen by then (`View.reset_leaves_picture`).
-/

namespace Chip8

/-- A reset leaves no light on the screen. -/
theorem Session.screen_reset (s : Session) : s.reset.state.machine.screen = Screen.blank := by
  rw [reset_eq]
  rfl

/-- A reload that succeeds leaves the screen of a reset. -/
theorem Session.screen_reload {s : Session} (done : s.reload.result = .ok ()) :
    s.reload.state.machine.screen = Screen.blank := by
  rw [state_reload]
  cases remembered : s.program with
  | none =>
    rw [reload, remembered] at done
    cases done
  | some program => exact (s.reset.state.screen_load program).trans s.screen_reset

namespace View

variable {v w : View} {acts : List Act} {outcomes : List (Outcome Session Answer)}

/-- What is shown is the panel of some screen. -/
def Shows (v : View) : Prop := ∃ shown, v.display.screen = screenPanel shown

theorem shows_watch (shows : v.Shows) (look : Look) : (v.watch look).Shows := by
  cases look with
  | refresh =>
    show ∃ shown, (if v.screen.drawFlag then screenPanel v.screen.consume.2 else v.display.screen) =
      screenPanel shown
    cases v.screen.drawFlag with
    | true => exact ⟨_, rfl⟩
    | false => exact shows
  | consume | trace on => exact shows

/-- After any acts the panel shows the screen, unless the draw flag is up. -/
theorem shows_performAll (shows : v.Shows) (reached : v.performAll acts = some (outcomes, w)) :
    w.Shows := by
  induction acts generalizing v outcomes with
  | nil =>
    cases reached
    exact shows
  | cons act acts ih =>
    cases act with
    | watch look => exact ih (shows_watch shows look) reached
    | operate op =>
      rw [performAll] at reached
      cases done : v.session.perform op with
      | none => rw [done] at reached; cases reached
      | some o =>
        rw [done] at reached
        obtain ⟨⟨later, w'⟩, rest, same⟩ := Option.map_eq_some_iff.mp reached
        cases same
        exact ih (v := { v with session := o.state }) shows rest

/-- A refresh with the flag down keeps the panel. -/
theorem refresh_of_lowered (lowered : v.screen.drawFlag = false) :
    v.refresh.1 = false ∧ v.refresh.2.display.screen = v.display.screen ∧
      v.refresh.2.screen = v.screen := by
  refine ⟨lowered, ?_, ?_⟩
  · show (if v.screen.drawFlag then _ else _) = _
    rw [lowered]
    rfl
  · show { v.screen with drawFlag := false } = v.screen
    rw [← lowered]

/-- Whatever has been done with a session and its display: after a reset, or a reload that succeeds, the screen
is blank and the next refresh keeps the panel that was shown before.  That is the panel of the screen only if
no pixel is lit in it. -/
theorem reset_leaves_picture {s u : Session}
    (reached : (ofSession s).performAll acts = some (outcomes, v))
    (restarted : u = v.session.reset.state ∨
      v.session.reload.result = .ok () ∧ u = v.session.reload.state) :
    let after := refresh { v with session := u }
    after.1 = false ∧ after.2.display.screen = v.display.screen ∧ after.2.screen = Screen.blank ∧
      ∃ shown, v.display.screen = screenPanel shown ∧
        (after.2.display.screen = screenPanel after.2.screen ↔
          ∀ x < 64, ∀ y < 32, shown.pixel x y = false) := by
  intro after
  have blank : u.machine.screen = Screen.blank := by
    rcases restarted with rfl | ⟨done, rfl⟩
    · exact v.session.screen_reset
    · exact Session.screen_reload done
  obtain ⟨changed, kept, screen⟩ := refresh_of_lowered (v := { v with session := u })
    (congrArg Screen.drawFlag blank)
  have screen : after.2.screen = Screen.blank := screen.trans blank
  obtain ⟨shown, shows⟩ := shows_performAll ⟨_, rfl⟩ reached
  refine ⟨changed, kept, screen, shown, shows, ?_⟩
  rw [kept, shows, screen, screenPanel_eq_iff]
  simp only [Screen.pixel_blank]

/-- A zero that is on show stays there behind a reset, and behind a reload. -/
theorem reset_leaves_picture_zero :
    let s := Session.initial ⟨.listed [] 0, 0, false⟩
    let program : List Byte := [0xA0, 0x00, 0xD0, 0x05]
    let acts : List Act := [.operate (.load program), .operate (.step .silent),
      .operate (.step .silent), .watch .refresh]
    ∃ outcomes v, (ofSession s).performAll acts = some (outcomes, v) ∧
      v.display.screen = screenPanel v.screen ∧ v.session.reload.result = .ok () ∧
      ∀ u ∈ [v.session.reset.state, v.session.reload.state],
        let after := refresh { v with session := u }
        after.1 = false ∧ after.2.screen = Screen.blank ∧
          after.2.display.screen ≠ screenPanel after.2.screen := by
  intro s program acts
  -- For any session, so that nothing is computed here.
  have reached (s : Session) : ∃ outcomes, (ofSession s).performAll acts =
      some (outcomes, (refresh ⟨(((s.load program).state.step .silent).state.step .silent).state,
        Display.ofSession s⟩).2) :=
    ⟨_, rfl⟩
  have facts :
      let drawn := (((s.load program).state.step .silent).state.step .silent).state
      drawn.machine.screen.drawFlag = true ∧ drawn.machine.screen.pixel 3 4 = true ∧
        drawn.program = some program := by
    decide +kernel
  have reached := reached s
  generalize (((s.load program).state.step .silent).state.step .silent).state = drawn at facts reached
  obtain ⟨raised, lit, remembered⟩ := facts
  obtain ⟨outcomes, reached⟩ := reached
  let v := (refresh ⟨drawn, Display.ofSession s⟩).2
  have current : v.display.screen = screenPanel v.screen := by
    show (if drawn.machine.screen.drawFlag then _ else _) = _
    rw [raised]
    rfl
  have loaded : v.session.reload.result = .ok () :=
    (Session.reload_of_program (s := v.session) remembered (by decide)).1
  have stale {u : Session} (restarted : u = v.session.reset.state ∨
      v.session.reload.result = .ok () ∧ u = v.session.reload.state) :
      let after := refresh { v with session := u }
      after.1 = false ∧ after.2.screen = Screen.blank ∧
        after.2.display.screen ≠ screenPanel after.2.screen := by
    obtain ⟨changed, -, blank, shown, shows, dark⟩ := reset_leaves_picture reached restarted
    refine ⟨changed, blank, fun same => ?_⟩
    have pixel := screenPanel_eq_iff.mp (current.symm.trans shows) 3 (by decide) 4 (by decide)
    rw [dark.mp same 3 (by decide) 4 (by decide)] at pixel
    exact Bool.false_ne_true (pixel.symm.trans lit)
  refine ⟨outcomes, v, reached, current, loaded, ?_⟩
  simp only [List.forall_mem_cons, List.not_mem_nil, false_implies, implies_true, and_true]
  exact ⟨stale (.inl rfl), stale (.inr ⟨loaded, rfl⟩)⟩

end View

end Chip8

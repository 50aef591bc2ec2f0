import Workcell.Cell.Motor
import Workcell.Proofs.Completion.Actions
import Workcell.Proofs.Schedule.Tracked

/-!
Motors leave the scene alone: they put devices back, signal them, and wait for times that are still to come.
-/

set_option autoImplicit false

namespace Workcell

variable {R : Type}

def Cell.Driven (before after : Cell R) : Prop :=
  Cell.Kept before after ∧ ∃ signals : List Signal, after.outbox = before.outbox ++ signals.map .signal

variable [Scalar R]

namespace Motor

def Sound (pace : Duration) (motor : Motor R) : Prop := motor.timer ≠ none → pace ≠ 0

omit [Scalar R] in
theorem tick_of_paced (cell : Cell R) (pace : Duration) (ready : cell.scene.Ready pace) (drive : Drive R)
    (ticks : tick cell drive ≠ 0) : tick cell drive = pace := by
  have same : ∀ other : Duration, cell.driver = .simulation other → other = pace := by
    intro other driver
    have simulated : cell.driver = .simulation pace := ready.simulated
    rw [driver] at simulated
    exact Driver.simulation.inj simulated
  cases drive with
  | axis handle motion =>
      rw [tick] at ticks ⊢
      cases found : cell.axes.get? handle with
      | none => exact absurd (by rw [found]; rfl) ticks
      | some axis => exact same _ (Cell.Paced.axis ready.paced handle axis found)
  | actuator handle stroke began =>
      rw [tick] at ticks ⊢
      cases found : cell.actuators.get? handle with
      | none => exact absurd (by rw [found]; rfl) ticks
      | some actuator => exact same _ (Cell.Paced.actuator ready.paced handle actuator found)

-- A step needs its device, and puts it back with its tick.
theorem step_driven (pace : Duration) (cell : Cell R) (ready : cell.scene.Ready pace) (drive : Drive R) (done : Bool)
    (after : Cell R) (stepped : step cell drive = some (done, after)) :
    Cell.Driven cell after ∧ tick after drive = pace := by
  have simulated : cell.driver = .simulation pace := ready.simulated
  cases drive with
  | axis handle motion =>
      obtain ⟨axis, found, later⟩ := Option.bind_eq_some_iff.mp stepped
      obtain ⟨⟨moved, last⟩, ticked, same⟩ := Option.bind_eq_some_iff.mp later
      cases same
      have held : moved.tick = axis.tick := by
        unfold AxisMotion.tick? at ticked
        split at ticked
        · cases ticked
          rfl
        · cases ticked
      have own : axis.tick = pace :=
        (Driver.simulation.inj (simulated.symm.trans (Cell.Paced.axis ready.paced handle axis found))).symm
      have paced := Cell.Paced.of_ticks cell { cell with axes := cell.axes.set handle moved } rfl
        (Bank.map_set _ _ _ axis _ found held) rfl
      refine ⟨⟨Cell.Kept.of_devices cell _ cell.actuators _ paced, [.axis handle], rfl⟩, ?_⟩
      have inside : handle < cell.axes.slots.length := (List.getElem?_eq_some_iff.mp found).1
      simp [tick, Cell.signal, Cell.effect, Bank.get?, Bank.set, inside, held, own]
  | actuator handle stroke began =>
      obtain ⟨actuator, found, later⟩ := Option.bind_eq_some_iff.mp stepped
      obtain ⟨⟨moved, last⟩, ticked, same⟩ := Option.bind_eq_some_iff.mp later
      cases same
      have held : moved.tick = actuator.tick := by
        unfold Stroke.tick? at ticked
        split at ticked
        · cases ticked
          rfl
        · cases ticked
      have own : actuator.tick = pace :=
        (Driver.simulation.inj (simulated.symm.trans (Cell.Paced.actuator ready.paced handle actuator found))).symm
      have paced := Cell.Paced.of_ticks cell { cell with actuators := cell.actuators.set handle moved } rfl rfl
        (Bank.map_set _ _ _ actuator _ found held)
      refine ⟨⟨Cell.Kept.of_devices cell cell.axes _ _ paced, [.actuator handle], rfl⟩, ?_⟩
      have inside : handle < cell.actuators.slots.length := (List.getElem?_eq_some_iff.mp found).1
      simp [tick, Cell.signal, Cell.effect, Bank.get?, Bank.set, inside, held, own]

theorem poll_driven (pace : Duration) (motor : Motor R) (sound : motor.Sound pace) (cell : Cell R)
    (ready : cell.scene.Ready pace) :
    Cell.Driven cell (motor.poll cell).2 ∧ ∀ left, (motor.poll cell).1 = some left →
      left.Sound pace ∧ ∃ timer, left.timer = some timer ∧ cell.now < timer.due := by
  have still : Cell.Driven cell cell := ⟨.refl cell, [], by simp⟩
  obtain ⟨drive, next⟩ := motor
  cases next with
  | none =>
      rw [poll]
      by_cases ticks : tick cell drive = 0
      · simp only [if_pos ticks]
        exact ⟨still, fun left isLeft => by cases isLeft⟩
      · have same : tick cell (begun cell.now drive) = tick cell drive := by
          cases drive with
          | axis handle motion => rfl
          | actuator handle stroke began => rfl
        simp only [if_neg ticks]
        refine ⟨⟨⟨rfl, rfl⟩, [], by simp [hold, Cell.timer]⟩, fun left isLeft => ?_⟩
        cases isLeft
        refine ⟨fun _ => tick_of_paced cell pace ready drive ticks ▸ ticks, _, rfl, ?_⟩
        exact Duration.due_ahead _ _ (same ▸ ticks)
  | some timer =>
      have lasts : pace ≠ 0 := sound (by simp)
      rw [poll]
      by_cases passed : cell.reached timer = true
      · simp only [if_pos passed]
        cases stepped : step cell drive with
        | none => exact ⟨still, fun left isLeft => by cases isLeft⟩
        | some outcome =>
            obtain ⟨done, after⟩ := outcome
            obtain ⟨driven, ticks⟩ := step_driven pace cell ready drive done after stepped
            cases done with
            | true => exact ⟨driven, fun left isLeft => by cases isLeft⟩
            | false =>
                refine ⟨⟨⟨driven.1.1, driven.1.2⟩, driven.2⟩, fun left isLeft => ?_⟩
                cases isLeft
                refine ⟨fun _ => lasts, _, rfl, ?_⟩
                rw [← driven.1.2]
                exact Duration.due_ahead _ _ (ticks.symm ▸ lasts)
      · simp only [if_neg passed]
        refine ⟨still, fun left isLeft => ?_⟩
        cases isLeft
        exact ⟨sound, timer, rfl, cell.reached_of_not timer passed⟩

end Motor

end Workcell

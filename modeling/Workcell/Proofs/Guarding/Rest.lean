import Workcell.Flow.Build
import Workcell.Proofs.Action.Later
import Workcell.Proofs.Exact
import Workcell.Proofs.Guarding.Handlers
import Workcell.Proofs.Upkeep.Life

/-!
No device is left in motion by a run that waits for all it sets in motion.
-/

set_option autoImplicit false

namespace Workcell

variable {R : Type} [Scalar R]

theorem advance_moving (motion : AxisMotion R) (state : AxisState R) (moves : (motion.advance state).1.moving = true) :
    state.moving = true := by
  unfold AxisMotion.advance at moves
  dsimp only at moves
  split at moves
  · cases moves
  · exact moves

theorem advance_changing (stroke : Stroke R) (elapsed : Duration) (state : ActuatorState R)
    (changes : (stroke.advance elapsed state).1.changing = true) : state.changing = true := by
  unfold Stroke.advance at changes
  dsimp only at changes
  split at changes
  · cases changes
  · exact changes

theorem axis_step_calm (cell after : Cell R) (handle : Nat) (motion : AxisMotion R) (done : Bool)
    (stepped : Motor.step cell (.axis handle motion) = some (done, after)) : Cell.Calm cell after := by
  unfold Motor.step at stepped
  obtain ⟨axis, present, later⟩ := Option.bind_eq_some_iff.mp stepped
  obtain ⟨⟨moved, last⟩, ticked, same⟩ := Option.bind_eq_some_iff.mp later
  cases same
  refine ⟨?_, fun _ changes => changes⟩
  rintro slot ⟨registered, found, there, moving⟩
  rcases Bank.get_of_set _ _ _ _ _ there with ⟨rfl, rfl⟩ | ⟨-, old⟩
  · refine ⟨registered, axis, present, ?_⟩
    unfold AxisMotion.tick? at ticked
    split at ticked
    · cases ticked
      exact advance_moving motion axis.state moving
    · cases ticked
  · exact ⟨registered, found, old, moving⟩

theorem stroke_step_calm (cell after : Cell R) (handle began : Nat) (stroke : Stroke R) (done : Bool)
    (stepped : Motor.step cell (.actuator handle stroke began) = some (done, after)) : Cell.Calm cell after := by
  unfold Motor.step at stepped
  obtain ⟨actuator, present, later⟩ := Option.bind_eq_some_iff.mp stepped
  obtain ⟨⟨moved, last⟩, ticked, same⟩ := Option.bind_eq_some_iff.mp later
  cases same
  refine ⟨fun _ moves => moves, ?_⟩
  rintro slot ⟨registered, found, there, changing⟩
  rcases Bank.get_of_set _ _ _ _ _ there with ⟨rfl, rfl⟩ | ⟨-, old⟩
  · refine ⟨registered, actuator, present, ?_⟩
    unfold Stroke.tick? at ticked
    split at ticked
    · cases ticked
      exact advance_changing stroke _ actuator.state changing
    · cases ticked
  · exact ⟨registered, found, old, changing⟩

-- Motors carry on what has been begun; they begin nothing.
theorem motor_calm (motor : Motor R) (cell : Cell R) : Cell.Calm cell (motor.poll cell).2 := by
  refine motor_within .refl .trans (fun _ _ => .of_same _ _ rfl rfl) ?_ motor cell
  intro drive cell done after
  cases drive with
  | axis handle motion => exact axis_step_calm cell after handle motion done
  | actuator handle stroke began => exact stroke_step_calm cell after handle began stroke done

/-- However a run ends whose calls all wait for what they set in motion, every device is at rest then, if all were at
rest when the run began and nothing else has set one in motion meanwhile. -/
theorem no_device_is_left_in_motion (step : Step R) (waiting : step.Every Call.Waits) (cell : Cell R)
    (resting : cell.AtRest) (woken : List Nat) (progress : Progress R) (after : Cell R)
    (life : Life HandlerTable.standard Cell.Calm (.fresh step) cell woken progress after)
    (isOver : ∀ run, progress ≠ .pending run) : after.AtRest := by
  have kept := guarded_upkeep.life_keeps Cell.Calm (fun _ _ _ calm guarded => guarded.calm _ _ _ calm) step waiting cell
    ((guarded_by_none cell).mpr resting) woken progress after life
  apply (guarded_by_none after).mp
  cases progress with
  | done value => exact kept
  | fault fault => exact kept.1
  | panicked message => exact kept
  | pending run => exact absurd rfl (isOver run)

theorem no_device_is_left_in_motion_by_a_cancelled_grip :
    (Flow.fireAndWait "gripper" true : Step Rat).Every Call.Waits ∧ gripperCell.AtRest ∧
      ((Flow.fireAndWait "gripper" true).twoTurns .standard Cell.cancel gripperCell).1.fault? = some .cancelled ∧
      ((Flow.fireAndWait "gripper" true).twoTurns .standard Cell.cancel gripperCell).2.AtRest := by
  have waiting : (Flow.fireAndWait "gripper" true : Step Rat).Every Call.Waits := ⟨by decide, by decide⟩
  have resting : gripperCell.AtRest := ⟨fun _ => List.not_mem_nil.elim, fun _ => List.not_mem_nil.elim⟩
  have cancelled : ((Flow.fireAndWait "gripper" true).twoTurns .standard Cell.cancel gripperCell).1.fault? =
      some .cancelled := by
    decide +kernel
  have calm : ∀ cell : Cell Rat, Cell.Calm cell cell.cancel := fun cell => by
    unfold Cell.cancel
    split
    · exact .refl cell
    · exact .of_same _ _ rfl rfl
  refine ⟨waiting, resting, cancelled, ?_⟩
  refine no_device_is_left_in_motion _ waiting _ resting [] _ _
    (life_of_two_turns .standard Cell.Calm Cell.cancel calm _ _) ?_
  intro run suspended
  rw [suspended] at cancelled
  cases cancelled

end Workcell

import Workcell.Cell.Motor
import Workcell.Proofs.Action.Basis
import Workcell.Proofs.Bank

/-!
Devices in motion and the waits that answer for them.

A wait stops its device whenever it ends otherwise than by seeing the device at rest. So as long as every registered
device that is in motion has a wait of its own, none is left in motion once the last wait is gone.
-/

set_option autoImplicit false

namespace Workcell

variable {R : Type}

namespace Cell

def MovesAxis (cell : Cell R) (handle : Nat) : Prop :=
  cell.axes.Registered handle ∧ ∃ axis, cell.axes.get? handle = some axis ∧ axis.state.moving = true

def ChangesActuator (cell : Cell R) (handle : Nat) : Prop :=
  cell.actuators.Registered handle ∧
    ∃ actuator, cell.actuators.get? handle = some actuator ∧ actuator.state.changing = true

def AtRest (cell : Cell R) : Prop :=
  (∀ entry ∈ cell.axes.registered, entry.2.2.state.moving = false) ∧
    ∀ entry ∈ cell.actuators.registered, entry.2.2.state.changing = false

-- No registered device is in motion that was not in motion before.
structure Calm (before after : Cell R) : Prop where
  axes : ∀ handle, after.MovesAxis handle → before.MovesAxis handle
  actuators : ∀ handle, after.ChangesActuator handle → before.ChangesActuator handle

end Cell

namespace Wait

def GuardsAxis (handle : Nat) : Wait R → Prop
  | .idle axis _ => axis = handle
  | .probe axis _ _ _ => axis = handle
  | _ => False

def GuardsActuator (handle : Nat) : Wait R → Prop
  | .settled actuator _ _ => actuator = handle
  | _ => False

end Wait

-- Every registered device in motion has a wait that answers for it.
structure Guarded (waits : List (Wait R)) (cell : Cell R) : Prop where
  axes : ∀ handle, cell.MovesAxis handle → ∃ wait ∈ waits, wait.GuardsAxis handle
  actuators : ∀ handle, cell.ChangesActuator handle → ∃ wait ∈ waits, wait.GuardsActuator handle

theorem guarded_by_none (cell : Cell R) : Guarded [] cell ↔ cell.AtRest := by
  constructor
  · intro guarded
    refine ⟨?_, ?_⟩
    · rintro ⟨id, handle, axis⟩ member
      obtain ⟨registered, present⟩ := (Bank.mem_registered cell.axes id handle axis).mp member
      cases moving : axis.state.moving with
      | false => rfl
      | true =>
          obtain ⟨wait, none, -⟩ := guarded.axes handle ⟨⟨id, registered⟩, axis, present, moving⟩
          cases none
    · rintro ⟨id, handle, actuator⟩ member
      obtain ⟨registered, present⟩ := (Bank.mem_registered cell.actuators id handle actuator).mp member
      cases changing : actuator.state.changing with
      | false => rfl
      | true =>
          obtain ⟨wait, none, -⟩ := guarded.actuators handle ⟨⟨id, registered⟩, actuator, present, changing⟩
          cases none
  · rintro ⟨still, settled⟩
    refine ⟨?_, ?_⟩
    · rintro handle ⟨⟨id, registered⟩, axis, present, moving⟩
      have resting := still (id, handle, axis) ((Bank.mem_registered _ _ _ _).mpr ⟨registered, present⟩)
      exact absurd (moving.symm.trans resting) (by simp)
    · rintro handle ⟨⟨id, registered⟩, actuator, present, changing⟩
      have resting := settled (id, handle, actuator) ((Bank.mem_registered _ _ _ _).mpr ⟨registered, present⟩)
      exact absurd (changing.symm.trans resting) (by simp)

theorem Guarded.mono (waits more : List (Wait R)) (cell : Cell R) (included : waits ⊆ more)
    (guarded : Guarded waits cell) : Guarded more cell := by
  refine ⟨fun handle moves => ?_, fun handle changes => ?_⟩
  · obtain ⟨wait, member, guards⟩ := guarded.axes handle moves
    exact ⟨wait, included member, guards⟩
  · obtain ⟨wait, member, guards⟩ := guarded.actuators handle changes
    exact ⟨wait, included member, guards⟩

theorem Guarded.calm (waits : List (Wait R)) (before after : Cell R) (calm : Cell.Calm before after)
    (guarded : Guarded waits before) : Guarded waits after :=
  ⟨fun handle moves => guarded.axes handle (calm.axes handle moves),
    fun handle changes => guarded.actuators handle (calm.actuators handle changes)⟩

namespace Cell

theorem put_axis_axes (handle : Nat) (before after : Axis R) (cell : Cell R) :
    (cell.putAxis handle before after).axes = cell.axes.set handle after := by
  unfold putAxis
  split
  · rfl
  · rfl

theorem put_axis_actuators (handle : Nat) (before after : Axis R) (cell : Cell R) :
    (cell.putAxis handle before after).actuators = cell.actuators := by
  unfold putAxis
  split
  · rfl
  · rfl

theorem put_actuator_axes (handle : Nat) (before after : Actuator R) (cell : Cell R) :
    (cell.putActuator handle before after).axes = cell.axes := by
  unfold putActuator
  split
  · rfl
  · rfl

theorem put_actuator_actuators (handle : Nat) (before after : Actuator R) (cell : Cell R) :
    (cell.putActuator handle before after).actuators = cell.actuators.set handle after := by
  unfold putActuator
  split
  · rfl
  · rfl

end Cell

namespace Cell

-- Putting an axis into its slot sets no other device in motion.
theorem moves_of_put (slot handle : Nat) (before after : Axis R) (cell : Cell R)
    (moves : (cell.putAxis slot before after).MovesAxis handle) :
    (handle = slot ∧ after.state.moving = true) ∨ (handle ≠ slot ∧ cell.MovesAxis handle) := by
  obtain ⟨registered, axis, present, moving⟩ := moves
  rw [put_axis_axes] at registered present
  rcases Bank.get_of_set _ _ _ _ _ present with ⟨same, rfl⟩ | ⟨different, old⟩
  · exact Or.inl ⟨same, moving⟩
  · exact Or.inr ⟨different, registered, axis, old, moving⟩

theorem changes_of_put (slot handle : Nat) (before after : Actuator R) (cell : Cell R)
    (changes : (cell.putActuator slot before after).ChangesActuator handle) :
    (handle = slot ∧ after.state.changing = true) ∨ (handle ≠ slot ∧ cell.ChangesActuator handle) := by
  obtain ⟨registered, actuator, present, changing⟩ := changes
  rw [put_actuator_actuators] at registered present
  rcases Bank.get_of_set _ _ _ _ _ present with ⟨same, rfl⟩ | ⟨different, old⟩
  · exact Or.inl ⟨same, changing⟩
  · exact Or.inr ⟨different, registered, actuator, old, changing⟩

theorem stop_not_moving (axis : Axis R) : axis.stop.state.moving = false := by
  unfold Axis.stop
  split
  · rfl
  · rename_i still
    simpa using still

theorem stop_not_changing (actuator : Actuator R) : actuator.stop.state.changing = false := by
  unfold Actuator.stop
  dsimp only
  split
  · rfl
  · rename_i still
    simpa using still

-- A stopped axis is at rest, and the others go on as they did.
theorem moves_of_stop (slot handle : Nat) (cell : Cell R) (moves : (cell.stopAxis slot).MovesAxis handle) :
    handle ≠ slot ∧ cell.MovesAxis handle := by
  unfold stopAxis at moves
  cases present : cell.axes.get? slot with
  | none =>
      rw [present] at moves
      refine ⟨?_, moves⟩
      rintro rfl
      obtain ⟨-, axis, found, -⟩ := moves
      cases present.symm.trans found
  | some axis =>
      rw [present] at moves
      rcases moves_of_put slot handle axis axis.stop cell moves with ⟨-, moving⟩ | others
      · exact absurd (moving.symm.trans (stop_not_moving axis)) (by simp)
      · exact others

theorem changes_of_stop (slot handle : Nat) (cell : Cell R) (changes : (cell.stopActuator slot).ChangesActuator handle) :
    handle ≠ slot ∧ cell.ChangesActuator handle := by
  unfold stopActuator at changes
  cases present : cell.actuators.get? slot with
  | none =>
      rw [present] at changes
      refine ⟨?_, changes⟩
      rintro rfl
      obtain ⟨-, actuator, found, -⟩ := changes
      cases present.symm.trans found
  | some actuator =>
      rw [present] at changes
      rcases changes_of_put slot handle actuator actuator.stop cell changes with ⟨-, changing⟩ | others
      · exact absurd (changing.symm.trans (stop_not_changing actuator)) (by simp)
      · exact others

theorem stop_axis_actuators (slot : Nat) (cell : Cell R) : (cell.stopAxis slot).actuators = cell.actuators := by
  unfold stopAxis
  split
  · exact put_axis_actuators _ _ _ _
  · rfl

theorem stop_actuator_axes (slot : Nat) (cell : Cell R) : (cell.stopActuator slot).axes = cell.axes := by
  unfold stopActuator
  split
  · exact put_actuator_axes _ _ _ _
  · rfl

theorem moves_of_same (before after : Cell R) (axes : after.axes = before.axes) (handle : Nat)
    (moves : after.MovesAxis handle) : before.MovesAxis handle := by
  unfold MovesAxis at moves ⊢
  rwa [axes] at moves

theorem changes_of_same (before after : Cell R) (actuators : after.actuators = before.actuators) (handle : Nat)
    (changes : after.ChangesActuator handle) : before.ChangesActuator handle := by
  unfold ChangesActuator at changes ⊢
  rwa [actuators] at changes

namespace Calm

theorem refl (cell : Cell R) : Calm cell cell := ⟨fun _ moves => moves, fun _ changes => changes⟩

theorem trans (first second third : Cell R) (before : Calm first second) (after : Calm second third) :
    Calm first third :=
  ⟨fun handle moves => before.axes handle (after.axes handle moves),
    fun handle changes => before.actuators handle (after.actuators handle changes)⟩

theorem of_same (before after : Cell R) (axes : after.axes = before.axes) (actuators : after.actuators = before.actuators) :
    Calm before after :=
  ⟨moves_of_same before after axes, changes_of_same before after actuators⟩

theorem stop_axis (cell : Cell R) (slot : Nat) : Calm cell (cell.stopAxis slot) :=
  ⟨fun handle moves => (moves_of_stop slot handle cell moves).2,
    changes_of_same cell _ (stop_axis_actuators slot cell)⟩

theorem stop_actuator (cell : Cell R) (slot : Nat) : Calm cell (cell.stopActuator slot) :=
  ⟨moves_of_same cell _ (stop_actuator_axes slot cell),
    fun handle changes => (changes_of_stop slot handle cell changes).2⟩

variable [Scalar R]

theorem add_axis (cell : Cell R) (spec : AxisSpec R) (axis : Axis R)
    (made : cell.driver.createAxis spec = .ok (some axis)) :
    Calm cell { cell with axes := cell.axes.add spec.id axis } := by
  have still : axis.state.moving = false := by
    unfold Driver.createAxis at made
    split at made
    · unfold Axis.new? at made
      cases home : spec.homePosition? with
      | none => simp [home] at made
      | some home =>
          rw [home] at made
          cases made
          rfl
    · cases made
  refine ⟨?_, fun _ changes => changes⟩
  rintro handle ⟨registered, found, present, moving⟩
  rcases Bank.of_added _ _ _ _ _ registered present with rfl | ⟨listed, old⟩
  · exact absurd (moving.symm.trans still) (by simp)
  · exact ⟨listed, found, old, moving⟩

theorem add_actuator (cell : Cell R) (spec : ActuatorSpec) (actuator : Actuator R)
    (made : cell.driver.createActuator spec = .ok actuator) :
    Calm cell { cell with actuators := cell.actuators.add spec.id actuator } := by
  have still : actuator.state.changing = false := by
    unfold Driver.createActuator at made
    split at made
    · cases made
      rfl
    · cases made
  refine ⟨fun _ moves => moves, ?_⟩
  rintro handle ⟨registered, found, present, changing⟩
  rcases Bank.of_added _ _ _ _ _ registered present with rfl | ⟨listed, old⟩
  · exact absurd (changing.symm.trans still) (by simp)
  · exact ⟨listed, found, old, changing⟩

theorem basis : Basis (R := R) Calm where
  refl := refl
  trans := trans
  timer _ _ := of_same _ _ rfl rfl
  assign _ _ _ := of_same _ _ rfl rfl
  ids _ _ := of_same _ _ rfl rfl
  put _ _ _ := of_same _ _ rfl rfl
  take _ _ := of_same _ _ rfl rfl
  event _ _ _ := of_same _ _ rfl rfl
  addAxis cell spec axis _ _ made := add_axis cell spec axis made
  addActuator cell spec actuator _ _ made := add_actuator cell spec actuator made
  stopAxis := stop_axis
  stopActuator := stop_actuator

end Calm

end Cell

end Workcell

import Workcell.Cell.Devices
import Workcell.Cell.Motor
import Workcell.Proofs.Action.Within
import Workcell.Proofs.Superseding.Fleet

/-!
Superseded motions never write: axes and actuators show what devices show that know of no generations.

`Axis.rig` and `Actuator.rig` are what a cell does with a device when it commands it, stops it and ticks its motors.
-/

set_option autoImplicit false

namespace Workcell

inductive AxisOrder (R : Type) where
  | move (live : Bool) (target : R) (speed : Option R)
  | home (live : Bool)

inductive ActuatorOrder where
  | fire (live on : Bool)

variable {R : Type} [Scalar R]

namespace AxisState

def aim (spec : AxisSpec R) (tick : Duration) (state : AxisState R) (target : R) (speed : R) (homing : Bool) :
    AxisState R × Option (Way (AxisState R)) :=
  let target := (spec.clamp? target).getD target
  if state.position == target then (⟨state.position, target, false, state.homed || homing⟩, none)
  else
    (⟨state.position, target, true, state.homed && !homing⟩,
      some fun _ state => (⟨0, target, speed * Scalar.seconds tick, homing⟩ : AxisMotion R).advance state)

def pace (spec : AxisSpec R) : Option R → R
  | some s => if Scalar.isFinite s ∧ Scalar.zero < s then Scalar.lesser s spec.maxSpeed else spec.maxSpeed
  | none => spec.maxSpeed

end AxisState

namespace Axis

def gear (spec : AxisSpec R) (tick : Duration) : Gear (AxisState R) (AxisOrder R) where
  order
    | .move live target speed, state =>
        if Scalar.isFinite target ∧ live then some (state.aim spec tick target (AxisState.pace spec speed) false) else none
    | .home live, state =>
        if live then some (state.aim spec tick (spec.homePosition?.getD state.position) spec.maxSpeed true) else none
  stop state := if state.moving then some ⟨state.position, state.commanded, false, state.homed⟩ else none

def obey (axis : Axis R) (target : R) (speed : Option R) (homing : Bool) : Option (AxisMotion R) × Axis R :=
  (axis.command target speed homing).2

def rig : Rig (Axis R) (AxisState R) (AxisMotion R) (AxisOrder R) where
  state axis := axis.state
  published axis := axis.published
  order
    | .move live target speed, axis =>
        match axis.accepts target with
        | .error _ => (none, axis)
        | .ok () => if live then axis.obey target speed false else (none, axis)
    | .home live, axis => if live then axis.obey axis.homeTarget none true else (none, axis)
  stop axis := axis.stop
  tick? motion _ axis := motion.tick? axis

def Fits (spec : AxisSpec R) (tick : Duration) (axis : Axis R) : Prop := axis.spec = spec ∧ axis.tick = tick

theorem carries (spec : AxisSpec R) (tick : Duration) (stamp : Nat) (target step : R) (homing : Bool) :
    rig.Carries Axis.generation (Fits spec tick) stamp
      (fun _ state => (⟨0, target, step, homing⟩ : AxisMotion R).advance state) ⟨stamp, target, step, homing⟩ where
  past elapsed axis _ gone := by
    show AxisMotion.tick? _ axis = none
    unfold AxisMotion.tick?
    rw [if_neg gone]
  goes elapsed axis fits same := by
    refine ⟨axis.publish ((⟨0, target, step, homing⟩ : AxisMotion R).advance axis.state).1 axis.generation, ?_, rfl, ?_,
      same, fits⟩
    · show AxisMotion.tick? _ axis = _
      unfold AxisMotion.tick?
      rw [if_pos same]
      rfl
    · exact Nat.succ_ne_self _

theorem obey_given (spec : AxisSpec R) (tick : Duration) (axis : Axis R) (fits : axis.Fits spec tick) (target : R)
    (speed : Option R) (homing : Bool) (state : AxisState R) (way? : Option (Way (AxisState R)))
    (aimed : axis.state.aim spec tick target (AxisState.pace spec speed) homing = (state, way?)) :
    ∃ motion moved, axis.obey target speed homing = (motion, moved) ∧ moved.state = state ∧
      moved.published ≠ axis.published ∧ moved.generation = axis.generation + 1 ∧ Fits spec tick moved ∧
      Option.Rel (rig.Carries Axis.generation (Fits spec tick) moved.generation) way? motion := by
  obtain ⟨rfl, rfl⟩ := fits
  have pace : axis.speed speed = AxisState.pace axis.spec speed := by
    cases speed with
    | none => rfl
    | some s => rfl
  unfold obey command
  unfold AxisState.aim at aimed
  dsimp only at aimed ⊢
  by_cases there : (axis.state.position == (axis.spec.clamp? target).getD target) = true
  · rw [if_pos there] at aimed ⊢
    cases aimed
    refine ⟨_, _, rfl, ?_, Nat.succ_ne_self _, rfl, ⟨rfl, rfl⟩, .none⟩
    -- A homing that has arrived already leaves the axis homed, whatever it was before.
    cases homing <;> simp [publish]
  · rw [if_neg there] at aimed ⊢
    cases aimed
    rw [← pace]
    exact ⟨_, _, rfl, rfl, Nat.succ_ne_self _, rfl, ⟨rfl, rfl⟩, .some (carries _ _ _ _ _ _)⟩

theorem turns (spec : AxisSpec R) (tick : Duration) :
    rig.Turns (gear spec tick) Axis.generation (Fits (R := R) spec tick) where
  refused command axis fits refused := by
    cases command with
    | move live target speed =>
        simp only [gear, rig, accepts] at refused ⊢
        by_cases finite : Scalar.isFinite target = true
        · cases live with
          | true => simp [finite] at refused
          | false => simp [finite]
        · simp [finite]
    | home live =>
        cases live with
        | true => simp [gear] at refused
        | false => rfl
  given command axis state way? fits given := by
    cases command with
    | move live target speed =>
        simp only [gear] at given
        by_cases usable : Scalar.isFinite target = true ∧ live = true
        · rw [if_pos usable] at given
          have obeyed := axis.obey_given spec tick fits target speed false state way? (Option.some.inj given)
          have accepted : rig.order (.move live target speed) axis = axis.obey target speed false := by
            simp [rig, accepts, usable]
          rw [accepted]
          exact obeyed
        · rw [if_neg usable] at given
          cases given
    | home live =>
        simp only [gear] at given
        by_cases usable : live = true
        · rw [if_pos usable, ← fits.1] at given
          have obeyed := axis.obey_given axis.spec tick ⟨rfl, fits.2⟩ axis.homeTarget none true state way?
            (Option.some.inj given)
          have accepted : rig.order (.home live) axis = axis.obey axis.homeTarget none true := if_pos usable
          rw [accepted, ← fits.1]
          exact obeyed
        · rw [if_neg usable] at given
          cases given
  stopped axis fits := by
    show axis.stop.generation = _ ∧ Fits spec tick axis.stop ∧ _
    simp only [gear, rig, stop]
    cases axis.state.moving with
    | true => exact ⟨rfl, fits, rfl, Nat.succ_ne_self _⟩
    | false => exact ⟨rfl, fits, rfl, rfl⟩
  still state stopped halted := by
    simp only [gear] at halted ⊢
    split at halted
    · cases halted
      rfl
    · cases halted

end Axis

namespace Actuator

def strokeFrom (spec : ActuatorSpec) (position : R) (on : Bool) : Duration :=
  (Scalar.nanoseconds (Scalar.abs (travelEnd on - position) * Scalar.seconds spec.stroke)).getD 0

def gear (spec : ActuatorSpec) : Gear (ActuatorState R) ActuatorOrder where
  order
    | .fire live on, state =>
        let time := strokeFrom spec state.position on
        if time = 0 then some (⟨on, on, false, travelEnd on⟩, none)
        else if live then
          some (⟨state.on, on, true, state.position⟩,
            some fun elapsed now => (⟨0, on, state.position, travelEnd on, time⟩ : Stroke R).advance elapsed now)
        else none
  stop state := if state.changing then some ⟨state.on, state.commanded, false, state.position⟩ else none

def rig : Rig (Actuator R) (ActuatorState R) (Stroke R) ActuatorOrder where
  state actuator := actuator.state
  published actuator := actuator.published
  order
    | .fire live on, actuator =>
        match actuator.fire on with
        | (none, fired) => (none, fired)
        | (some stroke, fired) => if live then (some stroke, fired) else (none, actuator)
  stop actuator := actuator.stop
  tick? stroke elapsed actuator := stroke.tick? elapsed actuator

theorem carries (spec : ActuatorSpec) (stamp : Nat) (on : Bool) (start target : R) (time : Duration) :
    rig.Carries Actuator.generation (fun actuator => actuator.spec = spec) stamp
      (fun elapsed state => (⟨0, on, start, target, time⟩ : Stroke R).advance elapsed state)
      ⟨stamp, on, start, target, time⟩ where
  past elapsed actuator _ gone := by
    show Stroke.tick? _ elapsed actuator = none
    unfold Stroke.tick?
    rw [if_neg gone]
  goes elapsed actuator fits same := by
    refine ⟨actuator.publish ((⟨0, on, start, target, time⟩ : Stroke R).advance elapsed actuator.state).1
      actuator.generation, ?_, rfl, ?_, same, fits⟩
    · show Stroke.tick? _ elapsed actuator = _
      unfold Stroke.tick?
      rw [if_pos same]
      rfl
    · exact Nat.succ_ne_self _

theorem turns (spec : ActuatorSpec) :
    rig.Turns (gear spec) Actuator.generation (fun actuator : Actuator R => actuator.spec = spec) where
  refused command actuator fits refused := by
    obtain ⟨live, on⟩ := command
    subst fits
    simp only [gear] at refused
    by_cases instant : strokeFrom actuator.spec actuator.state.position on = 0
    · simp [rig, instant] at refused
    · cases live with
      | true => simp [rig, instant] at refused
      | false =>
          have slow : actuator.strokeTime on ≠ 0 := instant
          simp [rig, fire, slow]
  given command actuator state way? fits given := by
    obtain ⟨live, on⟩ := command
    subst fits
    simp only [gear] at given
    by_cases instant : strokeFrom actuator.spec actuator.state.position on = 0
    · have quick : actuator.strokeTime on = 0 := instant
      simp only [rig, instant, if_true, Option.some.injEq, Prod.mk.injEq] at given
      obtain ⟨rfl, rfl⟩ := given
      refine ⟨none, actuator.publish ⟨on, on, false, travelEnd on⟩ (actuator.generation + 1), ?_, rfl,
        Nat.succ_ne_self _, rfl, rfl, .none⟩
      simp [rig, fire, quick]
    · have slow : actuator.strokeTime on ≠ 0 := instant
      cases live with
      | false => simp [rig, instant] at given
      | true =>
          simp only [rig, instant, if_false, if_true, Option.some.injEq, Prod.mk.injEq] at given
          obtain ⟨rfl, rfl⟩ := given
          refine ⟨_, actuator.publish ⟨actuator.state.on, on, true, actuator.state.position⟩ (actuator.generation + 1),
            ?_, rfl, Nat.succ_ne_self _, rfl, rfl, .some (carries _ _ _ _ _ _)⟩
          simp only [rig, fire, if_neg slow, if_true]
          rfl
  stopped actuator fits := by
    show actuator.stop.generation = _ ∧ actuator.stop.spec = spec ∧ _
    simp only [gear, rig, stop]
    cases actuator.state.changing with
    | true => exact ⟨rfl, fits, rfl, Nat.succ_ne_self _⟩
    | false => exact ⟨rfl, fits, rfl, rfl⟩
  still state stopped halted := by
    simp only [gear] at halted ⊢
    split at halted
    · cases halted
      rfl
    · cases halted

end Actuator

namespace Cell

omit [Scalar R] in
theorem put_axis_same (cell : Cell R) (handle : Nat) (axis : Axis R) (there : cell.axes.get? handle = some axis) :
    cell.putAxis handle axis axis = cell := by
  have slots : cell.axes.slots.set handle axis = cell.axes.slots := by
    obtain ⟨inside, same⟩ := List.getElem?_eq_some_iff.mp there
    exact same ▸ List.set_getElem_self inside
  unfold putAxis Bank.set
  rw [slots, if_pos rfl]

omit [Scalar R] in
theorem put_actuator_same (cell : Cell R) (handle : Nat) (actuator : Actuator R)
    (there : cell.actuators.get? handle = some actuator) : cell.putActuator handle actuator actuator = cell := by
  have slots : cell.actuators.slots.set handle actuator = cell.actuators.slots := by
    obtain ⟨inside, same⟩ := List.getElem?_eq_some_iff.mp there
    exact same ▸ List.set_getElem_self inside
  unfold putActuator Bank.set
  rw [slots, if_pos rfl]

def withAxis (cell : Cell R) (handle : Nat) (before : Axis R) (commanded : Option (AxisMotion R) × Axis R) : Cell R :=
  match commanded.1 with
  | some motion => (cell.putAxis handle before commanded.2).effect (.motion handle motion)
  | none => cell.putAxis handle before commanded.2

def withActuator (cell : Cell R) (handle : Nat) (before : Actuator R) (fired : Option (Stroke R) × Actuator R) :
    Cell R :=
  match fired.1 with
  | some stroke => (cell.putActuator handle before fired.2).effect (.stroke handle stroke)
  | none => cell.putActuator handle before fired.2

theorem commandAxis_leaves (cell : Cell R) (handle : Nat) (axis : Axis R) (target : R) (speed : Option R) (homing : Bool)
    (there : cell.axes.get? handle = some axis) :
    (commandAxis handle axis target speed homing cell).2 =
      cell.withAxis handle axis (if cell.live then axis.obey target speed homing else (none, axis)) := by
  rw [commandAxis, Act.get_bind_apply]
  by_cases live : cell.live = true
  · rw [if_pos live, if_pos live, Axis.obey]
    rcases axis.command target speed homing with ⟨reached, motion, moved⟩
    cases motion <;> rfl
  · rw [if_neg live, if_neg live]
    exact (cell.put_axis_same handle axis there).symm

theorem axis_rigged (cell : Cell R) (handle : Nat) (axis : Axis R) (there : cell.axes.get? handle = some axis) :
    (∀ target speed, (moveAxis handle axis target speed cell).2 =
      cell.withAxis handle axis (Axis.rig.order (.move cell.live target speed) axis)) ∧
    (homeAxis handle axis cell).2 = cell.withAxis handle axis (Axis.rig.order (.home cell.live) axis) ∧
    cell.stopAxis handle = cell.putAxis handle axis (Axis.rig.stop axis) ∧
    ∀ motion, Motor.step cell (.axis handle motion) =
      (Axis.rig.tick? motion 0 axis).map fun ticked => (ticked.2, cell.putAxis handle axis ticked.1) := by
  refine ⟨?_, cell.commandAxis_leaves handle axis _ _ _ there, ?_, ?_⟩
  · intro target speed
    simp only [moveAxis, Axis.rig]
    cases axis.accepts target with
    | error error => exact (cell.put_axis_same handle axis there).symm
    | ok => exact cell.commandAxis_leaves handle axis target speed false there
  · rw [stopAxis, there]
    rfl
  · intro motion
    simp only [Motor.step, there, Axis.rig, AxisMotion.tick?]
    by_cases own : axis.generation = motion.generation
    · simp [own, putAxis, Axis.publish]
    · simp [own]

theorem actuator_rigged (cell : Cell R) (handle : Nat) (actuator : Actuator R)
    (there : cell.actuators.get? handle = some actuator) :
    (∀ on, (fireActuator handle actuator on cell).2 =
      cell.withActuator handle actuator (Actuator.rig.order (.fire cell.live on) actuator)) ∧
    cell.stopActuator handle = cell.putActuator handle actuator (Actuator.rig.stop actuator) ∧
    ∀ stroke began, Motor.step cell (.actuator handle stroke began) =
      (Actuator.rig.tick? stroke (Duration.ofMillis (cell.now - began)) actuator).map fun ticked =>
        (ticked.2, cell.putActuator handle actuator ticked.1) := by
  refine ⟨?_, ?_, ?_⟩
  · intro on
    rw [fireActuator, Act.get_bind_apply]
    simp only [Actuator.rig]
    rcases actuator.fire on with ⟨stroke, fired⟩
    cases stroke with
    | none => rfl
    | some stroke =>
        by_cases live : cell.live = true
        · simp only [if_pos live]
          rfl
        · simp only [if_neg live]
          exact (cell.put_actuator_same handle actuator there).symm
  · rw [stopActuator, there]
    rfl
  · intro stroke began
    simp only [Motor.step, there, Actuator.rig, Stroke.tick?]
    by_cases own : actuator.generation = stroke.generation
    · simp [own, putActuator, Actuator.publish]
    · simp [own]

end Cell

/-- Whatever is commanded, stopped and ticked in whatever order, and however long superseded motions and strokes go on
to tick: axes and actuators show what devices show that have only the motion in progress. -/
theorem superseded_motions_never_write (axis : Axis R) (actuator : Actuator R) :
    Axis.rig.Obeys (Axis.gear axis.spec axis.tick) axis ∧ Actuator.rig.Obeys (Actuator.gear actuator.spec) actuator :=
  ⟨(Axis.turns axis.spec axis.tick).obeys axis ⟨rfl, rfl⟩, (Actuator.turns actuator.spec).obeys actuator rfl⟩

end Workcell

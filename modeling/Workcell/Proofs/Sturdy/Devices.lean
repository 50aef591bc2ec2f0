import Mathlib.Tactic.Linarith
import Workcell.Cell.Motor
import Workcell.Proofs.Action.Basis
import Workcell.Proofs.Completion.Actions
import Workcell.Proofs.Fractions

/-!
Cells in which nothing can break down: each axis has its limits in order, each actuator stands on its travel, each
device steps at the tick of the cell, and what is waited for is bounded as the cell has it.
-/

set_option autoImplicit false

namespace Workcell

variable {R : Type}

structure Grounds (R : Type) where
  machine : Machine R
  tick : Duration
  waitBound : Duration
  sampleTick : Duration

section

variable [Scalar R]

def Actuator.OnTravel (position : R) : Prop := Scalar.zero ≤ position ∧ position ≤ Scalar.one

def Actuator.strokeTime? (actuator : Actuator R) (on : Bool) : Option Duration :=
  Scalar.nanoseconds
    (Scalar.abs (Actuator.travelEnd on - actuator.state.position) * Scalar.seconds actuator.spec.stroke)

-- What the arithmetic is relied on for: limits apart are in order, a stroke stays between the ends of travel, and the
-- part of an action time, given in milliseconds of 64 bits, that is left of a stroke is a time.
structure Scalar.Steady (R : Type) [Scalar R] : Prop where
  le_of_lt : ∀ low high : R, low < high → low ≤ high
  ends : ∀ on : Bool, Actuator.OnTravel (Actuator.travelEnd on : R)
  between : ∀ (stroke : Stroke R) (elapsed : Duration), Actuator.OnTravel stroke.start →
    stroke.target = Actuator.travelEnd stroke.on → stroke.time ≠ 0 → ¬ Scalar.one ≤ stroke.fraction elapsed →
    Actuator.OnTravel (stroke.start + (stroke.target - stroke.start) * stroke.fraction elapsed)
  timed : ∀ (actuator : Actuator R) (on : Bool), Actuator.OnTravel actuator.state.position →
    actuator.spec.actionTime < Nat.pow 2 64 → (actuator.strokeTime? on).isSome = true

structure Axis.Sound (grounds : Grounds R) (axis : Axis R) : Prop where
  ordered : axis.spec.min ≤ axis.spec.max
  tick : axis.tick = grounds.tick

structure Actuator.Sound (grounds : Grounds R) (actuator : Actuator R) : Prop where
  onTravel : OnTravel actuator.state.position
  tick : actuator.tick = grounds.tick

structure Stroke.Sound (stroke : Stroke R) : Prop where
  starts : Actuator.OnTravel stroke.start
  ends : stroke.target = Actuator.travelEnd stroke.on
  lasts : stroke.time ≠ 0

def Effect.Sound : Effect R → Prop
  | .stroke _ way => way.Sound
  | _ => True

structure Cell.Sound (grounds : Grounds R) (cell : Cell R) : Prop where
  machine : cell.machine = grounds.machine
  driver : cell.driver = .simulation grounds.tick
  waitBound : cell.waitBound = grounds.waitBound
  sampleTick : cell.sampleTick = grounds.sampleTick
  axes : ∀ axis ∈ cell.axes.slots, axis.Sound grounds
  actuators : ∀ actuator ∈ cell.actuators.slots, actuator.Sound grounds
  outbox : ∀ asked ∈ cell.outbox, asked.Sound

end

variable [Scalar R] {grounds : Grounds R}

namespace Axis

theorem command_spec (axis : Axis R) (target : R) (speed : Option R) (homing : Bool) :
    (axis.command target speed homing).2.2.spec = axis.spec := by
  unfold command
  dsimp only
  split
  · rfl
  · rfl

omit [Scalar R] in
theorem stop_spec (axis : Axis R) : axis.stop.spec = axis.spec := by
  unfold stop
  split
  · rfl
  · rfl

theorem Sound.commanded {axis : Axis R} (sound : axis.Sound grounds) (target : R) (speed : Option R) (homing : Bool) :
    (axis.command target speed homing).2.2.Sound grounds where
  ordered := axis.command_spec target speed homing ▸ sound.ordered
  tick := (axis.command_tick target speed homing).trans sound.tick

theorem Sound.stopped {axis : Axis R} (sound : axis.Sound grounds) : axis.stop.Sound grounds where
  ordered := axis.stop_spec ▸ sound.ordered
  tick := axis.stop_tick.trans sound.tick

-- An axis can be made only where its limits are in order.
theorem sound_of_created (spec : AxisSpec R) (axis : Axis R)
    (made : (Driver.simulation grounds.tick).createAxis spec = .ok (some axis)) : axis.Sound grounds := by
  simp only [Driver.createAxis, Axis.new?, Option.map_map, Except.ok.injEq, Option.map_eq_some_iff] at made
  obtain ⟨home, ranged, rfl⟩ := made
  refine ⟨?_, rfl⟩
  unfold AxisSpec.homePosition? AxisSpec.clamp? at ranged
  split at ranged
  · next ordered => exact ordered
  · cases ranged

theorem Sound.advanced {axis moved : Axis R} (sound : axis.Sound grounds) (motion : AxisMotion R) (done : Bool)
    (ticked : motion.tick? axis = some (moved, done)) : moved.Sound grounds := by
  unfold AxisMotion.tick? at ticked
  split at ticked
  · cases ticked
    exact ⟨sound.ordered, sound.tick⟩
  · cases ticked

end Axis

namespace Actuator

theorem fire_spec (actuator : Actuator R) (on : Bool) : (actuator.fire on).2.spec = actuator.spec := by
  unfold fire
  dsimp only
  split
  · rfl
  · rfl

omit [Scalar R] in
theorem stop_spec (actuator : Actuator R) : actuator.stop.spec = actuator.spec := by
  unfold stop
  dsimp only
  split
  · rfl
  · rfl

variable (steady : Scalar.Steady R)

include steady

theorem sound_of_created (spec : ActuatorSpec) (actuator : Actuator R)
    (made : (Driver.simulation grounds.tick).createActuator spec = .ok actuator) : actuator.Sound grounds := by
  cases made
  exact ⟨steady.ends false, rfl⟩

theorem Sound.fired {actuator : Actuator R} (sound : actuator.Sound grounds) (on : Bool) :
    (actuator.fire on).2.Sound grounds ∧ ∀ stroke, (actuator.fire on).1 = some stroke → stroke.Sound := by
  unfold fire
  dsimp only
  by_cases instant : actuator.strokeTime on = 0
  · rw [if_pos instant]
    exact ⟨⟨steady.ends on, sound.tick⟩, fun stroke isStroke => nomatch isStroke⟩
  · rw [if_neg instant]
    refine ⟨⟨sound.onTravel, sound.tick⟩, fun stroke isStroke => ?_⟩
    cases isStroke
    exact ⟨sound.onTravel, rfl, instant⟩

omit steady in
theorem Sound.stopped {actuator : Actuator R} (sound : actuator.Sound grounds) : actuator.stop.Sound grounds := by
  unfold stop
  dsimp only
  split
  · exact ⟨sound.onTravel, sound.tick⟩
  · exact ⟨sound.onTravel, sound.tick⟩

theorem Sound.advanced {actuator moved : Actuator R} (sound : actuator.Sound grounds) (stroke : Stroke R)
    (strokes : stroke.Sound) (elapsed : Duration) (done : Bool)
    (ticked : stroke.tick? elapsed actuator = some (moved, done)) : moved.Sound grounds := by
  unfold Stroke.tick? at ticked
  split at ticked
  · cases ticked
    refine ⟨?_, sound.tick⟩
    show OnTravel (stroke.advance elapsed actuator.state).1.position
    unfold Stroke.advance
    by_cases isOver : Scalar.one ≤ stroke.fraction elapsed
    · simp only [if_pos isOver]
      exact strokes.ends ▸ steady.ends stroke.on
    · simp only [if_neg isOver]
      exact steady.between stroke elapsed strokes.starts strokes.ends strokes.lasts isOver
  · cases ticked

end Actuator

namespace Cell.Sound

variable {cell : Cell R} (sound : cell.Sound grounds)

include sound

theorem effect (asked : Effect R) (isSound : asked.Sound) : (cell.effect asked).Sound grounds where
  machine := sound.machine
  driver := sound.driver
  waitBound := sound.waitBound
  sampleTick := sound.sampleTick
  axes := sound.axes
  actuators := sound.actuators
  outbox := by
    intro other member
    rcases List.mem_append.mp member with old | new
    · exact sound.outbox other old
    · exact List.mem_singleton.mp new ▸ isSound

theorem with_axes (axes : Bank (Axis R)) (isSound : ∀ axis ∈ axes.slots, axis.Sound grounds) :
    ({ cell with axes := axes } : Cell R).Sound grounds :=
  { sound with axes := isSound }

theorem with_actuators (actuators : Bank (Actuator R)) (isSound : ∀ actuator ∈ actuators.slots, actuator.Sound grounds) :
    ({ cell with actuators := actuators } : Cell R).Sound grounds :=
  { sound with actuators := isSound }

theorem set_axis (handle : Nat) (axis : Axis R) (isSound : axis.Sound grounds) :
    ({ cell with axes := cell.axes.set handle axis } : Cell R).Sound grounds := by
  refine sound.with_axes _ fun other member => ?_
  rcases List.mem_or_eq_of_mem_set member with old | rfl
  · exact sound.axes other old
  · exact isSound

theorem set_actuator (handle : Nat) (actuator : Actuator R) (isSound : actuator.Sound grounds) :
    ({ cell with actuators := cell.actuators.set handle actuator } : Cell R).Sound grounds := by
  refine sound.with_actuators _ fun other member => ?_
  rcases List.mem_or_eq_of_mem_set member with old | rfl
  · exact sound.actuators other old
  · exact isSound

theorem put_axis (handle : Nat) (before after : Axis R) (isSound : after.Sound grounds) :
    (cell.putAxis handle before after).Sound grounds := by
  have placed := sound.set_axis handle after isSound
  unfold Cell.putAxis
  split
  · exact placed
  · exact placed.effect _ trivial

theorem put_actuator (handle : Nat) (before after : Actuator R) (isSound : after.Sound grounds) :
    (cell.putActuator handle before after).Sound grounds := by
  have placed := sound.set_actuator handle after isSound
  unfold Cell.putActuator
  split
  · exact placed
  · exact placed.effect _ trivial

theorem stop_axis (handle : Nat) : (cell.stopAxis handle).Sound grounds := by
  unfold Cell.stopAxis
  cases found : cell.axes.get? handle with
  | none => exact sound
  | some axis => exact sound.put_axis handle axis _ (sound.axes axis (List.mem_of_getElem? found)).stopped

theorem stop_actuator (handle : Nat) : (cell.stopActuator handle).Sound grounds := by
  unfold Cell.stopActuator
  cases found : cell.actuators.get? handle with
  | none => exact sound
  | some actuator =>
      exact sound.put_actuator handle actuator _ (sound.actuators actuator (List.mem_of_getElem? found)).stopped

theorem stop_all : cell.stopAll.Sound grounds := by
  unfold Cell.stopAll
  have stops : ∀ (entries : List (String × Nat × Axis R)) (start : Cell R), start.Sound grounds →
      (entries.foldl (fun cell entry => cell.stopAxis entry.2.1) start).Sound grounds := by
    intro entries
    induction entries with
    | nil => exact fun _ held => held
    | cons entry rest ih => exact fun _ held => ih _ (held.stop_axis entry.2.1)
  have releases : ∀ (entries : List (String × Nat × Actuator R)) (start : Cell R), start.Sound grounds →
      (entries.foldl (fun cell entry => cell.stopActuator entry.2.1) start).Sound grounds := by
    intro entries
    induction entries with
    | nil => exact fun _ held => held
    | cons entry rest ih => exact fun _ held => ih _ (held.stop_actuator entry.2.1)
  exact releases _ _ (stops _ cell sound)

end Cell.Sound

def Cell.Upkept (grounds : Grounds R) (before after : Cell R) : Prop :=
  after.now = before.now ∧ (before.Sound grounds → after.Sound grounds)

theorem Cell.Upkept.basis (steady : Scalar.Steady R) : Cell.Basis (Cell.Upkept grounds) where
  refl _ := ⟨rfl, id⟩
  trans _ _ _ before after := ⟨after.1.trans before.1, fun sound => after.2 (before.2 sound)⟩
  timer _ _ := ⟨rfl, fun sound => { sound with }⟩
  assign _ _ _ := ⟨rfl, fun sound => { sound with }⟩
  ids _ _ := ⟨rfl, fun sound => { sound with }⟩
  put _ _ _ := ⟨rfl, fun sound => { sound with }⟩
  take _ _ := ⟨rfl, fun sound => { sound with }⟩
  event _ _ _ := ⟨rfl, fun sound => { sound with }⟩
  stopAxis cell handle := ⟨(Cell.Kept.stop_axis cell handle).2, fun sound => sound.stop_axis handle⟩
  stopActuator cell handle := ⟨(Cell.Kept.stop_actuator cell handle).2, fun sound => sound.stop_actuator handle⟩
  addAxis cell spec axis _ _ made := by
    refine ⟨rfl, fun sound => sound.with_axes _ fun other member => ?_⟩
    rcases List.mem_append.mp member with old | new
    · exact sound.axes other old
    · exact List.mem_singleton.mp new ▸ Axis.sound_of_created spec axis (sound.driver ▸ made)
  addActuator cell spec actuator _ _ made := by
    refine ⟨rfl, fun sound => sound.with_actuators _ fun other member => ?_⟩
    rcases List.mem_append.mp member with old | new
    · exact sound.actuators other old
    · exact List.mem_singleton.mp new ▸ Actuator.sound_of_created steady spec actuator (sound.driver ▸ made)

def Drive.Sound : Drive R → Prop
  | .axis _ _ => True
  | .actuator _ stroke _ => stroke.Sound

namespace Motor

theorem step_sound (steady : Scalar.Steady R) (drive : Drive R) (carries : drive.Sound) (cell after : Cell R)
    (done : Bool) (sound : cell.Sound grounds) (stepped : step cell drive = some (done, after)) :
    after.Sound grounds := by
  cases drive with
  | axis handle motion =>
      obtain ⟨axis, found, later⟩ := Option.bind_eq_some_iff.mp stepped
      obtain ⟨⟨moved, last⟩, ticked, same⟩ := Option.bind_eq_some_iff.mp later
      cases same
      have isSound := (sound.axes axis (List.mem_of_getElem? found)).advanced motion _ ticked
      exact (sound.set_axis handle moved isSound).effect _ trivial
  | actuator handle stroke began =>
      obtain ⟨actuator, found, later⟩ := Option.bind_eq_some_iff.mp stepped
      obtain ⟨⟨moved, last⟩, ticked, same⟩ := Option.bind_eq_some_iff.mp later
      cases same
      have isSound := (sound.actuators actuator (List.mem_of_getElem? found)).advanced steady stroke carries _ _ ticked
      exact (sound.set_actuator handle moved isSound).effect _ trivial

theorem poll_sound (steady : Scalar.Steady R) (motor : Motor R) (carries : motor.drive.Sound) (cell : Cell R)
    (sound : cell.Sound grounds) :
    (motor.poll cell).2.Sound grounds ∧ ∀ left, (motor.poll cell).1 = some left → left.drive.Sound := by
  obtain ⟨drive, next⟩ := motor
  unfold poll
  cases next with
  | none =>
      dsimp only
      split
      · exact ⟨sound, fun left isLeft => nomatch isLeft⟩
      · refine ⟨{ sound with }, fun left isLeft => ?_⟩
        cases isLeft
        cases drive with
        | axis handle motion => trivial
        | actuator handle stroke began => exact carries
  | some timer =>
      dsimp only
      split
      · cases stepped : step cell drive with
        | none => exact ⟨sound, fun left isLeft => nomatch isLeft⟩
        | some outcome =>
            obtain ⟨done, after⟩ := outcome
            have still := step_sound steady drive carries cell after done sound stepped
            cases done with
            | true => exact ⟨still, fun left isLeft => nomatch isLeft⟩
            | false =>
                refine ⟨{ still with }, fun left isLeft => ?_⟩
                cases isLeft
                exact carries
      · refine ⟨sound, fun left isLeft => ?_⟩
        cases isLeft
        exact carries

end Motor

theorem Exact.fraction_of_part (stroke : Stroke Rat) (elapsed : Duration) (part : ¬ Scalar.one ≤ stroke.fraction elapsed) :
    0 ≤ stroke.fraction elapsed ∧ stroke.fraction elapsed < 1 := by
  have below : stroke.fraction elapsed < 1 := not_le.mp part
  have nonnegative : (0 : Rat) ≤ Scalar.seconds elapsed / Scalar.seconds stroke.time :=
    div_nonneg (seconds_of_span elapsed).1 (seconds_of_span stroke.time).1
  refine ⟨?_, below⟩
  unfold Stroke.fraction Scalar.lesser
  split
  · exact zero_le_one
  · exact nonnegative

theorem Exact.travel_end (on : Bool) : (Actuator.travelEnd on : Rat) = 0 ∨ (Actuator.travelEnd on : Rat) = 1 := by
  cases on with
  | false => exact Or.inl rfl
  | true => exact Or.inr rfl

-- The seconds of a number of milliseconds that 64 bits hold.
theorem Exact.seconds_of_millis (ms : Nat) (sized : ms < Nat.pow 2 64) :
    (Scalar.seconds (Duration.ofMillis ms) : Rat) < 2 ^ 64 := by
  have whole : ms * 1000000 / 1000000000 < 2 ^ 55 := by
    have wide : Nat.pow 2 64 = 2 ^ 64 := rfl
    omega
  have rest : Duration.ofMillis ms % 1000000000 < 1000000000 := Nat.mod_lt _ (by decide)
  have bound : ((Duration.ofMillis ms / 1000000000 : Nat) : Rat) < 2 ^ 55 := by
    show ((ms * 1000000 / 1000000000 : Nat) : Rat) < 2 ^ 55
    exact_mod_cast whole
  have part : ((Duration.ofMillis ms % 1000000000 : Nat) : Rat) / 1000000000 < 1 := by
    rw [div_lt_one (by norm_num)]
    exact_mod_cast rest
  show ((Duration.ofMillis ms / 1000000000 : Nat) : Rat) + ((Duration.ofMillis ms % 1000000000 : Nat) : Rat) / 1000000000 < _
  linarith

theorem Exact.steady : Scalar.Steady Rat where
  le_of_lt _ _ := le_of_lt
  ends on := by
    rcases Exact.travel_end on with low | high
    · exact low ▸ ⟨le_refl _, zero_le_one⟩
    · exact high ▸ ⟨zero_le_one, le_refl _⟩
  between stroke elapsed starts ends _ part := by
    obtain ⟨low, high⟩ : (0 : Rat) ≤ stroke.start ∧ stroke.start ≤ 1 := starts
    obtain ⟨positive, below⟩ := Exact.fraction_of_part stroke elapsed part
    show (0 : Rat) ≤ stroke.start + (stroke.target - stroke.start) * stroke.fraction elapsed ∧
      stroke.start + (stroke.target - stroke.start) * stroke.fraction elapsed ≤ 1
    rw [ends]
    rcases Exact.travel_end stroke.on with at0 | at1
    · rw [at0]
      constructor <;> nlinarith
    · rw [at1]
      constructor <;> nlinarith
  timed actuator on onTravel sized := by
    obtain ⟨low, high⟩ : (0 : Rat) ≤ actuator.state.position ∧ actuator.state.position ≤ 1 := onTravel
    have part : |(Actuator.travelEnd on : Rat) - actuator.state.position| ≤ 1 := by
      rw [abs_le]
      rcases Exact.travel_end on with at0 | at1
      · rw [at0]
        constructor <;> linarith
      · rw [at1]
        constructor <;> linarith
    have bound := Exact.seconds_of_millis actuator.spec.actionTime sized
    have positive : (0 : Rat) ≤ Scalar.seconds actuator.spec.stroke := (Exact.seconds_of_span _).1
    have least := mul_nonneg (abs_nonneg ((Actuator.travelEnd on : Rat) - actuator.state.position)) positive
    have most : |(Actuator.travelEnd on : Rat) - actuator.state.position| * Scalar.seconds actuator.spec.stroke < 2 ^ 64 :=
      lt_of_le_of_lt (mul_le_of_le_one_left positive part) bound
    show (Exact.nanoseconds (Exact.magnitude _ * _)).isSome = true
    rw [Exact.magnitude_is_abs, Exact.nanoseconds, if_neg (by rw [not_or, not_lt, not_le]; exact ⟨least, most⟩)]
    rfl

end Workcell

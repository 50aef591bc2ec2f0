import Workcell.Proofs.Action.Within
import Workcell.Proofs.Arriving.Leg
import Workcell.Proofs.Arriving.Trip

/-!
An axis arrives, and in time. A command begins a motor; the scheduler gives it a turn at every tick of the axis and at no
other time, whatever else it has to do; and turn by turn the axis goes its way.

The axis is left alone when nobody but this motor changes it: motors of superseded motions may go on to have their turns.
-/

set_option autoImplicit false

namespace Workcell

variable {R : Type} [Scalar R] {W J : Type}

def Workload.shown (cell? : W → Option (Cell R)) (handle : Nat) (world : W) : Option (Axis R) :=
  (cell? world).bind fun cell => cell.axes.get? handle

open Workload (shown)

-- What becomes of a schedule while an axis is left alone, and the clock at the ticks that have moved the axis.
inductive Schedule.Alone (load : Workload W J) (cell? : W → Option (Cell R)) (handle number : Nat) (begun : Schedule W J) :
    List Nat → Schedule W J → Prop where
  | begun : Alone load cell? handle number begun [] begun
  | tick {ticks reached next} (before : Alone load cell? handle number begun ticks reached)
      (stepped : reached.step load = some next) (own : reached.ready.head? = some number)
      (moved : shown cell? handle next.world ≠ shown cell? handle reached.world) :
      Alone load cell? handle number begun (ticks ++ [load.now reached.world]) next
  | still {ticks reached next} (before : Alone load cell? handle number begun ticks reached)
      (stepped : reached.step load = some next)
      (same : shown cell? handle next.world = shown cell? handle reached.world)
      (clock : reached.ready ≠ [] → load.now next.world = load.now reached.world) :
      Alone load cell? handle number begun ticks next

def Axis.along (exact : Scalar.Exact R) (leg : Leg) (homed homing : Bool) (axis : Axis R) (ticks : Nat) : Axis R :=
  ⟨axis.spec, axis.tick, axis.contact, leg.state exact homed homing ticks, axis.generation, axis.published + ticks⟩

-- An axis that goes its way alone: tick after tick at its time and no tick more, with the next one ahead of the clock
-- and the scheduler not at its end until the axis has arrived.
structure Leg.Timely (exact : Scalar.Exact R) (leg : Leg) (homed homing : Bool) (axis : Axis R) (load : Workload W J)
    (cell? : W → Option (Cell R)) (handle begun : Nat) (ticks : List Nat) (reached : Schedule W J) : Prop where
  bounded : ticks.length ≤ leg.ticks
  there : shown cell? handle reached.world = some (axis.along exact leg homed homing ticks.length)
  times : ticks = (List.range ticks.length).map fun earlier => tickAt axis.tick begun (earlier + 1)
  ahead : ticks.length < leg.ticks →
    load.now reached.world ≤ tickAt axis.tick begun (ticks.length + 1) ∧ (reached.step load).isSome = true

namespace Leg

variable {exact : Scalar.Exact R} {leg : Leg} {homed homing : Bool} {axis : Axis R} {handle number start : Nat}
  {load : Workload W J} {cell? : W → Option (Cell R)} {motor : Motor R → J}

def motion (exact : Scalar.Exact R) (leg : Leg) (homing : Bool) (axis : Axis R) : AxisMotion R :=
  ⟨axis.generation, exact.of leg.target, exact.of leg.step, homing⟩

def trip (exact : Scalar.Exact R) (leg : Leg) (homed homing : Bool) (axis : Axis R) (handle start : Nat) :
    Trip R (Axis R) :=
  ⟨.axis handle (leg.motion exact homing axis), start, axis.tick, leg.ticks, axis.along exact leg homed homing⟩

theorem along_differs (ticks : Nat) :
    axis.along exact leg homed homing (ticks + 1) ≠ axis.along exact leg homed homing ticks := by
  intro same
  have published := congrArg Axis.published same
  simp only [Axis.along] at published
  omega

theorem trip_lawful (moves : 0 < leg.step) (lasts : axis.tick ≠ 0) :
    (leg.trip exact homed homing axis handle start).Lawful (fun cell => cell.axes.get? handle) (.axis handle) where
  lasts := lasts
  own _ _ := rfl
  paced cell ticks there := by
    show ((cell.axes.get? handle).map Axis.tick).getD 0 = axis.tick
    rw [there]
    rfl
  goes cell ticks short there _ := by
    have inside : handle < cell.axes.slots.length := (List.getElem?_eq_some_iff.mp there).1
    have ticked : (leg.motion exact homing axis).tick? (axis.along exact leg homed homing ticks) =
        some (axis.along exact leg homed homing (ticks + 1), decide (leg.ticks = ticks + 1)) := by
      have own : (axis.along exact leg homed homing ticks).generation = (leg.motion exact homing axis).generation := rfl
      unfold AxisMotion.tick?
      rw [if_pos own, Axis.along, Leg.motion, leg.advance_state exact moves homed homing axis.generation ticks short]
      rfl
    refine ⟨_, { cell with axes := cell.axes.set handle (axis.along exact leg homed homing (ticks + 1)) }.signal
      (.axis handle), ?_, decide_eq_true_iff, ?_, rfl, List.mem_append_right _ (List.mem_singleton.mpr rfl)⟩
    · have known : cell.axes.get? handle = some (axis.along exact leg homed homing ticks) := there
      show Motor.step cell (.axis handle (leg.motion exact homing axis)) = _
      simp only [Motor.step, known, ticked, Option.pure_def, Option.bind_eq_bind, Option.bind_some]
      rfl
    · show (cell.axes.set handle (axis.along exact leg homed homing (ticks + 1))).get? handle = _
      simp [Bank.get?, Bank.set, inside, trip]
  differs _ := along_differs _

omit [Scalar R] in
theorem undisturbed_of_alone {begun : Schedule W J} {ticks : List Nat} {reached : Schedule W J}
    (alone : begun.Alone load cell? handle number ticks reached) :
    begun.Undisturbed load (shown cell? handle) number ticks reached := by
  induction alone with
  | begun => exact .begun
  | tick before stepped own moved ih => exact ih.tick stepped own moved
  | still before stepped same clock ih => exact ih.still stepped same clock

theorem timely_of_alone (moves : 0 < leg.step) (lasts : axis.tick ≠ 0) (hosts : load.Hosts cell? motor)
    {begun : Schedule W J} {ticks : List Nat} {reached : Schedule W J}
    (sets : (leg.trip exact homed homing axis handle start).Underway load (shown cell? handle) motor (some number) 0 begun)
    (alone : begun.Alone load cell? handle number ticks reached) :
    leg.Timely exact homed homing axis load cell? handle start ticks reached := by
  have lawful : (leg.trip exact homed homing axis handle start).Lawful _ _ := leg.trip_lawful moves lasts
  have shows := hosts.shows handle
  obtain ⟨underway, times⟩ := Trip.Underway.undisturbed lawful shows sets (undisturbed_of_alone alone)
  exact ⟨underway.bounded, underway.there, times, fun short => underway.ahead lawful shows short⟩

theorem Timely.arrives {begun : Nat} {ticks : List Nat} {reached : Schedule W J}
    (timely : leg.Timely exact homed homing axis load cell? handle begun ticks reached) (lasts : axis.tick ≠ 0)
    (passed : tickAt axis.tick begun leg.ticks < load.now reached.world ∨ reached.step load = none) :
    ticks.length = leg.ticks ∧ ∃ arrived, shown cell? handle reached.world = some arrived ∧
      arrived.state = ⟨exact.of leg.target, exact.of leg.target, false, homed || homing⟩ := by
  have all : ticks.length = leg.ticks :=
    all_ticked axis.tick lasts timely.bounded timely.ahead (passed.imp_right fun ended => congrArg Option.isSome ended)
  refine ⟨all, _, timely.there, ?_⟩
  simp [Axis.along, state, place, all]

end Leg

-- A move to a finite place and a homing are commands alike.
theorem move_is_command (handle : Nat) (axis : Axis R) (goal : R) (request : Option R)
    (sensible : Scalar.isFinite goal = true) :
    moveAxis handle axis goal request = commandAxis handle axis goal request false := by
  rw [moveAxis, Axis.accepts, if_pos sensible]

theorem command_leaves (cell : Cell R) (handle : Nat) (axis moved : Axis R) (goal target : R) (request : Option R)
    (homing : Bool) (motion? : Option (AxisMotion R)) (live : cell.live = true)
    (commanded : axis.command goal request homing = (target, motion?, moved))
    (shown : moved.published ≠ axis.published) :
    commandAxis handle axis goal request homing cell = (.ok (target, moved),
      { cell with
        axes := cell.axes.set handle moved
        outbox := cell.outbox ++ .signal (.axis handle) :: motion?.toList.map fun motion => .motion handle motion }) := by
  rw [commandAxis, Act.get_bind_apply, if_pos live, commanded]
  cases motion? with
  | none =>
      simp only [Cell.putAxis, if_neg shown]
      rfl
  | some motion =>
      simp only [Cell.putAxis, if_neg shown, Cell.signal, Cell.effect, List.append_assoc]
      rfl

open Exact (Reading)

def parkedSlide : Axis Reading := ⟨Travel.slide, .ofMillis 10, none, ⟨.of 0, .of 0, false, false⟩, 0, 0⟩

def sentSlide : Axis Reading := ⟨Travel.slide, .ofMillis 10, none, ⟨.of 0, .of (3 / 2), true, false⟩, 1, 1⟩

def slideCell (axis : Axis Reading) : Cell Reading :=
  { Cell.new ⟨"stand", [Travel.slide], []⟩ (.simulation (.ofMillis 10)) with axes := ⟨[axis], [("slide", 0)]⟩ }

def slideBench (axis : Axis Reading) : Schedule (Bench Reading Unit) (BenchJob Reading Unit) :=
  ⟨.new (slideCell axis) .standard (.of 1), [], [], [], 0⟩

end Workcell

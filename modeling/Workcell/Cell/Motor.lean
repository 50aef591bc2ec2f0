import Workcell.Cell.Basic

/-!
Motors: the jobs that carry motions and strokes out, one step a tick.

A motor first looks at the clock when it gets its first turn; its first step comes a full tick later. It ends with
its motion, or at its first step after the motion has been superseded. A device without a tick has a motor that
breaks down at once.

The next step is due a tick after the last one was taken, rounded up to the clock's millisecond. Steps that were due at
the multiples of the tick since the first turn would come at the same times as long as the tick is a whole number of
milliseconds, which is all that a configuration admits; for a finer tick the rounding would add up here.
-/

set_option autoImplicit false

namespace Workcell

inductive Drive (R : Type) where
  | axis (handle : Nat) (motion : AxisMotion R)
  | actuator (handle : Nat) (stroke : Stroke R) (began : Nat)

structure Motor (R : Type) where
  drive : Drive R
  timer : Option Timer

namespace Motor

variable {R : Type} [Scalar R]

def ofMotion (axis : Nat) (motion : AxisMotion R) : Motor R := ⟨.axis axis motion, none⟩

def ofStroke (actuator : Nat) (stroke : Stroke R) : Motor R := ⟨.actuator actuator stroke 0, none⟩

def tick (cell : Cell R) : Drive R → Duration
  | .axis handle _ => ((cell.axes.get? handle).map Axis.tick).getD 0
  | .actuator handle _ _ => ((cell.actuators.get? handle).map Actuator.tick).getD 0

def begun (now : Nat) : Drive R → Drive R
  | .axis handle motion => .axis handle motion
  | .actuator handle stroke _ => .actuator handle stroke now

-- One step of the device; nothing when it is over, or `true` when this was the last one.
def step (cell : Cell R) : Drive R → Option (Bool × Cell R)
  | .axis handle motion => do
      let axis ← cell.axes.get? handle
      let (moved, done) ← motion.tick? axis
      pure (done, { cell with axes := cell.axes.set handle moved }.signal (.axis handle))
  | .actuator handle stroke began => do
      let actuator ← cell.actuators.get? handle
      let (moved, done) ← stroke.tick? (Duration.ofMillis (cell.now - began)) actuator
      pure (done, { cell with actuators := cell.actuators.set handle moved }.signal (.actuator handle))

def hold (drive : Drive R) (cell : Cell R) : Option (Motor R) × Cell R :=
  let (timer, cell) := cell.timer (Duration.due cell.now (tick cell drive))
  (some ⟨drive, some timer⟩, cell)

def poll (motor : Motor R) (cell : Cell R) : Option (Motor R) × Cell R :=
  match motor.timer with
  | none => if tick cell motor.drive = 0 then (none, cell) else hold (begun cell.now motor.drive) cell
  | some timer =>
      if cell.reached timer then
        match step cell motor.drive with
        | none => (none, cell)
        | some (true, cell) => (none, cell)
        | some (false, cell) => hold motor.drive cell
      else (some motor, cell)

end Motor

end Workcell

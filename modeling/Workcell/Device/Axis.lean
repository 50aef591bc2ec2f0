import Workcell.Fault
import Workcell.Machine.Basic

/-!
A simulated axis: straight motion at constant speed, one step per tick, onto the exact target.

Every accepted command and every stop begins a new generation. A motion carries the generation of its command and
changes nothing once that is past, so it does not matter when the motion before is taken down. `published` counts
the states that observers have been shown.
-/

set_option autoImplicit false

namespace Workcell

structure AxisState (R : Type) where
  position : R
  commanded : R
  moving : Bool
  homed : Bool

structure Axis (R : Type) where
  spec : AxisSpec R
  tick : Duration
  contact : Option (Contact R)
  state : AxisState R
  generation : Nat
  published : Nat

structure AxisMotion (R : Type) where
  generation : Nat
  target : R
  step : R
  homing : Bool

variable {R : Type} [Scalar R]

def AxisState.inPosition (state : AxisState R) (tolerance : R) : Bool :=
  !state.moving && decide (Scalar.abs (state.position - state.commanded) ≤ tolerance)

namespace Axis

def new? (spec : AxisSpec R) (tick : Duration) : Option (Axis R) :=
  spec.homePosition?.map fun home => ⟨spec, tick, none, ⟨home, home, false, false⟩, 0, 0⟩

omit [Scalar R] in
def withContact (contact : Option (Contact R)) (axis : Axis R) : Axis R :=
  ⟨axis.spec, axis.tick, contact, axis.state, axis.generation, axis.published⟩

def process? (axis : Axis R) : Option R := axis.contact.map fun contact => contact.sample axis.state.position

omit [Scalar R] in
def publish (state : AxisState R) (generation : Nat) (axis : Axis R) : Axis R :=
  ⟨axis.spec, axis.tick, axis.contact, state, generation, axis.published + 1⟩

-- A request that is finite and above zero counts up to the axis' own speed; any other is ignored.
def speed (axis : Axis R) (request : Option R) : R :=
  match request with
  | some s =>
      if Scalar.isFinite s ∧ Scalar.zero < s then Scalar.lesser s axis.spec.maxSpeed else axis.spec.maxSpeed
  | none => axis.spec.maxSpeed

-- Begins a motion toward the target inside the limits, or ends it at once where the axis already stands there.
def command (axis : Axis R) (target : R) (request : Option R) (homing : Bool) :
    R × Option (AxisMotion R) × Axis R :=
  let target := (axis.spec.clamp? target).getD target
  let generation := axis.generation + 1
  let homed := axis.state.homed && !homing
  if axis.state.position == target then
    (target, none, axis.publish ⟨axis.state.position, target, false, homed || homing⟩ generation)
  else
    (target, some ⟨generation, target, axis.speed request * Scalar.seconds axis.tick, homing⟩,
      axis.publish ⟨axis.state.position, target, true, homed⟩ generation)

def accepts (axis : Axis R) (target : R) : Except DeviceError Unit :=
  if Scalar.isFinite target then .ok ()
  else .error (.rejected axis.spec.id ("target " ++ Scalar.plain target ++ " is not a finite position"))

def homeTarget (axis : Axis R) : R := (axis.spec.homePosition?).getD axis.state.position

omit [Scalar R] in
def stop (axis : Axis R) : Axis R :=
  if axis.state.moving then
    axis.publish ⟨axis.state.position, axis.state.commanded, false, axis.state.homed⟩ (axis.generation + 1)
  else ⟨axis.spec, axis.tick, axis.contact, axis.state, axis.generation + 1, axis.published⟩

end Axis

namespace AxisMotion

def advance (motion : AxisMotion R) (state : AxisState R) : AxisState R × Bool :=
  let remaining := motion.target - state.position
  if Scalar.abs remaining ≤ motion.step then
    (⟨motion.target, state.commanded, false, state.homed || motion.homing⟩, true)
  else
    (⟨state.position + Scalar.copySign motion.step remaining, state.commanded, state.moving, state.homed⟩, false)

def tick? (motion : AxisMotion R) (axis : Axis R) : Option (Axis R × Bool) :=
  if axis.generation = motion.generation then
    let (state, done) := motion.advance axis.state
    some (axis.publish state axis.generation, done)
  else none

end AxisMotion

end Workcell

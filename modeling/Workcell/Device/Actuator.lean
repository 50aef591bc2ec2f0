import Workcell.Machine.Basic

/-!
A simulated cylinder or vacuum effector.

A stroke moves the position evenly between zero and one; its time is the action time in proportion to the way left,
in whole nanoseconds. The commanded state counts at once, the state itself flips when the stroke ends. A stroke that
takes no time switches within the command. Generations tell a stroke in progress from one that was superseded.
-/

set_option autoImplicit false

namespace Workcell

structure ActuatorState (R : Type) where
  on : Bool
  commanded : Bool
  changing : Bool
  position : R

structure Actuator (R : Type) where
  spec : ActuatorSpec
  tick : Duration
  state : ActuatorState R
  generation : Nat
  published : Nat

structure Stroke (R : Type) where
  generation : Nat
  on : Bool
  start : R
  target : R
  time : Duration

variable {R : Type}

-- At rest at a state that is also the last one commanded.
def ActuatorState.settledAt (state : ActuatorState R) (on : Bool) : Bool :=
  !state.changing && state.on == on && state.commanded == on

namespace Actuator

def publish (state : ActuatorState R) (generation : Nat) (actuator : Actuator R) : Actuator R :=
  ⟨actuator.spec, actuator.tick, state, generation, actuator.published + 1⟩

-- Ends the stroke in progress and freezes the position; an idle actuator shows nothing new.
def stop (actuator : Actuator R) : Actuator R :=
  let state := actuator.state
  if state.changing then
    actuator.publish ⟨state.on, state.commanded, false, state.position⟩ (actuator.generation + 1)
  else ⟨actuator.spec, actuator.tick, state, actuator.generation + 1, actuator.published⟩

variable [Scalar R]

def new (spec : ActuatorSpec) (tick : Duration) : Actuator R :=
  ⟨spec, tick, ⟨false, false, false, Scalar.zero⟩, 0, 0⟩

def travelEnd (on : Bool) : R := if on then Scalar.one else Scalar.zero

def strokeTime (actuator : Actuator R) (on : Bool) : Duration :=
  (Scalar.nanoseconds
    (Scalar.abs (travelEnd on - actuator.state.position) * Scalar.seconds actuator.spec.stroke)).getD 0

-- Begins a stroke, or switches at once where it takes no time.
def fire (actuator : Actuator R) (on : Bool) : Option (Stroke R) × Actuator R :=
  let state := actuator.state
  let time := actuator.strokeTime on
  let generation := actuator.generation + 1
  if time = 0 then (none, actuator.publish ⟨on, on, false, travelEnd on⟩ generation)
  else
    (some ⟨generation, on, state.position, travelEnd on, time⟩,
      actuator.publish ⟨state.on, on, true, state.position⟩ generation)

end Actuator

namespace Stroke

variable [Scalar R]

def fraction (stroke : Stroke R) (elapsed : Duration) : R :=
  Scalar.lesser (Scalar.seconds elapsed / Scalar.seconds stroke.time) Scalar.one

def advance (stroke : Stroke R) (elapsed : Duration) (state : ActuatorState R) : ActuatorState R × Bool :=
  let fraction := stroke.fraction elapsed
  if Scalar.one ≤ fraction then (⟨stroke.on, state.commanded, false, stroke.target⟩, true)
  else
    (⟨state.on, state.commanded, state.changing, stroke.start + (stroke.target - stroke.start) * fraction⟩, false)

def tick? (stroke : Stroke R) (elapsed : Duration) (actuator : Actuator R) : Option (Actuator R × Bool) :=
  if actuator.generation = stroke.generation then
    let (state, done) := stroke.advance elapsed actuator.state
    some (actuator.publish state actuator.generation, done)
  else none

end Stroke

end Workcell

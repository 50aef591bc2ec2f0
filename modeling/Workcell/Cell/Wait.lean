import Workcell.Cell.Devices

/-!
Waits: what an action that has not ended yet is waiting for.

Every wait on a device is bounded. A bound that passes stops the device and ends the wait without a fault; a wait
that is abandoned stops its device too. The condition is looked at before the bound, so a state shown in the same
millisecond by somebody who ran earlier counts.

A probe looks again a sample period after it has looked, rounded up to the clock's millisecond; for a period of whole
milliseconds, which is all that a configuration admits, these are the multiples of the period since it began.
-/

set_option autoImplicit false

namespace Workcell

inductive Wait (R : Type) where
  | delay (timer : Timer)
  | idle (axis : Nat) (timer : Timer)
  | settled (actuator : Nat) (on : Bool) (timer : Timer)
  | probe (axis : Nat) (threshold : R) (deadline : Duration) (timer : Timer)

inductive Reply (R : Type) where
  | value (value : Value R)
  | waiting (wait : Wait R)

namespace Wait

variable {R : Type}

def timer : Wait R → Timer
  | .delay timer => timer
  | .idle _ timer => timer
  | .settled _ _ timer => timer
  | .probe _ _ _ timer => timer

def signal? : Wait R → Option Signal
  | .delay _ => none
  | .idle axis _ => some (.axis axis)
  | .settled actuator _ _ => some (.actuator actuator)
  | .probe .. => none

def abandon : Wait R → Cell R → Cell R
  | .delay _, cell => cell
  | .idle axis _, cell => cell.stopAxis axis
  | .settled actuator _ _, cell => cell.stopActuator actuator
  | .probe axis _ _ _, cell => cell.stopAxis axis

end Wait

namespace Cell

variable {R : Type} [Scalar R]

def position (cell : Cell R) (axis : Nat) : Value R :=
  match cell.axes.get? axis with
  | some axis => .number axis.state.position
  | none => .unit

def moving (cell : Cell R) (axis : Nat) : Bool :=
  match cell.axes.get? axis with
  | some axis => axis.state.moving
  | none => false

def settledOn (cell : Cell R) (actuator : Nat) : Value R :=
  match cell.actuators.get? actuator with
  | some actuator => .bool (actuator.state.settledAt true)
  | none => .unit

def settledAt (cell : Cell R) (actuator : Nat) (on : Bool) : Bool :=
  match cell.actuators.get? actuator with
  | some actuator => actuator.state.settledAt on
  | none => true

def process (cell : Cell R) (axis : Nat) : R :=
  ((cell.axes.get? axis).bind Axis.process?).getD Scalar.zero

def instant (cell : Cell R) : Duration := Duration.ofMillis cell.now

-- Looks at an axis that is waited for; `timer` is nothing when the bound has passed already.
def lookIdle (cell : Cell R) (axis : Nat) (timer : Option Timer) : Reply R × Cell R :=
  if cell.moving axis then
    match timer with
    | some timer =>
        if cell.reached timer then (.value (cell.position axis), cell.stopAxis axis)
        else (.waiting (.idle axis timer), cell)
    | none => (.value (cell.position axis), cell.stopAxis axis)
  else (.value (cell.position axis), cell)

def lookSettled (cell : Cell R) (actuator : Nat) (on : Bool) (timer : Option Timer) : Reply R × Cell R :=
  let giveUp : Reply R × Cell R :=
    let cell := cell.stopActuator actuator
    (.value (cell.settledOn actuator), cell)
  if cell.settledAt actuator on then (.value (cell.settledOn actuator), cell)
  else
    match timer with
    | some timer => if cell.reached timer then giveUp else (.waiting (.settled actuator on timer), cell)
    | none => giveUp

-- Looks at a probing axis: the threshold counts first, then standing still, then the deadline.
def lookProbe (cell : Cell R) (axis : Nat) (threshold : R) (deadline : Duration) : Reply R × Cell R :=
  if threshold ≤ cell.process axis then (.value (cell.position axis), cell.stopAxis axis)
  else if !cell.moving axis then (.value (cell.position axis), cell)
  else if deadline ≤ cell.instant then (.value (cell.position axis), cell.stopAxis axis)
  else
    let (timer, cell) := cell.timer (Duration.due cell.now cell.sampleTick)
    (.waiting (.probe axis threshold deadline timer), cell)

def awaitIdle (axis : Nat) (bound : Duration) (cell : Cell R) : Reply R × Cell R :=
  if cell.moving axis then
    let (timer, cell) := cell.alarm bound
    cell.lookIdle axis timer
  else cell.lookIdle axis none

def awaitSettled (actuator : Nat) (on : Bool) (bound : Duration) (cell : Cell R) : Reply R × Cell R :=
  if cell.settledAt actuator on then cell.lookSettled actuator on none
  else
    let (timer, cell) := cell.alarm bound
    cell.lookSettled actuator on timer

def awaitDelay (span : Duration) (cell : Cell R) : Reply R × Cell R :=
  match cell.alarm span with
  | (some timer, cell) => (.waiting (.delay timer), cell)
  | (none, cell) => (.value .unit, cell)

def look (cell : Cell R) : Wait R → Reply R × Cell R
  | .delay timer => if cell.reached timer then (.value .unit, cell) else (.waiting (.delay timer), cell)
  | .idle axis timer => cell.lookIdle axis (some timer)
  | .settled actuator on timer => cell.lookSettled actuator on (some timer)
  | .probe axis threshold deadline timer =>
      if cell.reached timer then cell.lookProbe axis threshold deadline
      else (.waiting (.probe axis threshold deadline timer), cell)

end Cell

end Workcell

import Workcell.Cell.Basic

/-!
Devices of a cell: finding them, commanding them, stopping them.

A declared device is made by the driver when it is first asked for. Work on a cell either yields something or
fails; what it did before it failed stays done.
-/

set_option autoImplicit false

namespace Workcell

abbrev Act (R A : Type) := ExceptT Failure (StateM (Cell R)) A

variable {R : Type}

namespace Act

variable {A : Type}

def fail (fault : Fault) : Act R A := throw (.fault fault)

def panic (message : String) : Act R A := throw (.panic (some message))

def ofExcept : Except Fault A → Act R A
  | .ok a => pure a
  | .error fault => fail fault

def change (f : Cell R → A × Cell R) : Act R A := fun cell =>
  let (a, cell) := f cell
  (.ok a, cell)

def tell (f : Cell R → Cell R) : Act R Unit := change fun cell => ((), f cell)

end Act

namespace Cell

def missing (cell : Cell R) (id expected : String) : Fault :=
  match cell.kind? id with
  | some _ => .device (.wrongKind id expected)
  | none => .deviceNotFound id

-- The state of an axis after some work on it; observers are told of a state that they have not been shown.
def putAxis (handle : Nat) (before after : Axis R) (cell : Cell R) : Cell R :=
  let cell := { cell with axes := cell.axes.set handle after }
  if after.published = before.published then cell else cell.signal (.axis handle)

def putActuator (handle : Nat) (before after : Actuator R) (cell : Cell R) : Cell R :=
  let cell := { cell with actuators := cell.actuators.set handle after }
  if after.published = before.published then cell else cell.signal (.actuator handle)

def stopAxis (handle : Nat) (cell : Cell R) : Cell R :=
  match cell.axes.get? handle with
  | some axis => cell.putAxis handle axis axis.stop
  | none => cell

def stopActuator (handle : Nat) (cell : Cell R) : Cell R :=
  match cell.actuators.get? handle with
  | some actuator => cell.putActuator handle actuator actuator.stop
  | none => cell

def stopAll (cell : Cell R) : Cell R :=
  let cell := cell.axes.registered.foldl (fun cell entry => cell.stopAxis entry.2.1) cell
  cell.actuators.registered.foldl (fun cell entry => cell.stopActuator entry.2.1) cell

end Cell

variable [Scalar R]

def makeAxis (spec : AxisSpec R) : Act R (Nat × Axis R) := do
  let cell ← get
  match cell.driver.createAxis spec with
  | .error error => Act.fail (.device error)
  | .ok none => Act.panic spec.rangeMessage
  | .ok (some axis) =>
      set { cell with axes := cell.axes.add spec.id axis }
      pure (cell.axes.slots.length, axis)

def makeActuator (spec : ActuatorSpec) : Act R (Nat × Actuator R) := do
  let cell ← get
  match cell.driver.createActuator spec with
  | .error error => Act.fail (.device error)
  | .ok actuator =>
      set { cell with actuators := cell.actuators.add spec.id actuator }
      pure (cell.actuators.slots.length, actuator)

def findAxis (id : String) : Act R (Nat × Axis R) := do
  let cell ← get
  match cell.axes.find? id with
  | some entry => pure entry
  | none =>
      match cell.machine.axis? id with
      | some spec => makeAxis spec
      | none => Act.fail (cell.missing id "an axis")

def findActuator (id : String) : Act R (Nat × Actuator R) := do
  let cell ← get
  match cell.actuators.find? id with
  | some entry => pure entry
  | none =>
      match cell.machine.actuator? id with
      | some spec => makeActuator spec
      | none => Act.fail (cell.missing id "an actuator")

def materializeAll : Act R Unit := do
  let cell ← get
  for spec in cell.machine.axes do
    let _ ← findAxis spec.id
  for spec in cell.machine.actuators do
    let _ ← findActuator spec.id

-- Begins a motion; without a scheduler no axis can be commanded.
def commandAxis (handle : Nat) (axis : Axis R) (target : R) (speed : Option R) (homing : Bool) :
    Act R (R × Axis R) := do
  let cell ← get
  if cell.live then
    let (target, motion, moved) := axis.command target speed homing
    let cell := cell.putAxis handle axis moved
    set (match motion with
      | some motion => cell.effect (.motion handle motion)
      | none => cell)
    pure (target, moved)
  else Act.fail (.device (.noRuntime axis.spec.id))

def moveAxis (handle : Nat) (axis : Axis R) (target : R) (speed : Option R) : Act R (R × Axis R) :=
  match axis.accepts target with
  | .error error => Act.fail (.device error)
  | .ok () => commandAxis handle axis target speed false

def homeAxis (handle : Nat) (axis : Axis R) : Act R (R × Axis R) :=
  commandAxis handle axis axis.homeTarget none true

-- Begins a stroke; without a scheduler only one that takes no time can be made.
def fireActuator (handle : Nat) (actuator : Actuator R) (on : Bool) : Act R (Actuator R) := do
  let cell ← get
  let (stroke, fired) := actuator.fire on
  match stroke with
  | none =>
      set (cell.putActuator handle actuator fired)
      pure fired
  | some stroke =>
      if cell.live then
        set ((cell.putActuator handle actuator fired).effect (.stroke handle stroke))
        pure fired
      else Act.fail (.device (.noRuntime actuator.spec.id))

end Workcell

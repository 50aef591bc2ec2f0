import Workcell.Machine.Basic

/-!
When a machine is fit to run: not too many devices, ids that are given, free and not shared, and axes with a travel
range, a speed and, where they probe, a stiffness above zero. The first fault found is reported: the count, then
each axis in order, then each actuator.
-/

set_option autoImplicit false

namespace Workcell

def maxDevices : Nat := 256

inductive MachineError (R : Type) where
  | duplicateId (id : String)
  | reservedId (id : String)
  | emptyId
  | invalidRange (id : String) (min max : R)
  | invalidSpeed (id : String) (speed : R)
  | invalidContact (id : String) (stiffness : R)
  | tooManyDevices (count : Nat)

variable {R : Type}

def MachineError.message [Scalar R] : MachineError R → String
  | .duplicateId id => "Duplicate device id: " ++ id
  | .reservedId id => "Device id '" ++ id ++ "' is reserved"
  | .emptyId => "Device id cannot be empty"
  | .invalidRange id min max =>
      "Axis " ++ id ++ ": invalid travel range [" ++ Scalar.plain min ++ ", " ++ Scalar.plain max ++ "]"
  | .invalidSpeed id speed => "Axis " ++ id ++ ": max_speed must be > 0 (got " ++ Scalar.plain speed ++ ")"
  | .invalidContact id stiffness =>
      "Axis " ++ id ++ ": contact stiffness must be > 0 (got " ++ Scalar.plain stiffness ++ ")"
  | .tooManyDevices count => "Too many devices: " ++ toString count ++ " (max " ++ toString maxDevices ++ ")"

def validateId (id : String) : Except (MachineError R) Unit :=
  if id = "" then .error .emptyId
  else if id = systemName then .error (.reservedId id)
  else .ok ()

section Axes

variable [Scalar R]

def validateContact (id : String) : Option (Contact R) → Except (MachineError R) Unit
  | none => .ok ()
  | some contact =>
      if Scalar.zero < contact.stiffness then .ok () else .error (.invalidContact id contact.stiffness)

def AxisSpec.validate (spec : AxisSpec R) : Except (MachineError R) Unit := do
  validateId spec.id
  if spec.min < spec.max then pure () else throw (.invalidRange spec.id spec.min spec.max)
  if Scalar.zero < spec.maxSpeed then pure () else throw (.invalidSpeed spec.id spec.maxSpeed)
  validateContact spec.id spec.contact

def validateAxes : (seen : List String) → List (AxisSpec R) → Except (MachineError R) (List String)
  | seen, [] => .ok seen
  | seen, spec :: rest => do
      spec.validate
      if seen.contains spec.id then throw (.duplicateId spec.id) else validateAxes (spec.id :: seen) rest

end Axes

def validateActuators : (seen : List String) → List ActuatorSpec → Except (MachineError R) Unit
  | _, [] => .ok ()
  | seen, spec :: rest => do
      validateId spec.id
      if seen.contains spec.id then throw (.duplicateId spec.id) else validateActuators (spec.id :: seen) rest

def Machine.validate [Scalar R] (machine : Machine R) : Except (MachineError R) Unit := do
  let count := machine.axes.length + machine.actuators.length
  if maxDevices < count then throw (.tooManyDevices count) else pure ()
  let seen ← validateAxes [] machine.axes
  validateActuators seen machine.actuators

end Workcell

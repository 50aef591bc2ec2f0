import Workcell.Duration
import Workcell.Scalar

/-!
The machine: which axes and actuators it has, their limits and how they are wired.
-/

set_option autoImplicit false

namespace Workcell

def systemName : String := "System"

structure Contact (R : Type) where
  surface : R
  stiffness : R

structure AxisSpec (R : Type) where
  id : String
  board : Nat
  channel : Nat
  min : R
  max : R
  maxSpeed : R
  home : Option R
  contact : Option (Contact R)

inductive ActuatorKind where
  | cylinder
  | vacuum
  deriving DecidableEq, Repr

structure ActuatorSpec where
  id : String
  kind : ActuatorKind
  board : Nat
  channel : Nat
  actionTime : Nat
  deriving DecidableEq, Repr

inductive DeviceKind where
  | axis
  | cylinder
  | vacuum
  deriving DecidableEq, Repr

structure Machine (R : Type) where
  name : String
  axes : List (AxisSpec R)
  actuators : List ActuatorSpec

def ActuatorKind.name : ActuatorKind → String
  | .cylinder => "cylinder"
  | .vacuum => "vacuum"

def ActuatorKind.named? : String → Option ActuatorKind
  | "cylinder" => some .cylinder
  | "vacuum" => some .vacuum
  | _ => none

def ActuatorKind.device : ActuatorKind → DeviceKind
  | .cylinder => .cylinder
  | .vacuum => .vacuum

def DeviceKind.name : DeviceKind → String
  | .axis => "axis"
  | .cylinder => "cylinder"
  | .vacuum => "vacuum"

variable {R : Type} [Scalar R]

-- The pressure at a position; one that cannot be compared with the surface gives none.
def Contact.sample (contact : Contact R) (position : R) : R :=
  let depth := position - contact.surface
  (if Scalar.zero < depth then depth else Scalar.zero) * contact.stiffness

def ActuatorSpec.stroke (spec : ActuatorSpec) : Duration := Duration.ofMillis spec.actionTime

namespace AxisSpec

def defaultSpeed : R := Scalar.ofNat 100

def new (id : String) (min max : R) : AxisSpec R :=
  ⟨id, 0, 0, min, max, defaultSpeed, none, none⟩

-- The position itself, or the limit that it lies beyond. Nothing when the limits are not in order.
def clamp? (spec : AxisSpec R) (position : R) : Option R :=
  if spec.min ≤ spec.max then
    let raised := if position < spec.min then spec.min else position
    some (if spec.max < raised then spec.max else raised)
  else none

def rangeMessage (spec : AxisSpec R) : String :=
  "min > max, or either was NaN. min = " ++ Scalar.dump spec.min ++ ", max = " ++ Scalar.dump spec.max

def homePosition? (spec : AxisSpec R) : Option R := spec.clamp? (spec.home.getD Scalar.zero)

end AxisSpec

def ActuatorSpec.new (id : String) (kind : ActuatorKind) (actionTime : Nat) : ActuatorSpec :=
  ⟨id, kind, 0, 0, actionTime⟩

namespace Machine

omit [Scalar R]

def axis? (machine : Machine R) (id : String) : Option (AxisSpec R) :=
  machine.axes.find? fun spec => spec.id == id

def actuator? (machine : Machine R) (id : String) : Option ActuatorSpec :=
  machine.actuators.find? fun spec => spec.id == id

def kind? (machine : Machine R) (id : String) : Option DeviceKind :=
  match machine.axis? id with
  | some _ => some .axis
  | none => (machine.actuator? id).map fun spec => spec.kind.device

def limits? (machine : Machine R) (id : String) : Option (R × R) :=
  (machine.axis? id).map fun spec => (spec.min, spec.max)

def ids (machine : Machine R) : List String :=
  machine.axes.map AxisSpec.id ++ machine.actuators.map ActuatorSpec.id

end Machine

end Workcell

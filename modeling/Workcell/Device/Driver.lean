import Workcell.Catalog
import Workcell.Device.Actuator
import Workcell.Device.Axis

/-!
Drivers make devices from their records. The simulation makes every device; the absent driver makes none and stands
for hardware that is not there.
-/

set_option autoImplicit false

namespace Workcell

inductive Driver where
  | simulation (tick : Duration)
  | absent
  deriving DecidableEq, Repr

namespace Driver

def version : String := "0.1.0"

def name : Driver → String
  | .simulation _ => "simulation"
  | .absent => "null"

variable {R : Type} [Scalar R]

-- The axis of a record, its contact model attached. `none` stands for a record that no axis can be made of.
def createAxis (driver : Driver) (spec : AxisSpec R) : Except DeviceError (Option (Axis R)) :=
  match driver with
  | .simulation tick => .ok ((Axis.new? spec tick).map (Axis.withContact spec.contact))
  | .absent => .error (.notFound spec.id)

def createActuator (driver : Driver) (spec : ActuatorSpec) : Except DeviceError (Actuator R) :=
  match driver with
  | .simulation tick => .ok (Actuator.new spec tick)
  | .absent => .error (.noRuntime spec.id)

def builtin : Catalog (Duration → Driver) := ⟨[("simulation", Driver.simulation)]⟩

def create (catalog : Catalog (Duration → Driver)) (name : String) (tick : Duration) : Except DeviceError Driver :=
  match catalog.find? name with
  | some make => .ok (make tick)
  | none => .error (.driverNotFound name)

end Driver

end Workcell

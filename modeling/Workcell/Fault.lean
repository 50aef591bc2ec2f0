import Workcell.Operation
import Workcell.Scalar

/-!
Faults: why a step, and with it a run, fails.
-/

set_option autoImplicit false

namespace Workcell

inductive DeviceError where
  | notFound (id : String)
  | wrongKind (id expected : String)
  | rejected (id reason : String)
  | noRuntime (id : String)
  | driverNotFound (name : String)
  deriving DecidableEq, Repr

def DeviceError.message : DeviceError → String
  | .notFound id => "Device not found: " ++ id
  | .wrongKind id expected => "Device " ++ id ++ " is not " ++ expected
  | .rejected id reason => "Device " ++ id ++ " rejected command: " ++ reason
  | .noRuntime id => "Device " ++ id ++ ": no async runtime available for motion task"
  | .driverNotFound name => "Driver not found: " ++ name

inductive Fault where
  | cancelled
  | deviceNotFound (id : String)
  | unsupported (operation : Operation) (target : String)
  | invalidArgument (operation : Operation) (reason : String)
  | thrown (message : String)
  | emptyStation (station : String)
  | unknownScenario (name : String)
  | scenarioUnavailable (scenario reason : String)
  | device (error : DeviceError)
  | panicked (message : String)
  deriving DecidableEq, Repr

namespace Fault

def isCancellation : Fault → Bool
  | .cancelled => true
  | _ => false

def message : Fault → String
  | .cancelled => "flow cancelled"
  | .deviceNotFound id => "device not found: " ++ id
  | .unsupported operation target => operation.name ++ " is not supported on " ++ target
  | .invalidArgument operation reason => "invalid argument for " ++ operation.name ++ ": " ++ reason
  | .thrown message => message
  | .emptyStation station => "station " ++ station ++ " holds no material"
  | .unknownScenario name => "unknown scenario: " ++ name
  | .scenarioUnavailable scenario reason => "scenario " ++ scenario ++ " unavailable: " ++ reason
  | .device error => error.message
  | .panicked message => "handler panicked: " ++ message

def code : Fault → String
  | .cancelled => "CANCELLED"
  | .deviceNotFound _ => "DEVICE_NOT_FOUND"
  | .unsupported _ _ => "UNSUPPORTED_OPERATION"
  | .invalidArgument _ _ => "INVALID_ARGUMENT"
  | .thrown _ => "THROWN"
  | .emptyStation _ => "EMPTY_STATION"
  | .unknownScenario _ => "UNKNOWN_SCENARIO"
  | .scenarioUnavailable _ _ => "SCENARIO_UNAVAILABLE"
  | .panicked _ => "PANICKED"
  | .device (.noRuntime _) => "NO_RUNTIME"
  | .device (.driverNotFound _) => "DRIVER_NOT_FOUND"
  | .device _ => "DEVICE_ERROR"

def source? : Fault → Option String
  | .deviceNotFound id => some id
  | .emptyStation station => some station
  | .unsupported _ target => some target
  | .device (.notFound id) => some id
  | .device (.noRuntime id) => some id
  | .device (.wrongKind id _) => some id
  | .device (.rejected id _) => some id
  | _ => none

end Fault

inductive Failure where
  | fault (fault : Fault)
  | panic (message : Option String)
  deriving DecidableEq, Repr

inductive Flaw (R : Type) where
  | missing (what : String)
  | notLiteral (what : String)
  | notFinite (what : String)
  | notBoolean (what : String)
  | notText (what : String)
  | unusableTarget (target : R)
  | negativeDelay
  | longDelay (ms : R)
  | unsetVariable (name : String)
  | noModel (axis : String)

def Flaw.message {R : Type} [Scalar R] : Flaw R → String
  | .missing what => "missing " ++ what
  | .notLiteral what => what ++ " must be a literal"
  | .notFinite what => what ++ " must be a finite number"
  | .notBoolean what => what ++ " must be a boolean"
  | .notText what => what ++ " must be text"
  | .unusableTarget target => "computed target " ++ Scalar.plain target ++ " is not finite"
  | .negativeDelay => "delay cannot be negative"
  | .longDelay ms => "delay of " ++ Scalar.plain ms ++ " ms is too long"
  | .unsetVariable name => "variable " ++ name ++ " is not set"
  | .noModel axis => "axis " ++ axis ++ " has no process-variable model"

def Fault.flawed {R : Type} [Scalar R] (operation : Operation) (flaw : Flaw R) : Fault :=
  .invalidArgument operation flaw.message

def Fault.ofPanic (payload : Option String) : Fault := .panicked (payload.getD "unknown panic")

end Workcell

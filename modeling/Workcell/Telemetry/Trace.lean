import Workcell.Telemetry.Stream

/-!
Step traces: when an attempt at a step begins and how it ends.
-/

set_option autoImplicit false

namespace Workcell

inductive TraceStatus where
  | running
  | completed
  | error (message : String)
  deriving DecidableEq, Repr

def TraceStatus.name : TraceStatus → String
  | .running => "Running"
  | .completed => "Completed"
  | .error _ => "Error"

structure Trace where
  name : String
  device : String
  status : TraceStatus
  attempt : Nat
  deriving DecidableEq, Repr

def Trace.capacity : Nat := 1024

end Workcell

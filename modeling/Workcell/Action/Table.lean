import Workcell.Action.Control
import Workcell.Action.Motion
import Workcell.Action.Stock
import Workcell.Action.Switching

/-!
The table of handlers: which handler carries out an operation on which kind of device, or on the system.
-/

set_option autoImplicit false

namespace Workcell

structure Port where
  operation : Operation
  target : Option DeviceKind
  deriving DecidableEq, Repr

structure HandlerTable (R : Type) where
  entries : List (Port × Handler R)

namespace HandlerTable

variable {R : Type}

def empty : HandlerTable R := ⟨[]⟩

def find? (table : HandlerTable R) (port : Port) : Option (Handler R) := table.entries.lookup port

def size (table : HandlerTable R) : Nat := table.entries.length

def register (table : HandlerTable R) (port : Port) (handler : Handler R) : HandlerTable R :=
  ⟨table.entries.filter (fun entry => !(entry.1 == port)) ++ [(port, handler)]⟩

def target? (cell : Cell R) (device : String) : Except Fault (Option DeviceKind) :=
  if device = systemName then .ok none
  else
    match cell.kind? device with
    | some kind => .ok (some kind)
    | none => .error (.deviceNotFound device)

def resolve (table : HandlerTable R) (cell : Cell R) (call : Call R) : Except Fault (Handler R) := do
  let target ← target? cell call.device
  match table.find? ⟨call.operation, target⟩ with
  | some handler => .ok handler
  | none => .error (.unsupported call.operation call.device)

variable [Scalar R]

def motions : List (Operation × Handler R) :=
  [(.moveTo, Action.Motion.moveTo), (.moveToAndWait, Action.Motion.moveToAndWait),
    (.moveUntil, Action.Motion.moveUntil), (.home, Action.Motion.home), (.stop, Action.Motion.stop),
    (.readAnalog, Action.Motion.readAnalog)]

def switchings : List (Operation × Handler R) :=
  [(.fire, Action.Switching.fire), (.fireAndWait, Action.Switching.fireAndWait),
    (.cylinderWaitFor, Action.Switching.waitFor), (.stop, Action.Switching.stop),
    (.readAnalog, Action.Switching.readAnalog)]

def services : List (Operation × Handler R) :=
  [(.delay, Action.Control.delay), (.throw, Action.Control.throw), (.noOp, Action.Control.noOp),
    (.readAnalog, Action.Control.readAnalog), (.checkLevel, Action.Control.checkLevel),
    (.setVariable, Action.Control.setVariable), (.spawn, Action.Stock.spawn),
    (.transform, Action.Stock.transform), (.consume, Action.Stock.consume), (.bind, Action.Stock.bind),
    (.unbind, Action.Stock.unbind), (.attach, Action.Stock.attach), (.detach, Action.Stock.detach)]

def on (target : Option DeviceKind) (handlers : List (Operation × Handler R)) : List (Port × Handler R) :=
  handlers.map fun entry => (⟨entry.1, target⟩, entry.2)

def standard : HandlerTable R :=
  ⟨on (some .axis) motions ++ on (some .cylinder) switchings ++ on (some .vacuum) switchings ++ on none services⟩

end HandlerTable

end Workcell

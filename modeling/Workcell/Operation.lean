/-!
Operations of actions: the closed list of what a device or the system can be asked to do.
-/

set_option autoImplicit false

namespace Workcell

inductive Operation where
  | moveTo
  | moveToAndWait
  | moveUntil
  | home
  | stop
  | fire
  | fireAndWait
  | cylinderWaitFor
  | readAnalog
  | checkLevel
  | setVariable
  | delay
  | throw
  | noOp
  | spawn
  | transform
  | consume
  | bind
  | unbind
  | attach
  | detach
  deriving DecidableEq, Repr

namespace Operation

def all : List Operation :=
  [.moveTo, .moveToAndWait, .moveUntil, .home, .stop, .fire, .fireAndWait, .cylinderWaitFor, .readAnalog,
    .checkLevel, .setVariable, .delay, .throw, .noOp, .spawn, .transform, .consume, .bind, .unbind, .attach,
    .detach]

def name : Operation → String
  | .moveTo => "MoveTo"
  | .moveToAndWait => "MoveToAndWait"
  | .moveUntil => "MoveUntil"
  | .home => "Home"
  | .stop => "Stop"
  | .fire => "Fire"
  | .fireAndWait => "FireAndWait"
  | .cylinderWaitFor => "CylinderWaitFor"
  | .readAnalog => "ReadAnalog"
  | .checkLevel => "CheckLevel"
  | .setVariable => "SetVariable"
  | .delay => "Delay"
  | .throw => "Throw"
  | .noOp => "NoOp"
  | .spawn => "Spawn"
  | .transform => "Transform"
  | .consume => "Consume"
  | .bind => "Bind"
  | .unbind => "Unbind"
  | .attach => "Attach"
  | .detach => "Detach"

def named? (s : String) : Option Operation := all.find? fun operation => operation.name == s

def unknownMessage (s : String) : String := "unknown operation: " ++ s

def index (operation : Operation) : Nat := all.findIdx fun other => other == operation

end Operation

end Workcell

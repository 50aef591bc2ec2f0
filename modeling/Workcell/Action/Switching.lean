import Workcell.Action.Call

/-!
What a cylinder or a vacuum effector can be asked to do.
-/

set_option autoImplicit false

namespace Workcell.Action.Switching

variable {R : Type} [Scalar R]

def command (call : Call R) : Act R (Nat × Bool) := do
  let (handle, actuator) ← findActuator call.device
  let on ← Act.ofExcept (call.flag 0 "state")
  let _ ← fireActuator handle actuator on
  pure (handle, on)

def awaitSettled (call : Call R) (handle : Nat) (on : Bool) : Act R (Reply R) :=
  Act.change fun cell => cell.awaitSettled handle on (call.bound cell)

def fire : Handler R := fun call => do
  let (_, on) ← command call
  Act.yield (.bool on)

def fireAndWait : Handler R := fun call => do
  let (handle, on) ← command call
  awaitSettled call handle on

def waitFor : Handler R := fun call => do
  let (handle, _) ← findActuator call.device
  let on ← Act.ofExcept (call.flag 0 "state")
  awaitSettled call handle on

def stop : Handler R := fun call => do
  let (handle, _) ← findActuator call.device
  Act.change fun cell =>
    let cell := cell.stopActuator handle
    (.value (cell.settledOn handle), cell)

def readAnalog : Handler R := fun call => do
  let (_, actuator) ← findActuator call.device
  Act.yield (.number actuator.state.position)

end Workcell.Action.Switching

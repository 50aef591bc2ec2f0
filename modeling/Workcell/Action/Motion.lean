import Workcell.Action.Call

/-!
What an axis can be asked to do.

The device is looked up first, then the arguments are read in order, then the axis is commanded; so a flawed call
moves nothing.
-/

set_option autoImplicit false

namespace Workcell.Action.Motion

variable {R : Type} [Scalar R]

def command (call : Call R) : Act R (Nat × R) := do
  let (handle, axis) ← findAxis call.device
  let target ← Act.ofExcept (call.target 0 axis.state.position)
  let speed ← Act.ofExcept (call.number? 1 "speed")
  let (target, _) ← moveAxis handle axis target speed
  pure (handle, target)

def awaitIdle (call : Call R) (handle : Nat) : Act R (Reply R) :=
  Act.change fun cell => cell.awaitIdle handle (call.bound cell)

def moveTo : Handler R := fun call => do
  let (_, target) ← command call
  Act.yield (.number target)

def moveToAndWait : Handler R := fun call => do
  let (handle, _) ← command call
  awaitIdle call handle

-- The breakdown of a deadline that has no name.
def deadlineMessage : String := "overflow when adding duration to instant"

def periodMessage : String := "\x60period\x60 must be non-zero."

def collapse (handle : Nat) (message : String) : Act R (Reply R) := do
  Act.tell fun cell => cell.stopAxis handle
  Act.panic message

def moveUntil : Handler R := fun call => do
  let (handle, axis) ← findAxis call.device
  let target ← Act.ofExcept (call.target 0 axis.state.position)
  let threshold ← Act.ofExcept (call.number 1 "threshold")
  let speed ← Act.ofExcept (call.number? 2 "speed")
  match axis.process? with
  | none => Act.ofExcept (call.refuse (.noModel axis.spec.id))
  | some _ =>
      let _ ← moveAxis handle axis target speed
      let cell ← get
      let bound := call.bound cell
      if Duration.beyond cell.now bound then collapse handle deadlineMessage
      else if cell.sampleTick = 0 then collapse handle periodMessage
      else Act.change fun cell => cell.lookProbe handle threshold (cell.instant + bound)

def home : Handler R := fun call => do
  let (handle, axis) ← findAxis call.device
  let _ ← homeAxis handle axis
  awaitIdle call handle

def stop : Handler R := fun call => do
  let (handle, axis) ← findAxis call.device
  Act.tell fun cell => cell.stopAxis handle
  Act.yield (.number axis.state.position)

def readAnalog : Handler R := fun call => do
  let (_, axis) ← findAxis call.device
  Act.yield (.number (axis.process?.getD axis.state.position))

end Workcell.Action.Motion

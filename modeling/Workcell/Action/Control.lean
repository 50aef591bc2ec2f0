import Workcell.Action.Call

/-!
What the system itself can be asked to do apart from materials: to wait, to fail, and to keep variables.
-/

set_option autoImplicit false

namespace Workcell.Action.Control

variable {R : Type} [Scalar R]

def span (call : Call R) : Except Fault Duration := do
  let ms ← call.number 0 "milliseconds"
  if ms < Scalar.zero then call.refuse .negativeDelay
  else call.need (.longDelay ms) (Scalar.nanoseconds (ms / Scalar.ofNat 1000))

def delay : Handler R := fun call => do
  let span ← Act.ofExcept (span call)
  Act.change fun cell => cell.awaitDelay span

def defaultThrow : String := "flow raised a fault"

def throw : Handler R := fun call => do
  let message ← Act.ofExcept (match call.args with
    | [] => .ok defaultThrow
    | _ :: _ => call.text 0 "message")
  Act.fail (.thrown message)

def noOp : Handler R := fun _ => Act.yield .unit

def readAnalog : Handler R := fun call => do
  let name ← Act.ofExcept (call.text 0 "variable")
  let cell ← get
  match cell.readVariable name with
  | some value => Act.yield value
  | none =>
      if 1 < call.args.length then
        let value ← Act.ofExcept (call.value 1 "default")
        Act.yield value
      else Act.ofExcept (call.refuse (.unsetVariable name))

def checkLevel : Handler R := fun call => do
  let value ← Act.ofExcept (call.value 0 "expected level")
  Act.yield value

def setVariable : Handler R := fun call => do
  let name ← Act.ofExcept (call.text 0 "name")
  let value ← Act.ofExcept (call.value 1 "value")
  Act.tell fun cell => cell.setVariable name value
  Act.yield value

end Workcell.Action.Control

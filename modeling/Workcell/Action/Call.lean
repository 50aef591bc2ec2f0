import Workcell.Cell.Wait

/-!
Calls: one action addressed to a device, and the reading of its arguments.
-/

set_option autoImplicit false

namespace Workcell

structure Call (R : Type) where
  device : String
  operation : Operation
  args : List (Arg R)
  timeout : Option Duration

abbrev Handler (R : Type) := Call R → Act R (Reply R)

namespace Call

variable {R : Type} [Scalar R] {A : Type}

def refuse (call : Call R) (flaw : Flaw R) : Except Fault A := .error (Fault.flawed call.operation flaw)

def need (call : Call R) (flaw : Flaw R) : Option A → Except Fault A
  | some a => .ok a
  | none => call.refuse flaw

def value (call : Call R) (index : Nat) (what : String) : Except Fault (Value R) :=
  match call.args[index]? with
  | some (.literal value) => .ok value
  | some (.position _) => call.refuse (.notLiteral what)
  | none => call.refuse (.missing what)

def number (call : Call R) (index : Nat) (what : String) : Except Fault R := do
  let value ← call.value index what
  call.need (.notFinite what) (value.asNumber?.filter Scalar.isFinite)

def number? (call : Call R) (index : Nat) (what : String) : Except Fault (Option R) :=
  match call.args[index]? with
  | none => .ok none
  | some (.literal .unit) => .ok none
  | some _ => (call.number index what).map some

def flag (call : Call R) (index : Nat) (what : String) : Except Fault Bool := do
  let value ← call.value index what
  call.need (.notBoolean what) value.asBool?

def text (call : Call R) (index : Nat) (what : String) : Except Fault String := do
  let value ← call.value index what
  call.need (.notText what) value.asText?

-- A target: a finite number, or one computed from the position at hand.
def target (call : Call R) (index : Nat) (position : R) : Except Fault R :=
  match call.args[index]? with
  | some (.position target) =>
      let target := target position
      if Scalar.isFinite target then .ok target else call.refuse (.unusableTarget target)
  | some (.literal _) => call.number index "target"
  | none => call.refuse (.missing "target")

omit [Scalar R] in
def bound (call : Call R) (cell : Cell R) : Duration := call.timeout.getD cell.waitBound

end Call

namespace Act

variable {R : Type}

def yield (value : Value R) : Act R (Reply R) := pure (.value value)

end Act

end Workcell

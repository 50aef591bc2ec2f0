import Workcell.Duration
import Workcell.Machine.Basic
import Workcell.Operation
import Workcell.Value

/-!
Flows: trees of steps.

A leaf asks one device, or the system, for one operation. A sequence builds its second step from the result of the
first, or breaks down over it, so the tree below it is known only while it runs. Building a step does nothing.
-/

set_option autoImplicit false

namespace Workcell

inductive ErrorMode where
  | terminate
  | retry
  | skip
  | askUser
  deriving DecidableEq, Repr

def ErrorMode.name : ErrorMode → String
  | .terminate => "Terminate"
  | .retry => "Retry"
  | .skip => "Skip"
  | .askUser => "AskUser"

def ErrorMode.named? : String → Option ErrorMode
  | "Terminate" => some .terminate
  | "Retry" => some .retry
  | "Skip" => some .skip
  | "AskUser" => some .askUser
  | _ => none

def ErrorMode.escalates : ErrorMode → Bool
  | .skip => true
  | .askUser => true
  | _ => false

structure Policy where
  retries : Nat
  timeout : Option Duration
  onError : ErrorMode
  deriving DecidableEq, Repr

def Policy.default : Policy := ⟨0, none, .terminate⟩

structure Label where
  name : String
  policy : Policy
  deriving DecidableEq, Repr

inductive Arg (R : Type) where
  | literal (value : Value R)
  | position (target : R → R)

inductive Step (R : Type) where
  | action (label : Label) (device : String) (operation : Operation) (args : List (Arg R))
  | sequence (label : Label) (first : Step R) (next : Value R → Except (Option String) (Step R))
      (select : Option (Value R → Value R → Value R))
  | map (label : Label) (source : Step R) (transform : Value R → Value R)
  | scope (label : Label) (inner : Step R)
  | parallel (label : Label) (steps : List (Step R))
  -- As often as `count` says, for ever when it is negative.
  | loop (label : Label) (inner : Step R) (count : Int)

namespace Step

variable {R : Type}

def label : Step R → Label
  | .action label .. => label
  | .sequence label .. => label
  | .map label .. => label
  | .scope label .. => label
  | .parallel label .. => label
  | .loop label .. => label

def relabel (change : Label → Label) : Step R → Step R
  | .action label device operation args => .action (change label) device operation args
  | .sequence label first next select => .sequence (change label) first next select
  | .map label source transform => .map (change label) source transform
  | .scope label inner => .scope (change label) inner
  | .parallel label steps => .parallel (change label) steps
  | .loop label inner count => .loop (change label) inner count

def name (step : Step R) : String := step.label.name

def policy (step : Step R) : Policy := step.label.policy

def device : Step R → String
  | .action _ device .. => device
  | _ => systemName

def shape : Step R → String
  | .action .. => "Action"
  | .sequence .. => "Sequence"
  | .map .. => "Map"
  | .scope .. => "Scope"
  | .parallel .. => "Parallel"
  | .loop .. => "Loop"

def named (name : String) (step : Step R) : Step R :=
  step.relabel fun label => ⟨name, label.policy⟩

def withPolicy (change : Policy → Policy) (step : Step R) : Step R :=
  step.relabel fun label => ⟨label.name, change label.policy⟩

def maxRetries : Nat := Nat.pow 2 32 - 1

-- Up to `n` more attempts, within the range of the counter; any at all makes the step a retried one.
def withRetry (n : Int) : Step R → Step R :=
  let retries := min n.toNat maxRetries
  withPolicy fun policy => ⟨retries, policy.timeout, if retries = 0 then policy.onError else .retry⟩

def withTimeout (timeout : Duration) : Step R → Step R :=
  withPolicy fun policy => ⟨policy.retries, some timeout, policy.onError⟩

def onError (mode : ErrorMode) : Step R → Step R :=
  withPolicy fun policy => ⟨policy.retries, policy.timeout, mode⟩

end Step

end Workcell

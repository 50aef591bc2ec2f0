import Workcell.Run.Resume

/-!
Tasks: a step to be run, from before its first turn on.
-/

set_option autoImplicit false

namespace Workcell

inductive Task (R : Type) where
  | fresh (step : Step R)
  | running (run : Run R)

namespace Task

variable {R : Type}

def leaves : Task R → List Leaf
  | .fresh _ => []
  | .running run => run.leaves

def touch (key : Nat) : Task R → Task R
  | .fresh step => .fresh step
  | .running run => .running (run.touch key)

variable [Scalar R]

def poll (handlers : HandlerTable R) : Task R → Poll R
  | .fresh step => step.start handlers
  | .running run => run.resume handlers

end Task

inductive Outcome (R : Type) where
  | value (value : Value R)
  | fault (fault : Fault)
  | panicked (message : Option String)

def Progress.outcome {R : Type} : Progress R → Except (Task R) (Outcome R)
  | .done value => .ok (.value value)
  | .fault reason => .ok (.fault reason)
  | .panicked message => .ok (.panicked message)
  | .pending run => .error (.running run)

end Workcell

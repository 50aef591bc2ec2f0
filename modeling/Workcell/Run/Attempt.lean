import Workcell.Run.Basic

/-!
Attempts at a step: traces, retries and escalation.

An attempt is traced when it begins and when it ends. One that fails is followed by another while the policy allows
it; after the last the host may be asked, and may have the step run again with all its attempts. A cancelled run
fails before its next attempt begins, and a cancelled attempt is never followed by another. The attempt counter has
32 bits.
-/

set_option autoImplicit false

namespace Workcell.Step

variable {R : Type}

def counterMessage : String := "attempt to add with overflow"

-- What follows from the outcome of an attempt: `again` is the next attempt, where one is allowed.
def settle (step : Step R) (number : Nat) (again : Option (Poll R)) (exhausted : Fault → Poll R) :
    Progress R → Poll R
  | .done value, cell => (.done value, cell.trace step .completed number)
  | .fault fault, cell =>
      let cell := cell.trace step (.error fault.message) number
      if fault.isCancellation then (.fault fault, cell)
      else
        match again with
        | some again => again cell
        | none => exhausted fault cell
  | .panicked message, cell => (.panicked message, cell)
  | .pending run, cell => (.pending (.attempt step number run), cell)

def attempt (step : Step R) (body : Poll R) (number : Nat) (again : Option (Poll R)) (exhausted : Fault → Poll R) :
    Poll R := fun cell =>
  if cell.cancelled then (.fault .cancelled, cell)
  else if maxRetries < number then (.panicked (some counterMessage), cell)
  else
    let (progress, cell) := body (cell.trace step .running number)
    step.settle number again exhausted progress cell

def tries (step : Step R) (body : Poll R) (exhausted : Nat → Fault → Poll R) : (left number : Nat) → Poll R
  | 0, number => step.attempt body number none (exhausted number)
  | left + 1, number => step.attempt body number (some (tries step body exhausted left (number + 1))) (exhausted number)

theorem tries_zero (step : Step R) (body : Poll R) (exhausted : Nat → Fault → Poll R) (number : Nat) :
    step.tries body exhausted 0 number = step.attempt body number none (exhausted number) := rfl

theorem tries_succ (step : Step R) (body : Poll R) (exhausted : Nat → Fault → Poll R) (left number : Nat) :
    step.tries body exhausted (left + 1) number =
      step.attempt body number (some (step.tries body exhausted left (number + 1))) (exhausted number) := rfl

def escalate (step : Step R) (again : Option (Poll R)) (number : Nat) (fault : Fault) : Poll R := fun cell =>
  if step.policy.onError.escalates then
    let (resolution, cell) := cell.appeal step fault
    match resolution with
    | .propagate => (.fault fault, cell)
    | .substitute value => (.done value, cell.trace step .completed number)
    | .retry =>
        match again with
        | some again => again cell
        | none => (.fault fault, cell)
  else (.fault fault, cell)

-- Rounds of attempts; the host, who can ask for one only with an answer of its script, may ask for `answers`.
def rounds (step : Step R) (body : Poll R) : (answers : Nat) → Poll R
  | 0 => step.tries body (step.escalate none) step.policy.retries 1
  | answers + 1 => step.tries body (step.escalate (some (step.rounds body answers))) step.policy.retries 1

def exhausted (step : Step R) (body : Poll R) (number : Nat) (fault : Fault) : Poll R := fun cell =>
  step.escalate (match cell.hook.script.length with
    | 0 => none
    | answers + 1 => some (step.rounds body answers)) number fault cell

def attempted (step : Step R) (body : Poll R) : Poll R := fun cell => step.rounds body cell.hook.script.length cell

def reattempted (step : Step R) (body : Poll R) (number : Nat) (progress : Progress R) : Poll R :=
  step.settle number
    (if number ≤ step.policy.retries then
      some (step.tries body (step.exhausted body) (step.policy.retries - number) (number + 1))
    else none)
    (step.exhausted body number) progress

end Workcell.Step

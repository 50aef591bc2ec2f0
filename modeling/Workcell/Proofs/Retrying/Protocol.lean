import Workcell.Proofs.Upkeep.Life

/-!
The protocol of a node: which attempts are made at it, when the host is asked, and what the node tells of it all.

Beside the protocol stands the diary of an execution: what the node does itself, in order, between the turns of what it
dispatches. The diary knows of no attempts and no rounds; it only says which cell each incident was met by, and which it
left.
-/

set_option autoImplicit false

namespace Workcell

variable {R : Type}

inductive Incident (R : Type) where
  | entry (status : TraceStatus) (attempt : Nat)
  | came (outcome : Except Fault (Value R))
  | asked (fault : Fault) (answer : Resolution R)

def Incident.outcome? : Incident R → Option (Except Fault (Value R))
  | .came outcome => some outcome
  | _ => none

def Incident.answer? : Incident R → Option (Resolution R)
  | .asked _ answer => some answer
  | _ => none

inductive Standing (R : Type) where
  | trying (attempt : Nat)
  | asking (fault : Fault)
  | ended (result : Except Fault (Value R))

def Incident.failed (attempt : Nat) (fault : Fault) : List (Incident R) :=
  [.entry .running attempt, .came (.error fault), .entry (.error fault.message) attempt]

-- What happens from an attempt on, when attempts come to these outcomes in turn and the host gives these answers.
def Policy.protocol (policy : Policy) : List (Except Fault (Value R)) → List (Resolution R) → (attempt : Nat) →
    List (Incident R) × Standing R
  | [], _, attempt => ([.entry .running attempt], .trying attempt)
  | .ok value :: _, _, attempt =>
      ([.entry .running attempt, .came (.ok value), .entry .completed attempt], .ended (.ok value))
  | .error fault :: outcomes, answers, attempt =>
      if fault.isCancellation then (Incident.failed attempt fault, .ended (.error fault))
      else if attempt ≤ policy.retries then
        let (later, standing) := policy.protocol outcomes answers (attempt + 1)
        (Incident.failed attempt fault ++ later, standing)
      else if policy.onError.escalates then
        match answers with
        | [] => (Incident.failed attempt fault, .asking fault)
        | .propagate :: _ => (Incident.failed attempt fault ++ [.asked fault .propagate], .ended (.error fault))
        | .substitute value :: _ =>
            (Incident.failed attempt fault ++
              [.asked fault (.substitute value), .entry .completed (policy.retries + 1)], .ended (.ok value))
        | .retry :: answers =>
            let (later, standing) := policy.protocol outcomes answers 1
            (Incident.failed attempt fault ++ .asked fault .retry :: later, standing)
      else (Incident.failed attempt fault, .ended (.error fault))

def Progress.came : Progress R → List (Incident R)
  | .done value => [.came (.ok value)]
  | .fault reason => [.came (.error reason)]
  | _ => []

def Progress.inside : Progress R → Option (Run R)
  | .pending run => some run
  | _ => none

variable [Scalar R]

-- The diary of a node: what has happened since the first cell, what is left of the dispatched step, and the cell that
-- it has all come to. Between two turns others change the cell, and wake places of the run.
inductive Step.Diary (handlers : HandlerTable R) (others : Cell R → Cell R → Prop) (step : Step R) (first : Cell R) :
    List (Incident R) → Option (Run R) → Cell R → Prop where
  | blank : Diary handlers others step first [] none first
  | entry {history cell} (before : Diary handlers others step first history none cell) (status : TraceStatus)
      (attempt : Nat) :
      Diary handlers others step first (history ++ [.entry status attempt]) none (cell.trace step status attempt)
  | dispatched {history cell progress after} (before : Diary handlers others step first history none cell)
      (turn : step.dispatch handlers cell = (progress, after)) :
      Diary handlers others step first (history ++ progress.came) progress.inside after
  | resumed {history run cell between progress after} (before : Diary handlers others step first history (some run) cell)
      (changed : others cell between) (keys : List Nat)
      (turn : (run.wake keys).resume handlers between = (progress, after)) :
      Diary handlers others step first (history ++ progress.came) progress.inside after
  | asked {history cell answer after} (before : Diary handlers others step first history none cell) (fault : Fault)
      (given : cell.appeal step fault = (answer, after)) :
      Diary handlers others step first (history ++ [.asked fault answer]) none after

-- What an execution shows that has come so far.
def Standing.Shows (step : Step R) (inside : Option (Run R)) (progress : Progress R) : Standing R → Prop
  | .trying attempt =>
      (∃ run, inside = some run ∧ progress = .pending (.attempt step attempt run)) ∨
        inside = none ∧ ∃ message, progress = .panicked message
  | .asking _ => False
  | .ended (.ok value) => inside = none ∧ progress = .done value
  | .ended (.error fault) => inside = none ∧ progress = .fault fault

end Workcell

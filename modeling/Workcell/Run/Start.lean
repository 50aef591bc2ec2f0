import Workcell.Action.Table
import Workcell.Run.Attempt
import Workcell.Run.Join

/-!
Beginning a step: what one attempt at it does, up to the first thing that it has to wait for.

An attempt at a step begins its parts with all their own attempts. The step that a sequence builds from its first
result is begun like any other.
-/

set_option autoImplicit false

namespace Workcell

variable {R : Type}

namespace Poll

def done (value : Value R) : Poll R := fun cell => (.done value, cell)

def broken (message : Option String) : Poll R := fun cell => (.panicked message, cell)

def ofAct (work : Act R (Reply R)) : Poll R := fun cell =>
  match work cell with
  | (.ok (.value value), cell) => (.done value, cell)
  | (.ok (.waiting wait), cell) =>
      let (key, cell) := cell.issue
      (.pending (.waiting key wait), cell)
  | (.error (.fault fault), cell) => (.fault fault, cell)
  | (.error (.panic message), cell) => (.panicked message, cell)

def perform (handlers : HandlerTable R) (call : Call R) : Poll R := fun cell =>
  match handlers.resolve cell call with
  | .ok handler => ofAct (handler call) cell
  | .error fault => (.fault fault, cell)

def select (poll : Poll R) (first : Value R) : Option (Value R → Value R → Value R) → Poll R
  | some select => poll.map (select first)
  | none => poll

def rest (inner : Step R) : Poll R := fun cell =>
  let (key, cell) := cell.issue
  (.pending (.resting key inner), cell.effect (.rest key))

def iterate (body : Poll R) (inner : Step R) (left : Option Nat) (next : Value R → Poll R) : Poll R := fun cell =>
  if cell.cancelled then (.fault .cancelled, cell)
  else body.bind (fun run => .repeated run inner left) next cell

def iterations (body : Poll R) (inner : Step R) : (left : Nat) → (last : Value R) → Poll R
  | 0, last => done last
  | left + 1, _ => iterate body inner (some left) (iterations body inner left)

def endless (body : Poll R) (inner : Step R) : Poll R := iterate body inner none fun _ => rest inner

def further (body : Poll R) (inner : Step R) : Option Nat → Value R → Poll R
  | some left, last => iterations body inner left last
  | none, _ => rest inner

end Poll

mutual
def Step.dispatch (handlers : HandlerTable R) : Step R → Poll R
  | .action label device operation args =>
      Poll.perform handlers ⟨device, operation, args, label.policy.timeout⟩
  | .sequence _ first next select =>
      (first.attempted (first.dispatch handlers)).bind (fun run => .bound run next select) fun value =>
        Poll.select (Step.follow handlers (next value)) value select
  | .map _ source transform => (source.attempted (source.dispatch handlers)).map transform
  | .scope _ inner => inner.attempted (inner.dispatch handlers)
  | .parallel _ steps => Poll.fork steps (Step.startAll handlers steps)
  | .loop _ inner count =>
      let body := inner.attempted (inner.dispatch handlers)
      if count < 0 then Poll.endless body inner else Poll.iterations body inner count.toNat .unit

-- The second part of a sequence, which may break down before it is a step at all.
def Step.follow (handlers : HandlerTable R) : Except (Option String) (Step R) → Poll R
  | .ok step => step.attempted (step.dispatch handlers)
  | .error message => Poll.broken message

def Step.startAll (handlers : HandlerTable R) : List (Step R) → List (Poll R)
  | [] => []
  | step :: rest => step.attempted (step.dispatch handlers) :: Step.startAll handlers rest
end

def Step.start (handlers : HandlerTable R) (step : Step R) : Poll R := step.attempted (step.dispatch handlers)

end Workcell

import Workcell.Run.Start

/-!
Going on with a run that was suspended.

An action looks at the end of the run first: a cancelled one gives its wait up and fails. An outcome inside an
attempt is settled as if the attempt had never been suspended.
-/

set_option autoImplicit false

namespace Workcell

variable {R : Type} [Scalar R]

def Poll.look (key : Nat) (wait : Wait R) : Poll R := fun cell =>
  if cell.cancelled then (.fault .cancelled, wait.abandon cell)
  else
    match cell.look wait with
    | (.value value, cell) => (.done value, cell)
    | (.waiting wait, cell) => (.pending (.waiting key wait), cell)

mutual
def Run.resume (handlers : HandlerTable R) : Run R → Poll R
  | .waiting key wait => Poll.look key wait
  | .attempt step number inside => fun cell =>
      let (progress, cell) := inside.resume handlers cell
      step.reattempted (step.dispatch handlers) number progress cell
  | .bound run next select =>
      (run.resume handlers).bind (fun run => .bound run next select) fun value =>
        Poll.select (Step.follow handlers (next value)) value select
  | .mapped run transform => (run.resume handlers).map transform
  | .joined key woken branches => Poll.join key woken branches (Run.resumeAll handlers branches)
  | .repeated run inner left =>
      (run.resume handlers).bind (fun run => .repeated run inner left)
        (Poll.further (inner.start handlers) inner left)
  | .resting _ inner => Poll.endless (inner.start handlers) inner

def Branch.resume (handlers : HandlerTable R) : Branch R → Poll R
  | .fresh step => step.start handlers
  | .running run => run.resume handlers
  | .ended value => Poll.done value
  | .failed fault => fun cell => (.fault fault, cell)

def Run.resumeAll (handlers : HandlerTable R) : List (Branch R) → List (Poll R)
  | [] => []
  | branch :: rest => branch.resume handlers :: Run.resumeAll handlers rest
end

end Workcell

import Workcell.Run.Task

/-!
Upkeep: claims about a cell that every turn of every run keeps up.

A claim may speak of the waits that are outstanding. Whoever has shown that each single act keeps the claim has it
for whole turns: the parts of a run are put together from polls, and every way of putting polls together keeps it.
-/

set_option autoImplicit false

namespace Workcell

variable {R : Type}

mutual
-- Every call made by a step, or by a step that it builds, is one that `ok` holds of.
def Step.Every (ok : Call R → Prop) : Step R → Prop
  | .action label device operation args => ok ⟨device, operation, args, label.policy.timeout⟩
  | .sequence _ first next _ => first.Every ok ∧ ∀ value, Step.EveryNext ok (next value)
  | .map _ source _ => source.Every ok
  | .scope _ inner => inner.Every ok
  | .parallel _ steps => Step.EveryOf ok steps
  | .loop _ inner _ => inner.Every ok

def Step.EveryNext (ok : Call R → Prop) : Except (Option String) (Step R) → Prop
  | .ok step => step.Every ok
  | .error _ => True

def Step.EveryOf (ok : Call R → Prop) : List (Step R) → Prop
  | [] => True
  | step :: rest => step.Every ok ∧ Step.EveryOf ok rest
end

mutual
theorem every_of_all (ok : Call R → Prop) (all : ∀ call, ok call) (step : Step R) : step.Every ok := by
  cases step with
  | action label device operation args => exact all _
  | sequence label first next select =>
      exact ⟨every_of_all ok all first, fun value => every_next_of_all ok all (next value)⟩
  | map label source transform => exact every_of_all ok all source
  | scope label inner => exact every_of_all ok all inner
  | parallel label steps => exact every_list_of_all ok all steps
  | loop label inner count => exact every_of_all ok all inner

theorem every_next_of_all (ok : Call R → Prop) (all : ∀ call, ok call) (next : Except (Option String) (Step R)) :
    Step.EveryNext ok next := by
  cases next with
  | ok step => exact every_of_all ok all step
  | error message => trivial

theorem every_list_of_all (ok : Call R → Prop) (all : ∀ call, ok call) (steps : List (Step R)) :
    Step.EveryOf ok steps := by
  cases steps with
  | nil => trivial
  | cons step rest => exact ⟨every_of_all ok all step, every_list_of_all ok all rest⟩
end

mutual
def Run.waits : Run R → List (Wait R)
  | .waiting _ wait => [wait]
  | .attempt _ _ inside => inside.waits
  | .bound run _ _ => run.waits
  | .mapped run _ => run.waits
  | .joined _ _ branches => Run.waitsOf branches
  | .repeated run _ _ => run.waits
  | .resting _ _ => []

def Branch.waits : Branch R → List (Wait R)
  | .running run => run.waits
  | _ => []

def Run.waitsOf : List (Branch R) → List (Wait R)
  | [] => []
  | branch :: rest => branch.waits ++ Run.waitsOf rest
end

namespace Branch

def isFresh : Branch R → Bool
  | .fresh _ => true
  | _ => false

def isFailed : Branch R → Bool
  | .failed _ => true
  | _ => false

-- Some branch is still running before any that has failed, so the join is neither over nor due to fail.
structure Unsettled (branches : List (Branch R)) : Prop where
  begun : ∀ branch ∈ branches, branch.isFresh = false
  notDue : due? branches = none
  notOver : values? branches = none
  few : branches.length ≤ few → ∀ branch ∈ branches, branch.isFailed = false

end Branch

mutual
-- What holds of a run between two turns; `blame` tells the faults that may be held back in it.
def Run.Fit (ok : Call R → Prop) (blame : Fault → Prop) : Run R → Prop
  | .waiting _ _ => True
  | .attempt step _ inside => step.Every ok ∧ inside.Fit ok blame
  | .bound run next _ => run.Fit ok blame ∧ ∀ value, Step.EveryNext ok (next value)
  | .mapped run _ => run.Fit ok blame
  | .joined _ woken branches => Run.FitAll ok blame branches ∧ Branch.Unsettled branches ∧ woken.Nodup
  | .repeated run inner _ => run.Fit ok blame ∧ inner.Every ok
  | .resting _ inner => inner.Every ok

def Branch.Fit (ok : Call R → Prop) (blame : Fault → Prop) : Branch R → Prop
  | .fresh step => step.Every ok
  | .running run => run.Fit ok blame
  | .ended _ => True
  | .failed fault => blame fault

def Run.FitAll (ok : Call R → Prop) (blame : Fault → Prop) : List (Branch R) → Prop
  | [] => True
  | branch :: rest => branch.Fit ok blame ∧ Run.FitAll ok blame rest
end

mutual
def Run.Every (ok : Call R → Prop) : Run R → Prop
  | .waiting _ _ => True
  | .attempt step _ inside => step.Every ok ∧ inside.Every ok
  | .bound run next _ => run.Every ok ∧ ∀ value, Step.EveryNext ok (next value)
  | .mapped run _ => run.Every ok
  | .joined _ _ branches => Run.EveryOf ok branches
  | .repeated run inner _ => run.Every ok ∧ inner.Every ok
  | .resting _ inner => inner.Every ok

def Branch.Every (ok : Call R → Prop) : Branch R → Prop
  | .fresh step => step.Every ok
  | .running run => run.Every ok
  | _ => True

def Run.EveryOf (ok : Call R → Prop) : List (Branch R) → Prop
  | [] => True
  | branch :: rest => branch.Every ok ∧ Run.EveryOf ok rest
end

mutual
theorem run_every_of_fit {ok : Call R → Prop} {blame : Fault → Prop} (run : Run R) (fit : run.Fit ok blame) :
    run.Every ok := by
  cases run with
  | waiting key wait => trivial
  | attempt step number inside => exact ⟨fit.1, run_every_of_fit inside fit.2⟩
  | bound run next select => exact ⟨run_every_of_fit run fit.1, fit.2⟩
  | mapped run transform => exact run_every_of_fit run fit
  | joined key woken branches => exact branches_every_of_fit branches fit.1
  | repeated run inner left => exact ⟨run_every_of_fit run fit.1, fit.2⟩
  | resting key inner => exact fit

theorem branch_every_of_fit {ok : Call R → Prop} {blame : Fault → Prop} (branch : Branch R)
    (fit : branch.Fit ok blame) : branch.Every ok := by
  cases branch with
  | fresh step => exact fit
  | running run => exact run_every_of_fit run fit
  | ended value => trivial
  | failed fault => trivial

theorem branches_every_of_fit {ok : Call R → Prop} {blame : Fault → Prop} (branches : List (Branch R))
    (fit : Run.FitAll ok blame branches) : Run.EveryOf ok branches := by
  cases branches with
  | nil => trivial
  | cons branch rest => exact ⟨branch_every_of_fit branch fit.1, branches_every_of_fit rest fit.2⟩
end

mutual
theorem run_every_of_all (ok : Call R → Prop) (all : ∀ call, ok call) (run : Run R) : run.Every ok := by
  cases run with
  | waiting key wait => trivial
  | attempt step number inside => exact ⟨every_of_all ok all step, run_every_of_all ok all inside⟩
  | bound run next select => exact ⟨run_every_of_all ok all run, fun value => every_next_of_all ok all (next value)⟩
  | mapped run transform => exact run_every_of_all ok all run
  | joined key woken branches => exact branches_every_of_all ok all branches
  | repeated run inner left => exact ⟨run_every_of_all ok all run, every_of_all ok all inner⟩
  | resting key inner => exact every_of_all ok all inner

theorem branch_every_of_all (ok : Call R → Prop) (all : ∀ call, ok call) (branch : Branch R) : branch.Every ok := by
  cases branch with
  | fresh step => exact every_of_all ok all step
  | running run => exact run_every_of_all ok all run
  | ended value => trivial
  | failed fault => trivial

theorem branches_every_of_all (ok : Call R → Prop) (all : ∀ call, ok call) (branches : List (Branch R)) :
    Run.EveryOf ok branches := by
  cases branches with
  | nil => trivial
  | cons branch rest => exact ⟨branch_every_of_all ok all branch, branches_every_of_all ok all rest⟩
end

def Reply.waits : Reply R → List (Wait R)
  | .value _ => []
  | .waiting wait => [wait]

section

variable [Scalar R]

-- A claim `holds` about a cell and the waits outstanding in it, kept up by all that a turn can do with calls that are
-- `ok`; the faults that come of it are to `blame`.
structure Upkeep (handlers : HandlerTable R) (ok : Call R → Prop) (blame : Fault → Prop)
    (holds : List (Wait R) → Cell R → Prop) : Prop where
  perm : ∀ {waits others cell}, waits.Perm others → holds waits cell → holds others cell
  trace : ∀ {waits cell}, holds waits cell → ∀ step status number, holds waits (cell.trace step status number)
  appeal : ∀ {waits cell}, holds waits cell → ∀ step fault, holds waits (cell.appeal step fault).2
  issue : ∀ {waits cell}, holds waits cell → holds waits cell.issue.2
  again : ∀ {waits cell}, holds waits cell → ∀ key, holds waits (cell.effect (.again key))
  rest : ∀ {waits cell}, holds waits cell → ∀ key, holds waits (cell.effect (.rest key))
  cancelled : ∀ {waits cell}, holds waits cell → cell.cancelled = true → blame .cancelled
  refused : ∀ {waits cell call fault}, holds waits cell → ok call → handlers.resolve cell call = .error fault →
    blame fault
  act : ∀ {waits cell call handler}, holds waits cell → ok call → handlers.resolve cell call = .ok handler →
    match handler call cell with
    | (.ok reply, after) => holds (reply.waits ++ waits) after
    | (.error (.fault fault), after) => holds waits after ∧ blame fault
    | (.error (.panic _), after) => holds waits after
  look : ∀ {waits cell wait}, holds (wait :: waits) cell → cell.cancelled = false →
    holds ((cell.look wait).1.waits ++ waits) (cell.look wait).2
  abandon : ∀ {waits cell wait}, holds (wait :: waits) cell → holds waits (wait.abandon cell)

end

namespace Upkeep

variable {ok : Call R → Prop} {blame : Fault → Prop} {holds : List (Wait R) → Cell R → Prop}

def After (ok : Call R → Prop) (blame : Fault → Prop) (holds : List (Wait R) → Cell R → Prop)
    (waits : List (Wait R)) : Progress R × Cell R → Prop
  | (.done _, cell) => holds waits cell
  | (.fault fault, cell) => holds waits cell ∧ blame fault
  | (.panicked _, cell) => holds waits cell
  | (.pending run, cell) => holds (run.waits ++ waits) cell ∧ run.Fit ok blame

def Keeps (ok : Call R → Prop) (blame : Fault → Prop) (holds : List (Wait R) → Cell R → Prop)
    (own : List (Wait R)) (poll : Poll R) : Prop :=
  ∀ waits cell, holds (own ++ waits) cell → After ok blame holds waits (poll cell)

theorem bind_keeps (own : List (Wait R)) (poll : Poll R) (hold : Run R → Run R) (next : Value R → Poll R)
    (first : Keeps ok blame holds own poll) (second : ∀ value, Keeps ok blame holds [] (next value))
    (sameWaits : ∀ run, (hold run).waits = run.waits)
    (stillFit : ∀ run, run.Fit ok blame → (hold run).Fit ok blame) :
    Keeps ok blame holds own (poll.bind hold next) := by
  intro waits cell held
  have turn := first waits cell held
  unfold Poll.bind
  rcases result : poll cell with ⟨progress, after⟩
  rw [result] at turn
  cases progress with
  | done value => exact second value waits after turn
  | fault fault => exact turn
  | panicked message => exact turn
  | pending run =>
      refine ⟨?_, stillFit run turn.2⟩
      rw [sameWaits run]
      exact turn.1

theorem map_keeps (own : List (Wait R)) (poll : Poll R) (transform : Value R → Value R)
    (keeps : Keeps ok blame holds own poll) : Keeps ok blame holds own (poll.map transform) := by
  refine bind_keeps own poll _ _ keeps ?_ (fun _ => rfl) ?_
  · intro value waits cell held
    exact held
  · intro run fit
    exact fit

theorem select_keeps (own : List (Wait R)) (poll : Poll R) (first : Value R)
    (select : Option (Value R → Value R → Value R)) (keeps : Keeps ok blame holds own poll) :
    Keeps ok blame holds own (poll.select first select) := by
  cases select with
  | none => exact keeps
  | some select => exact map_keeps own poll (select first) keeps

theorem broken_keeps (message : Option String) : Keeps ok blame holds [] (Poll.broken message) := by
  intro waits cell held
  exact held

theorem done_keeps (value : Value R) : Keeps ok blame holds [] (Poll.done value) := by
  intro waits cell held
  exact held

end Upkeep

end Workcell

import Workcell.Proofs.Upkeep.Touch

/-!
Renaming the nodes of a flow, and casting what is left of a run anew: its nodes get other names, its places other keys, and
its waits are changed. What a run looks like from outside is cast with it.
-/

set_option autoImplicit false

namespace Workcell

section

variable {R : Type}

mutual
def Step.renamed (rename : String → String → String) : Step R → Step R
  | .action label device operation args => .action ⟨rename "Action" label.name, label.policy⟩ device operation args
  | .sequence label first next select =>
      .sequence ⟨rename "Sequence" label.name, label.policy⟩ (first.renamed rename)
        (fun value => Step.renamedNext rename (next value)) select
  | .map label source transform => .map ⟨rename "Map" label.name, label.policy⟩ (source.renamed rename) transform
  | .scope label inner => .scope ⟨rename "Scope" label.name, label.policy⟩ (inner.renamed rename)
  | .parallel label steps => .parallel ⟨rename "Parallel" label.name, label.policy⟩ (Step.renamedAll rename steps)
  | .loop label inner count => .loop ⟨rename "Loop" label.name, label.policy⟩ (inner.renamed rename) count

def Step.renamedNext (rename : String → String → String) :
    Except (Option String) (Step R) → Except (Option String) (Step R)
  | .ok step => .ok (step.renamed rename)
  | .error message => .error message

def Step.renamedAll (rename : String → String → String) : List (Step R) → List (Step R)
  | [] => []
  | step :: rest => step.renamed rename :: Step.renamedAll rename rest
end

mutual
def Run.renamed (rename : String → String → String) : Run R → Run R
  | .waiting key wait => .waiting key wait
  | .attempt step number inside => .attempt (step.renamed rename) number (inside.renamed rename)
  | .bound run next select => .bound (run.renamed rename) (fun value => Step.renamedNext rename (next value)) select
  | .mapped run transform => .mapped (run.renamed rename) transform
  | .joined key woken branches => .joined key woken (Run.renamedAll rename branches)
  | .repeated run inner left => .repeated (run.renamed rename) (inner.renamed rename) left
  | .resting key inner => .resting key (inner.renamed rename)

def Branch.renamed (rename : String → String → String) : Branch R → Branch R
  | .fresh step => .fresh (step.renamed rename)
  | .running run => .running (run.renamed rename)
  | .ended value => .ended value
  | .failed fault => .failed fault

def Run.renamedAll (rename : String → String → String) : List (Branch R) → List (Branch R)
  | [] => []
  | branch :: rest => branch.renamed rename :: Run.renamedAll rename rest
end

def Progress.renamed (rename : String → String → String) : Progress R → Progress R
  | .done value => .done value
  | .fault reason => .fault reason
  | .panicked message => .panicked message
  | .pending run => .pending (run.renamed rename)

variable (rename : String → String → String)

namespace Step

@[simp]
theorem renamed_name (step : Step R) : (step.renamed rename).name = rename step.shape step.name := by
  cases step <;> simp [renamed, name, label, shape]

@[simp]
theorem renamed_policy (step : Step R) : (step.renamed rename).policy = step.policy := by
  cases step <;> simp [renamed, policy, label]

@[simp]
theorem renamed_device (step : Step R) : (step.renamed rename).device = step.device := by
  cases step <;> simp [renamed, device]

@[simp]
theorem renamed_all_length (steps : List (Step R)) : (renamedAll rename steps).length = steps.length := by
  induction steps with
  | nil => simp [renamedAll]
  | cons step rest ih => simp [renamedAll, ih]

end Step

mutual
theorem renamed_same (step : Step R) : step.renamed (fun _ name => name) = step := by
  cases step with
  | action label device operation args => simp [Step.renamed]
  | sequence label first next select =>
      have built : (fun value => Step.renamedNext (fun _ name => name) (next value)) = next :=
        funext fun value => renamed_next_same (next value)
      simp [Step.renamed, renamed_same first, built]
  | map label source transform => simp [Step.renamed, renamed_same source]
  | scope label inner => simp [Step.renamed, renamed_same inner]
  | parallel label steps => simp [Step.renamed, renamed_all_same steps]
  | loop label inner count => simp [Step.renamed, renamed_same inner]

theorem renamed_next_same (next : Except (Option String) (Step R)) :
    Step.renamedNext (fun _ name => name) next = next := by
  cases next with
  | ok step => simp [Step.renamedNext, renamed_same step]
  | error message => simp [Step.renamedNext]

theorem renamed_all_same (steps : List (Step R)) : Step.renamedAll (fun _ name => name) steps = steps := by
  cases steps with
  | nil => simp [Step.renamedAll]
  | cons step rest => simp [Step.renamedAll, renamed_same step, renamed_all_same rest]
end

mutual
theorem renamed_run_same (run : Run R) : run.renamed (fun _ name => name) = run := by
  cases run with
  | waiting key wait => simp [Run.renamed]
  | attempt step number inside => simp [Run.renamed, renamed_same, renamed_run_same inside]
  | bound run next select => simp [Run.renamed, renamed_next_same, renamed_run_same run]
  | mapped run transform => simp [Run.renamed, renamed_run_same run]
  | joined key woken branches => simp [Run.renamed, renamed_branches_same branches]
  | repeated run inner left => simp [Run.renamed, renamed_same, renamed_run_same run]
  | resting key inner => simp [Run.renamed, renamed_same]

theorem renamed_branch_same (branch : Branch R) : branch.renamed (fun _ name => name) = branch := by
  cases branch with
  | running run => simp [Branch.renamed, renamed_run_same run]
  | fresh step => simp [Branch.renamed, renamed_same]
  | ended value => simp [Branch.renamed]
  | failed fault => simp [Branch.renamed]

theorem renamed_branches_same (branches : List (Branch R)) : Run.renamedAll (fun _ name => name) branches = branches := by
  cases branches with
  | nil => simp [Run.renamedAll]
  | cons branch rest => simp [Run.renamedAll, renamed_branch_same branch, renamed_branches_same rest]
end

theorem renamed_progress_same (progress : Progress R) : progress.renamed (fun _ name => name) = progress := by
  cases progress <;> simp [Progress.renamed, renamed_run_same]

end

variable {R : Type}

-- How a run is cast anew.
structure Recast (R : Type) where
  name : String → String → String
  key : Nat → Nat
  wait : Wait R → Wait R

mutual
def Run.recast (cast : Recast R) : Run R → Run R
  | .waiting key wait => .waiting (cast.key key) (cast.wait wait)
  | .attempt step number inside => .attempt (step.renamed cast.name) number (inside.recast cast)
  | .bound run next select => .bound (run.recast cast) (fun value => Step.renamedNext cast.name (next value)) select
  | .mapped run transform => .mapped (run.recast cast) transform
  | .joined key woken branches => .joined (cast.key key) woken (Run.recastAll cast branches)
  | .repeated run inner left => .repeated (run.recast cast) (inner.renamed cast.name) left
  | .resting key inner => .resting (cast.key key) (inner.renamed cast.name)

def Branch.recast (cast : Recast R) : Branch R → Branch R
  | .fresh step => .fresh (step.renamed cast.name)
  | .running run => .running (run.recast cast)
  | .ended value => .ended value
  | .failed fault => .failed fault

def Run.recastAll (cast : Recast R) : List (Branch R) → List (Branch R)
  | [] => []
  | branch :: rest => branch.recast cast :: Run.recastAll cast rest
end

def Reply.recast (cast : Recast R) : Reply R → Reply R
  | .value given => .value given
  | .waiting wait => .waiting (cast.wait wait)

def Progress.recast (cast : Recast R) : Progress R → Progress R
  | .done value => .done value
  | .fault reason => .fault reason
  | .panicked message => .panicked message
  | .pending run => .pending (run.recast cast)

def Task.recast (cast : Recast R) : Task R → Task R
  | .fresh step => .fresh (step.renamed cast.name)
  | .running run => .running (run.recast cast)

variable (cast : Recast R)

theorem Run.recast_all_eq_map (branches : List (Branch R)) :
    Run.recastAll cast branches = branches.map (Branch.recast cast) := by
  induction branches with
  | nil => simp [recastAll]
  | cons branch rest ih => simp [recastAll, ih]

theorem Run.recast_all_fresh (steps : List (Step R)) :
    (Step.renamedAll cast.name steps).map Branch.fresh = (steps.map Branch.fresh).map (Branch.recast cast) := by
  induction steps with
  | nil => simp [Step.renamedAll]
  | cons step rest ih => simp [Step.renamedAll, Branch.recast, ih]

namespace Branch

@[simp]
theorem recast_is_open (branch : Branch R) : (branch.recast cast).isOpen = branch.isOpen := by
  cases branch <;> simp [recast, isOpen]

theorem recast_open_count (branches : List (Branch R)) :
    openCount (branches.map (recast cast)) = openCount branches := by
  induction branches with
  | nil => rfl
  | cons branch rest ih =>
      have same := recast_is_open cast branch
      simp only [openCount, List.map_cons, List.filter_cons, same] at ih ⊢
      split <;> simp [ih]

theorem recast_values (branches : List (Branch R)) : values? (branches.map (recast cast)) = values? branches := by
  induction branches with
  | nil => rfl
  | cons branch rest ih => cases branch <;> simp [recast, values?, ih]

theorem recast_due (branches : List (Branch R)) : due? (branches.map (recast cast)) = due? branches := by
  induction branches with
  | nil => rfl
  | cons branch rest ih => cases branch <;> simp [recast, due?, ih]

end Branch

def Leaf.recast (cast : Recast R) (moved : Timer → Timer) (leaf : Leaf) : Leaf :=
  ⟨cast.key leaf.key, leaf.timer.map moved, leaf.signals⟩

structure Recast.Times (cast : Recast R) (moved : Timer → Timer) : Prop where
  timer : ∀ wait, (cast.wait wait).timer = moved wait.timer
  signal : ∀ wait, (cast.wait wait).signal? = wait.signal?

def Recast.Apart (cast : Recast R) : Prop := ∀ one other, cast.key one = cast.key other → one = other

mutual
theorem recast_leaves {moved : Timer → Timer} (times : cast.Times moved) (run : Run R) :
    (run.recast cast).leaves = run.leaves.map (Leaf.recast cast moved) := by
  cases run with
  | waiting key wait => simp [Run.recast, Run.leaves, Leaf.ofWait, Leaf.recast, times.timer, times.signal]
  | attempt step number inside => simp [Run.recast, Run.leaves, recast_leaves times inside]
  | bound run next select => simp [Run.recast, Run.leaves, recast_leaves times run]
  | mapped run transform => simp [Run.recast, Run.leaves, recast_leaves times run]
  | joined key woken branches => simp [Run.recast, Run.leaves, recast_leaves_of times branches]
  | repeated run inner left => simp [Run.recast, Run.leaves, recast_leaves times run]
  | resting key inner => simp [Run.recast, Run.leaves]

theorem recast_branch_leaves {moved : Timer → Timer} (times : cast.Times moved) (branch : Branch R) :
    (branch.recast cast).leaves = branch.leaves.map (Leaf.recast cast moved) := by
  cases branch with
  | running run => simp [Branch.recast, Branch.leaves, recast_leaves times run]
  | fresh step => simp [Branch.recast, Branch.leaves]
  | ended value => simp [Branch.recast, Branch.leaves]
  | failed fault => simp [Branch.recast, Branch.leaves]

theorem recast_leaves_of {moved : Timer → Timer} (times : cast.Times moved) (branches : List (Branch R)) :
    Run.leavesOf (Run.recastAll cast branches) = (Run.leavesOf branches).map (Leaf.recast cast moved) := by
  cases branches with
  | nil => simp [Run.recastAll, Run.leavesOf]
  | cons branch rest =>
      simp [Run.recastAll, Run.leavesOf, recast_branch_leaves times branch, recast_leaves_of times rest]
end

theorem Recast.Apart.beq {cast : Recast R} (apart : cast.Apart) (one other : Nat) :
    (cast.key one == cast.key other) = (one == other) := by
  by_cases same : one = other
  · rw [same, beq_self_eq_true, beq_self_eq_true]
  · have differ : cast.key one ≠ cast.key other := fun equal => same (apart one other equal)
    rw [beq_eq_false_iff_ne.mpr same, beq_eq_false_iff_ne.mpr differ]

mutual
theorem recast_holds (apart : cast.Apart) (key : Nat) (run : Run R) :
    (run.recast cast).holds (cast.key key) = run.holds key := by
  cases run with
  | waiting own wait => simp only [Run.recast, Run.holds, apart.beq]
  | attempt step number inside => simp [Run.recast, Run.holds, recast_holds apart key inside]
  | bound run next select => simp [Run.recast, Run.holds, recast_holds apart key run]
  | mapped run transform => simp [Run.recast, Run.holds, recast_holds apart key run]
  | joined own woken branches =>
      simp only [Run.recast, Run.holds, apart.beq, recast_holders apart key 0 branches]
  | repeated run inner left => simp [Run.recast, Run.holds, recast_holds apart key run]
  | resting own inner => simp only [Run.recast, Run.holds, apart.beq]

theorem recast_branch_holds (apart : cast.Apart) (key : Nat) (branch : Branch R) :
    (branch.recast cast).holds (cast.key key) = branch.holds key := by
  cases branch with
  | running run => simp [Branch.recast, Branch.holds, recast_holds apart key run]
  | fresh step => simp [Branch.recast, Branch.holds]
  | ended value => simp [Branch.recast, Branch.holds]
  | failed fault => simp [Branch.recast, Branch.holds]

theorem recast_holders (apart : cast.Apart) (key index : Nat) (branches : List (Branch R)) :
    Run.holders (cast.key key) index (Run.recastAll cast branches) = Run.holders key index branches := by
  cases branches with
  | nil => simp [Run.recastAll, Run.holders]
  | cons branch rest =>
      simp [Run.recastAll, Run.holders, recast_branch_holds apart key branch, recast_holders apart key (index + 1) rest]
end

mutual
theorem touch_recast (apart : cast.Apart) (key : Nat) (run : Run R) :
    (run.recast cast).touch (cast.key key) = (run.touch key).recast cast := by
  cases run with
  | waiting own wait => simp [Run.recast, Run.touch]
  | attempt step number inside => simp [Run.recast, Run.touch, touch_recast apart key inside]
  | bound run next select => simp [Run.recast, Run.touch, touch_recast apart key run]
  | mapped run transform => simp [Run.recast, Run.touch, touch_recast apart key run]
  | joined own woken branches =>
      simp [Run.recast, Run.touch, recast_holders cast apart key 0 branches, touch_all_recast apart key branches]
  | repeated run inner left => simp [Run.recast, Run.touch, touch_recast apart key run]
  | resting own inner => simp [Run.recast, Run.touch]

theorem touch_branch_recast (apart : cast.Apart) (key : Nat) (branch : Branch R) :
    (branch.recast cast).touch (cast.key key) = (branch.touch key).recast cast := by
  cases branch with
  | running run => simp [Branch.recast, Branch.touch, touch_recast apart key run]
  | fresh step => simp [Branch.recast, Branch.touch]
  | ended value => simp [Branch.recast, Branch.touch]
  | failed fault => simp [Branch.recast, Branch.touch]

theorem touch_all_recast (apart : cast.Apart) (key : Nat) (branches : List (Branch R)) :
    Run.touchAll (cast.key key) (Run.recastAll cast branches) = Run.recastAll cast (Run.touchAll key branches) := by
  cases branches with
  | nil => simp [Run.recastAll, Run.touchAll]
  | cons branch rest =>
      simp [Run.recastAll, Run.touchAll, touch_branch_recast apart key branch, touch_all_recast apart key rest]
end

namespace Task

theorem recast_leaves {moved : Timer → Timer} (times : cast.Times moved) (task : Task R) :
    (task.recast cast).leaves = task.leaves.map (Leaf.recast cast moved) := by
  cases task with
  | fresh step => rfl
  | running run => exact Workcell.recast_leaves cast times run

theorem touch_recast (apart : cast.Apart) (key : Nat) (task : Task R) :
    (task.recast cast).touch (cast.key key) = (task.touch key).recast cast := by
  cases task with
  | fresh step => rfl
  | running run => exact congrArg Task.running (Workcell.touch_recast cast apart key run)

end Task

end Workcell

import Workcell.Proofs.Upkeep.Law

/-!
Waking places of a run changes neither what it waits for nor whether it is fit to go on.
-/

set_option autoImplicit false

namespace Workcell

variable {R : Type} {ok : Call R → Prop} {blame : Fault → Prop}

mutual
theorem touch_waits (key : Nat) (run : Run R) : (run.touch key).waits = run.waits := by
  cases run with
  | waiting own wait => rfl
  | attempt step number inside => exact touch_waits key inside
  | bound run next select => exact touch_waits key run
  | mapped run transform => exact touch_waits key run
  | joined own woken branches => exact touch_all_waits key branches
  | repeated run inner left => exact touch_waits key run
  | resting own inner => rfl

theorem touch_branch_waits (key : Nat) (branch : Branch R) : (branch.touch key).waits = branch.waits := by
  cases branch with
  | running run => exact touch_waits key run
  | fresh step => rfl
  | ended value => rfl
  | failed fault => rfl

theorem touch_all_waits (key : Nat) (branches : List (Branch R)) :
    Run.waitsOf (Run.touchAll key branches) = Run.waitsOf branches := by
  cases branches with
  | nil => rfl
  | cons branch rest =>
      rw [Run.touchAll, Run.waitsOf, Run.waitsOf, touch_branch_waits key branch, touch_all_waits key rest]
end

theorem enqueue_nodup (queue more : List Nat) (nodup : queue.Nodup) : (enqueue queue more).Nodup := by
  unfold enqueue
  induction more generalizing queue with
  | nil => exact nodup
  | cons entry rest ih =>
      apply ih
      dsimp only
      by_cases present : queue.contains entry = true
      · rwa [if_pos present]
      · rw [if_neg present]
        have absent : entry ∉ queue := by simpa using present
        exact List.nodup_append.mpr ⟨nodup, by simp, by
          intro other member last same
          simp only [List.mem_singleton] at same
          exact fun equal => absent (same ▸ equal ▸ member)⟩

theorem touch_all_length (key : Nat) (branches : List (Branch R)) :
    (Run.touchAll key branches).length = branches.length := by
  induction branches with
  | nil => rfl
  | cons branch rest ih => simp [Run.touchAll, ih]

theorem mem_touch_all (key : Nat) (branches : List (Branch R)) (branch : Branch R)
    (member : branch ∈ Run.touchAll key branches) : ∃ before ∈ branches, branch = before.touch key := by
  induction branches with
  | nil => cases member
  | cons head rest ih =>
      rcases List.mem_cons.mp member with rfl | inside
      · exact ⟨head, by simp, rfl⟩
      · obtain ⟨before, present, same⟩ := ih inside
        exact ⟨before, List.mem_cons_of_mem _ present, same⟩

theorem touch_keeps_due (key : Nat) (branches : List (Branch R)) :
    Branch.due? (Run.touchAll key branches) = Branch.due? branches := by
  induction branches with
  | nil => rfl
  | cons branch rest ih =>
      cases branch with
      | ended value => exact ih
      | failed fault => rfl
      | fresh step => rfl
      | running run => rfl

theorem touch_keeps_values (key : Nat) (branches : List (Branch R)) :
    Branch.values? (Run.touchAll key branches) = Branch.values? branches := by
  induction branches with
  | nil => rfl
  | cons branch rest ih =>
      cases branch with
      | ended value => exact congrArg (Option.map fun values => value :: values) ih
      | failed fault => rfl
      | fresh step => rfl
      | running run => rfl

theorem touch_branch_sort (key : Nat) (branch : Branch R) :
    (branch.touch key).isFresh = branch.isFresh ∧ (branch.touch key).isFailed = branch.isFailed := by
  cases branch with
  | running run => exact ⟨rfl, rfl⟩
  | fresh step => exact ⟨rfl, rfl⟩
  | ended value => exact ⟨rfl, rfl⟩
  | failed fault => exact ⟨rfl, rfl⟩

theorem touch_unsettled (key : Nat) (branches : List (Branch R)) (unsettled : Branch.Unsettled branches) :
    Branch.Unsettled (Run.touchAll key branches) := by
  refine ⟨?_, ?_, ?_, ?_⟩
  · intro branch member
    obtain ⟨before, present, rfl⟩ := mem_touch_all key branches branch member
    rw [(touch_branch_sort key before).1]
    exact unsettled.begun before present
  · rw [touch_keeps_due]
    exact unsettled.notDue
  · rw [touch_keeps_values]
    exact unsettled.notOver
  · intro isFew branch member
    obtain ⟨before, present, rfl⟩ := mem_touch_all key branches branch member
    rw [(touch_branch_sort key before).2]
    exact unsettled.few (touch_all_length key branches ▸ isFew) before present

mutual
theorem touch_fit (key : Nat) (run : Run R) (fit : run.Fit ok blame) : (run.touch key).Fit ok blame := by
  cases run with
  | waiting own wait => trivial
  | attempt step number inside => exact ⟨fit.1, touch_fit key inside fit.2⟩
  | bound run next select => exact ⟨touch_fit key run fit.1, fit.2⟩
  | mapped run transform => exact touch_fit key run fit
  | joined own woken branches =>
      exact ⟨touch_all_fit key branches fit.1, touch_unsettled key branches fit.2.1, enqueue_nodup _ _ fit.2.2⟩
  | repeated run inner left => exact ⟨touch_fit key run fit.1, fit.2⟩
  | resting own inner => exact fit

theorem touch_branch_fit (key : Nat) (branch : Branch R) (fit : branch.Fit ok blame) :
    (branch.touch key).Fit ok blame := by
  cases branch with
  | running run => exact touch_fit key run fit
  | fresh step => exact fit
  | ended value => exact fit
  | failed fault => exact fit

theorem touch_all_fit (key : Nat) (branches : List (Branch R)) (fit : Run.FitAll ok blame branches) :
    Run.FitAll ok blame (Run.touchAll key branches) := by
  cases branches with
  | nil => trivial
  | cons branch rest => exact ⟨touch_branch_fit key branch fit.1, touch_all_fit key rest fit.2⟩
end

def Run.wake (keys : List Nat) (run : Run R) : Run R := keys.foldl (fun run key => run.touch key) run

theorem wake_waits (keys : List Nat) (run : Run R) : (run.wake keys).waits = run.waits := by
  induction keys generalizing run with
  | nil => rfl
  | cons key rest ih => exact (ih (run.touch key)).trans (touch_waits key run)

theorem wake_fit (keys : List Nat) (run : Run R) (fit : run.Fit ok blame) : (run.wake keys).Fit ok blame := by
  induction keys generalizing run with
  | nil => exact fit
  | cons key rest ih => exact ih (run.touch key) (touch_fit key run fit)

end Workcell

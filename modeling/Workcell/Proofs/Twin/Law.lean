import Workcell.Proofs.Kin.Turn

/-!
Twins: two cells that differ in nothing that a turn looks at. Steps that differ in the names of their nodes do the same
in them, and leave twins behind. So twins are kindred, and what is left of a run is cast anew with other names only.
-/

set_option autoImplicit false

namespace Workcell

variable {R : Type}

def Recast.naming (rename : String → String → String) : Recast R := ⟨rename, id, id⟩

section

variable (rename : String → String → String)

@[simp]
theorem naming_name : (Recast.naming (R := R) rename).name = rename := rfl

@[simp]
theorem naming_key (key : Nat) : (Recast.naming (R := R) rename).key key = key := rfl

@[simp]
theorem naming_wait (wait : Wait R) : (Recast.naming rename).wait wait = wait := rfl

mutual
theorem recast_naming (run : Run R) : run.recast (.naming rename) = run.renamed rename := by
  cases run with
  | waiting key wait => simp [Run.recast, Run.renamed]
  | attempt step number inside => simp [Run.recast, Run.renamed, recast_naming inside]
  | bound run next select => simp [Run.recast, Run.renamed, recast_naming run]
  | mapped run transform => simp [Run.recast, Run.renamed, recast_naming run]
  | joined key woken branches => simp [Run.recast, Run.renamed, recast_all_naming branches]
  | repeated run inner left => simp [Run.recast, Run.renamed, recast_naming run]
  | resting key inner => simp [Run.recast, Run.renamed]

theorem recast_branch_naming (branch : Branch R) : branch.recast (.naming rename) = branch.renamed rename := by
  cases branch with
  | running run => simp [Branch.recast, Branch.renamed, recast_naming run]
  | fresh step => simp [Branch.recast, Branch.renamed]
  | ended value => simp [Branch.recast, Branch.renamed]
  | failed fault => simp [Branch.recast, Branch.renamed]

theorem recast_all_naming (branches : List (Branch R)) :
    Run.recastAll (.naming rename) branches = Run.renamedAll rename branches := by
  cases branches with
  | nil => simp [Run.recastAll, Run.renamedAll]
  | cons branch rest => simp [Run.recastAll, Run.renamedAll, recast_branch_naming branch, recast_all_naming rest]
end

theorem recast_progress_naming (progress : Progress R) : progress.recast (.naming rename) = progress.renamed rename := by
  cases progress with
  | pending run => exact congrArg Progress.pending (recast_naming rename run)
  | done value => rfl
  | fault fault => rfl
  | panicked message => rfl

theorem recast_reply_naming (reply : Reply R) : reply.recast (.naming rename) = reply := by
  cases reply with
  | value value => rfl
  | waiting wait => rfl

theorem renamed_leaves (run : Run R) : (run.renamed rename).leaves = run.leaves := by
  have times : (Recast.naming (R := R) rename).Times id := ⟨fun _ => rfl, fun _ => rfl⟩
  have same : ∀ leaf, Leaf.recast (Recast.naming (R := R) rename) id leaf = leaf := by
    intro leaf
    simp only [Leaf.recast, Recast.naming, Option.map_id_fun, id_eq]
  rw [← recast_naming, recast_leaves _ times, List.map_congr_left fun leaf _ => same leaf, List.map_id']

theorem wake_renamed (keys : List Nat) (run : Run R) :
    (run.renamed rename).wake keys = (run.wake keys).renamed rename := by
  have apart : (Recast.naming (R := R) rename).Apart := fun _ _ same => same
  induction keys generalizing run with
  | nil => rfl
  | cons key rest ih =>
      have touched := touch_recast _ apart key run
      rw [recast_naming, recast_naming] at touched
      simp only [Run.wake, List.foldl_cons] at ih ⊢
      rw [← ih (run.touch key), ← touched]
      rfl

end

variable [Scalar R]

-- A relation of cells that all acts of a turn keep, doing the same on both sides, while steps are renamed.
structure Twins (handlers : HandlerTable R) (rename : String → String → String) (twin : Cell R → Cell R → Prop) :
    Prop where
  cancelled : ∀ {cell other}, twin cell other → other.cancelled = cell.cancelled
  hook : ∀ {cell other}, twin cell other → other.hook = cell.hook
  trace : ∀ {cell other}, twin cell other → ∀ step status number,
    twin (cell.trace step status number) (other.trace (step.renamed rename) status number)
  appeal : ∀ {cell other}, twin cell other → ∀ step fault,
    twin (cell.appeal step fault).2 (other.appeal (step.renamed rename) fault).2
  issue : ∀ {cell other}, twin cell other → other.issued = cell.issued ∧ twin cell.issue.2 other.issue.2
  effect : ∀ {cell other}, twin cell other → ∀ asked, twin (cell.effect asked) (other.effect asked)
  resolve : ∀ {cell other}, twin cell other → ∀ call, handlers.resolve other call = handlers.resolve cell call
  act : ∀ {cell other}, twin cell other → ∀ call handler, handlers.resolve cell call = .ok handler →
    (handler call other).1 = (handler call cell).1 ∧ twin (handler call cell).2 (handler call other).2
  look : ∀ {cell other}, twin cell other → ∀ wait,
    (other.look wait).1 = (cell.look wait).1 ∧ twin (cell.look wait).2 (other.look wait).2
  abandon : ∀ {cell other}, twin cell other → ∀ wait : Wait R, twin (wait.abandon cell) (wait.abandon other)

def Poll.Twin (rename : String → String → String) (twin : Cell R → Cell R → Prop) (poll other : Poll R) : Prop :=
  ∀ cell copy, twin cell copy → (other copy).1 = (poll cell).1.renamed rename ∧ twin (poll cell).2 (other copy).2

variable {handlers : HandlerTable R} {rename : String → String → String} {twin : Cell R → Cell R → Prop}

omit [Scalar R] in
theorem twin_iff_kin {poll other : Poll R} :
    Poll.Twin rename twin poll other ↔ Poll.Kin (.naming rename) twin poll other := by
  simp only [Poll.Twin, Poll.Kin, recast_progress_naming]

omit [Scalar R] in
theorem Poll.Twin.map (poll other : Poll R) (transform : Value R → Value R) (same : Twin rename twin poll other) :
    Twin rename twin (poll.map transform) (other.map transform) :=
  twin_iff_kin.mpr (Kin.map poll other transform (twin_iff_kin.mp same))

theorem Twins.kindred (law : Twins handlers rename twin) :
    Kindred handlers (fun _ => True) (.naming rename) twin where
  cancelled := law.cancelled
  hook := law.hook
  trace := law.trace
  appeal := law.appeal
  issue := law.issue
  again := fun alike key => law.effect alike (.again key)
  rest := fun alike key => law.effect alike (.rest key)
  resolve := law.resolve
  act := by
    intro cell other alike call handler _ resolved
    obtain ⟨same, after⟩ := law.act alike call handler resolved
    refine ⟨?_, after⟩
    rw [same, funext (recast_reply_naming rename)]
    cases (handler call cell).1 <;> rfl
  look := by
    intro cell other alike wait
    rw [recast_reply_naming]
    exact law.look alike wait
  abandon := law.abandon

theorem dispatch_twin (law : Twins handlers rename twin) (step : Step R) :
    Poll.Twin rename twin (step.dispatch handlers) ((step.renamed rename).dispatch handlers) :=
  twin_iff_kin.mpr (dispatch_kin law.kindred step (every_of_all _ (fun _ => trivial) step))

theorem follow_twin (law : Twins handlers rename twin) (next : Except (Option String) (Step R)) :
    Poll.Twin rename twin (Step.follow handlers next) (Step.follow handlers (Step.renamedNext rename next)) :=
  twin_iff_kin.mpr (follow_kin law.kindred next (every_next_of_all _ (fun _ => trivial) next))

theorem start_twin (law : Twins handlers rename twin) (step : Step R) :
    Poll.Twin rename twin (step.start handlers) ((step.renamed rename).start handlers) :=
  twin_iff_kin.mpr (start_kin law.kindred step (every_of_all _ (fun _ => trivial) step))

theorem resume_twin (law : Twins handlers rename twin) (run : Run R) :
    Poll.Twin rename twin (run.resume handlers) ((run.renamed rename).resume handlers) := by
  have turn := resume_kin law.kindred run (run_every_of_all _ (fun _ => trivial) run)
  rw [recast_naming] at turn
  exact twin_iff_kin.mpr turn

end Workcell

import Workcell.Proofs.Upkeep.Touch
import Workcell.Proofs.Upkeep.Turn

/-!
Whole lives of runs: turn after turn, with others at work on the cell and waking places of the run in between.
-/

set_option autoImplicit false

namespace Workcell

variable {R : Type} {ok : Call R → Prop} {blame : Fault → Prop}

variable [Scalar R] {handlers : HandlerTable R} {holds : List (Wait R) → Cell R → Prop}

namespace Upkeep

mutual
theorem resume_keeps (law : Upkeep handlers ok blame holds) (run : Run R) (fit : run.Fit ok blame) :
    Keeps ok blame holds run.waits (run.resume handlers) := by
  cases run with
  | waiting key wait => exact look_keeps law key wait
  | attempt step number inside =>
      intro waits cell held
      have turn := resume_keeps law inside fit.2 waits cell held
      exact reattempted_keeps law step fit.1 _ (dispatch_keeps law step fit.1) number waits _ _ turn
  | bound run next select =>
      rw [Run.resume]
      refine bind_keeps run.waits _ (fun run => .bound run next select) _ (resume_keeps law run fit.1) ?_ (fun _ => rfl)
        (fun _ still => ⟨still, fit.2⟩)
      intro value
      exact select_keeps [] _ value select (follow_keeps law (next value) (fit.2 value))
  | mapped run transform =>
      rw [Run.resume]
      exact map_keeps run.waits _ transform (resume_keeps law run fit)
  | joined key woken branches =>
      rw [Run.resume]
      refine join_keeps law key woken branches _ fit.2.2 (resume_all_length handlers branches) ?_ fit.1
        fit.2.1.notDue fit.2.1.few (Or.inl fit.2.1.begun)
      intro index branch poll found polled _
      exact resume_all_keeps law branches fit.1 index branch poll found polled
  | repeated run inner left =>
      rw [Run.resume]
      exact bind_keeps run.waits _ (fun run => .repeated run inner left) _ (resume_keeps law run fit.1)
        (further_keeps law _ inner fit.2 (start_keeps law inner fit.2) left) (fun _ => rfl) (fun _ still => ⟨still, fit.2⟩)
  | resting key inner =>
      rw [Run.resume]
      exact endless_keeps law _ inner fit (start_keeps law inner fit)

theorem resume_branch_keeps (law : Upkeep handlers ok blame holds) (branch : Branch R) (fit : branch.Fit ok blame) :
    Keeps ok blame holds branch.waits (branch.resume handlers) := by
  cases branch with
  | running run => exact resume_keeps law run fit
  | fresh step => exact start_keeps law step fit
  | ended value => exact done_keeps value
  | failed fault =>
      intro waits cell held
      exact ⟨held, fit⟩

theorem resume_all_keeps (law : Upkeep handlers ok blame holds) (branches : List (Branch R))
    (fit : Run.FitAll ok blame branches) (index : Nat) (branch : Branch R) (poll : Poll R)
    (found : branches[index]? = some branch) (polled : (Run.resumeAll handlers branches)[index]? = some poll) :
    Keeps ok blame holds branch.waits poll := by
  cases branches with
  | nil => cases found
  | cons head rest =>
      cases index with
      | zero =>
          cases found
          cases polled
          exact resume_branch_keeps law branch fit.1
      | succ index => exact resume_all_keeps law rest fit.2 index branch poll found polled
end

end Upkeep

def Task.Makes (ok : Call R → Prop) : Task R → Prop
  | .fresh step => step.Every ok
  | .running run => run.Fit ok fun _ => True

namespace Task.Makes

omit [Scalar R] in
theorem touch {task : Task R} (makes : task.Makes ok) (key : Nat) : (task.touch key).Makes ok := by
  cases task with
  | fresh step => exact makes
  | running run => exact touch_fit key run makes

-- Nothing has to be asked of handlers for a task to make no other calls.
theorem any_law (handlers : HandlerTable R) (ok : Call R → Prop) : Upkeep handlers ok (fun _ => True) fun _ _ => True where
  perm _ _ := trivial
  trace _ _ _ _ := trivial
  appeal _ _ _ := trivial
  issue _ := trivial
  again _ _ := trivial
  rest _ _ := trivial
  cancelled _ _ := trivial
  refused _ _ _ := trivial
  act := by
    intro waits cell call handler _ _ _
    split
    · trivial
    · exact ⟨trivial, trivial⟩
    · trivial
  look _ _ := trivial
  abandon _ := trivial

theorem left {task next : Task R} (makes : task.Makes ok) (handlers : HandlerTable R) (cell : Cell R)
    (goesOn : (task.poll handlers cell).1.outcome = .error next) : next.Makes ok := by
  have turn : Upkeep.After ok (fun _ => True) (fun _ _ => True) [] (task.poll handlers cell) := by
    cases task with
    | fresh step => exact Upkeep.start_keeps (any_law handlers ok) step makes [] cell trivial
    | running run => exact Upkeep.resume_keeps (any_law handlers ok) run makes [] cell trivial
  rcases result : task.poll handlers cell with ⟨progress, after⟩
  rw [result] at turn goesOn
  cases progress with
  | pending run =>
      cases goesOn
      exact turn.2
  | done value => cases goesOn
  | fault fault => cases goesOn
  | panicked message => cases goesOn

end Task.Makes

def Task.wake (keys : List Nat) : Task R → Task R
  | .fresh step => .fresh step
  | .running run => .running (run.wake keys)

-- What a task has come to in the last of its turns: before a turn places of it are woken, and between two turns
-- `others` change the cell. The list tells all the keys that have been woken.
inductive Life (handlers : HandlerTable R) (others : Cell R → Cell R → Prop) (task : Task R) (cell : Cell R) :
    List Nat → Progress R → Cell R → Prop where
  | first {progress after} (keys : List Nat) (turn : (task.wake keys).poll handlers cell = (progress, after)) :
      Life handlers others task cell keys progress after
  | next {woken run before between progress after} (keys : List Nat)
      (earlier : Life handlers others task cell woken (.pending run) before) (changed : others before between)
      (turn : (Task.running (run.wake keys)).poll handlers between = (progress, after)) :
      Life handlers others task cell (woken ++ keys) progress after

theorem Life.trans (others : Cell R → Cell R → Prop) (task : Task R) (cell before between after : Cell R) (run : Run R)
    (progress : Progress R) (woken more : List Nat) (earlier : Life handlers others task cell woken (.pending run) before)
    (changed : others before between) (later : Life handlers others (.running run) between more progress after) :
    Life handlers others task cell (woken ++ more) progress after := by
  induction later with
  | first keys turn => exact .next keys earlier changed turn
  | next keys _ changes turn ih =>
      rw [← List.append_assoc]
      exact .next keys ih changes turn

-- A claim that the others keep up too holds over the whole life of a step.
theorem Upkeep.life_keeps (law : Upkeep handlers ok blame holds) (others : Cell R → Cell R → Prop)
    (outside : ∀ waits before after, others before after → holds waits before → holds waits after)
    (step : Step R) (every : step.Every ok) (cell : Cell R) (held : holds [] cell) (woken : List Nat)
    (progress : Progress R) (after : Cell R) (life : Life handlers others (.fresh step) cell woken progress after) :
    Upkeep.After ok blame holds [] (progress, after) := by
  induction life with
  | first keys turn =>
      have kept := start_keeps law step every [] cell held
      exact (show step.start handlers cell = _ from turn) ▸ kept
  | next keys earlier changed turn ih =>
      rename_i woken run before between progress after
      obtain ⟨heldBefore, fit⟩ := ih
      have heldBetween := outside _ before between changed heldBefore
      rw [← wake_waits keys run] at heldBetween
      have kept := resume_keeps law (run.wake keys) (wake_fit keys run fit) [] between heldBetween
      exact (show (run.wake keys).resume handlers between = _ from turn) ▸ kept

def Step.twoTurns (handlers : HandlerTable R) (change : Cell R → Cell R) (step : Step R) (cell : Cell R) :
    Progress R × Cell R :=
  match step.start handlers cell with
  | (.pending run, after) => run.resume handlers (change after)
  | ended => ended

theorem life_of_two_turns (table : HandlerTable R) (others : Cell R → Cell R → Prop) (change : Cell R → Cell R)
    (allowed : ∀ cell, others cell (change cell)) (step : Step R) (cell : Cell R) :
    Life table others (.fresh step) cell [] (step.twoTurns table change cell).1
      (step.twoTurns table change cell).2 := by
  rcases result : step.start table cell with ⟨progress, after⟩
  have first : Life table others (.fresh step) cell [] progress after := .first [] result
  simp only [Step.twoTurns, result]
  cases progress with
  | done value => exact first
  | fault fault => exact first
  | panicked message => exact first
  | pending run => exact .next [] first (allowed after) rfl

def Progress.isPending : Progress R → Bool
  | .pending _ => true
  | _ => false

def Progress.fault? : Progress R → Option Fault
  | .fault reason => some reason
  | _ => none

end Workcell

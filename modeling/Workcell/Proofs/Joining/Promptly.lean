import Workcell.Proofs.Joining.AllOrNothing

/-!
The first fault of branches side by side, and when it ends the node.

A few branches end with the first turn that fails. Of many a fault is noticed only once every branch before it has
returned a value.
-/

set_option autoImplicit false

namespace Workcell

variable {R : Type}

namespace Cell

theorem stop_axis_quiet (cell : Cell R) (handle : Nat) :
    (cell.stopAxis handle).now = cell.now ∧ (cell.stopAxis handle).traces = cell.traces := by
  unfold stopAxis
  split
  · unfold putAxis
    split
    · exact ⟨rfl, rfl⟩
    · exact ⟨rfl, rfl⟩
  · exact ⟨rfl, rfl⟩

theorem stop_actuator_quiet (cell : Cell R) (handle : Nat) :
    (cell.stopActuator handle).now = cell.now ∧ (cell.stopActuator handle).traces = cell.traces := by
  unfold stopActuator
  split
  · unfold putActuator
    split
    · exact ⟨rfl, rfl⟩
    · exact ⟨rfl, rfl⟩
  · exact ⟨rfl, rfl⟩

-- Giving waits up takes no time and leaves no trace.
theorem give_up_quiet (waits : List (Wait R)) (cell : Cell R) :
    (cell.giveUp waits).now = cell.now ∧ (cell.giveUp waits).traces = cell.traces := by
  induction waits generalizing cell with
  | nil => exact ⟨rfl, rfl⟩
  | cons wait rest ih =>
      have first : (wait.abandon cell).now = cell.now ∧ (wait.abandon cell).traces = cell.traces := by
        cases wait with
        | delay timer => exact ⟨rfl, rfl⟩
        | idle axis timer => exact cell.stop_axis_quiet axis
        | settled actuator on timer => exact cell.stop_actuator_quiet actuator
        | probe axis threshold deadline timer => exact cell.stop_axis_quiet axis
      have later := ih (wait.abandon cell)
      exact ⟨later.1.trans first.1, later.2.trans first.2⟩

end Cell

namespace Branch

theorem due_of_failed (branches : List (Branch R)) (index : Nat) (fault : Fault)
    (failed : branches[index]? = some (.failed fault))
    (before : ∀ place < index, ∃ value, branches[place]? = some (.ended value)) : due? branches = some fault := by
  induction branches generalizing index with
  | nil => cases failed
  | cons branch rest ih =>
      cases index with
      | zero =>
          cases failed
          rfl
      | succ index =>
          obtain ⟨value, ended⟩ := before 0 (Nat.succ_pos index)
          cases ended
          exact ih index failed fun place below => before (place + 1) (Nat.succ_lt_succ below)

theorem undecided_append (branches between : List (Branch R)) (log more : List (Turn R))
    (first : Undecided branches log) (tally : Tally 0 branches between log) (notDue : due? between = none)
    (second : Undecided between more) : Undecided branches (log ++ more) := by
  intro front back split left
  rcases List.append_eq_append_iff.mp split with ⟨part, rfl, rest⟩ | ⟨part, whole, rfl⟩
  · obtain ⟨new, told, due⟩ := second part back rest left
    exact ⟨new, tally.trans told, due⟩
  · cases part with
    | nil =>
        rw [List.append_nil] at whole
        exact ⟨between, whole ▸ tally, notDue⟩
    | cons turn part => exact first front (turn :: part) whole (by simp)

theorem last_of_fine {A : Type} (fine : A → Prop) (earlier later front : List A) (item last : A)
    (split : earlier ++ item :: later = front ++ [last]) (all : ∀ a ∈ front, fine a) (bad : ¬fine item) :
    later = [] ∧ item = last := by
  rcases List.append_eq_append_iff.mp split with ⟨part, rfl, rest⟩ | ⟨part, whole, rest⟩
  · cases part with
    | nil =>
        cases rest
        exact ⟨rfl, rfl⟩
    | cons first part =>
        obtain ⟨rfl, -⟩ := List.cons.inj rest
        exact absurd (all item (by simp)) bad
  · cases part with
    | nil =>
        cases rest
        exact ⟨rfl, rfl⟩
    | cons first part =>
        have short := congrArg List.length rest
        simp at short

end Branch

variable [Scalar R]

namespace Together

variable {handlers : HandlerTable R} {others : Cell R → Cell R → Prop} {label : Label} {steps : List (Step R)}
  {cell after : Cell R} {log : List (Branch.Turn R)} {progress : Progress R}

open Branch (Turn)

theorem undecided (together : Together handlers others label steps cell log progress after)
    (many : ¬steps.length ≤ Branch.few) : Branch.Undecided (steps.map .fresh) log := by
  induction together with
  | first turn =>
      rw [Poll.turns, if_neg (by rwa [List.length_map])]
      exact Branch.undecided_in_waking_order
        (Poll.in_waking_order_course cell.issue.1 _ _ ⟨steps.map .fresh, [], 0, _⟩ cell.issue.2) (Branch.due_fresh steps)
  | next keys earlier changed turn ih =>
      rename_i log run before between progress after
      obtain ⟨key, woken, branches, rfl, tally, -, -, notDue⟩ := earlier.ends
      rw [List.length_map] at notDue
      obtain ⟨queue, touched, same, kept, due⟩ := Branch.wake_joined keys key woken branches
      have whole : Branch.Tally 0 (steps.map .fresh) touched log := by
        have joined := tally.trans kept
        rwa [List.append_nil] at joined
      have undue : Branch.due? touched = none := due.trans (notDue many)
      refine Branch.undecided_append _ touched log _ ih whole undue ?_
      have manyTouched : ¬touched.length ≤ Branch.few := by rwa [whole.length, List.length_map]
      rw [same, Run.turns, Poll.turns, if_neg manyTouched]
      exact Branch.undecided_in_waking_order
        (Poll.in_waking_order_course key _ _ ⟨touched, [], 0, _⟩ between) undue

theorem no_fault_of_done (together : Together handlers others label steps cell log progress after) (value : Value R)
    (done : progress = .done value) (turn : Turn R) (member : turn ∈ log) (fault : Fault)
    (failed : turn.progress = .fault fault) : False := by
  subst done
  obtain ⟨new, values, tally, isOver, -⟩ := together.ends
  obtain ⟨-, found, -⟩ := Branch.returned_failed steps new log tally turn member fault failed
  rw [Branch.ended_of_values new values isOver] at found
  simp at found

variable {earlier later : List (Turn R)} {turn : Turn R} {fault : Fault}

theorem few_end_with (together : Together handlers others label steps cell (earlier ++ turn :: later) progress after)
    (failed : turn.progress = .fault fault) (isFew : steps.length ≤ Branch.few) :
    later = [] ∧ progress = .fault fault := by
  have member : turn ∈ earlier ++ turn :: later := by simp
  -- All turns but the last are fine, so a turn that fails is the last.
  have fails : ¬turn.progress.fails = false := by
    rw [failed]
    simp [Progress.fails]
  have ends := together.ends
  cases progress with
  | done value => exact (together.no_fault_of_done value rfl turn member fault failed).elim
  | pending run =>
      obtain ⟨-, -, -, -, -, -, fine, -⟩ := ends
      rw [List.length_map] at fine
      exact absurd (fine isFew turn member) fails
  | panicked message =>
      obtain ⟨front, last, -, ⟨split, -⟩, -, fine, -, panicked, -⟩ := ends
      rw [List.length_map] at fine
      obtain ⟨-, rfl⟩ := Branch.last_of_fine _ earlier later front turn last split (fine isFew) fails
      exact absurd (panicked.symm.trans failed) (by simp)
  | fault other =>
      obtain ⟨front, last, -, ⟨split, -⟩, -, first, -⟩ := ends
      rw [List.length_map] at first
      obtain ⟨none, rfl⟩ := Branch.last_of_fine _ earlier later front turn last split (first isFew).1 fails
      exact ⟨none, (first isFew).2.symm.trans failed⟩

omit [Scalar R] in
-- Once all branches before it have returned values, the fault of a branch is due.
theorem due_after (new : List (Branch R)) (tally : Branch.Tally 0 (steps.map .fresh) new (earlier ++ [turn]))
    (failed : turn.progress = .fault fault)
    (before : ∀ place < turn.index, ∃ value, Turn.returned earlier place = [.done value]) :
    Branch.due? new = some fault := by
  have last : turn ∈ earlier ++ [turn] := by simp
  obtain ⟨-, found, -⟩ := Branch.returned_failed steps new _ tally turn last fault failed
  refine Branch.due_of_failed new turn.index fault found fun place below => ?_
  obtain ⟨value, returned⟩ := before place below
  have present : place < new.length := Nat.lt_trans below (List.getElem?_eq_some_iff.mp found).1
  have there : new[place]? = some new[place] := List.getElem?_eq_getElem present
  have told := tally.of_fresh steps new _ place _ there
  rw [Turn.returned_append, returned, Turn.returned_other turn [] place (Nat.ne_of_gt below), Turn.returned_nil] at told
  generalize new[place] = branch at there told
  cases branch with
  | ended other => exact ⟨other, there⟩
  | failed other => simp [Branch.returns] at told
  | fresh step => simp [Branch.returns] at told
  | running run => simp [Branch.returns] at told

theorem many_end_with (together : Together handlers others label steps cell (earlier ++ turn :: later) progress after)
    (failed : turn.progress = .fault fault) (isMany : ¬steps.length ≤ Branch.few)
    (before : ∀ place < turn.index, ∃ value, Turn.returned earlier place = [.done value]) :
    later = [] ∧ progress = .fault fault := by
  -- Had there been a later turn, no fault would have been due after this one.
  have none : later = [] := by
    by_contra more
    obtain ⟨new, tally, undue⟩ := together.undecided isMany (earlier ++ [turn]) later (by simp) more
    rw [due_after new tally failed before] at undue
    cases undue
  subst none
  have ends := together.ends
  cases progress with
  | done value => exact (together.no_fault_of_done value rfl turn (by simp) fault failed).elim
  | pending run =>
      obtain ⟨-, -, new, -, tally, -, -, undue⟩ := ends
      rw [due_after new tally failed before, List.length_map] at undue
      exact absurd (undue isMany) (by simp)
  | panicked message =>
      obtain ⟨front, last, -, ⟨split, -⟩, -, -, -, panicked, -⟩ := ends
      obtain ⟨-, same⟩ := List.append_inj' split rfl
      cases same
      exact absurd (panicked.symm.trans failed) (by simp)
  | fault other =>
      obtain ⟨-, -, new, -, tally, -, due⟩ := ends
      rw [due_after new tally failed before, List.length_map] at due
      cases due isMany
      exact ⟨rfl, rfl⟩

end Together

/-- A turn that fails ends the node with its fault, there and then: the waits that are left are given up, and that is
all. Among many branches this takes that every branch before the failed one has returned a value. -/
theorem first_fault_wins (handlers : HandlerTable R) (others : Cell R → Cell R → Prop) (label : Label)
    (steps : List (Step R)) (cell after : Cell R) (earlier later : List (Branch.Turn R)) (turn : Branch.Turn R)
    (progress : Progress R) (fault : Fault) (failed : turn.progress = .fault fault)
    (together : Together handlers others label steps cell (earlier ++ turn :: later) progress after)
    (noticed : steps.length ≤ Branch.few ∨
      ∀ place < turn.index, ∃ value, Branch.Turn.returned earlier place = [.done value]) :
    later = [] ∧ progress = .fault fault ∧ (∃ waits, after = turn.ended.giveUp waits) ∧
      after.now = turn.ended.now ∧ after.traces = turn.ended.traces := by
  have ended : later = [] ∧ progress = .fault fault := by
    by_cases isFew : steps.length ≤ Branch.few
    · exact together.few_end_with failed isFew
    · exact together.many_end_with failed isFew (noticed.resolve_left isFew)
  obtain ⟨rfl, rfl⟩ := ended
  obtain ⟨front, last, -, ⟨split, waits, rfl⟩, -⟩ := together.ends
  obtain ⟨-, same⟩ := List.append_inj' split rfl
  cases same
  exact ⟨rfl, rfl, ⟨waits, rfl⟩, Cell.give_up_quiet waits turn.ended⟩

omit [Scalar R] in
theorem Progress.fault_of_shown (progress : Progress R) (fault : Fault) (shown : progress.fault? = some fault) :
    progress = .fault fault := by
  cases progress with
  | fault other => rw [Option.some.inj shown]
  | done value => cases shown
  | panicked message => cases shown
  | pending run => cases shown

omit [Scalar R] in
-- The log by the first of its turns that fails, and the time when it ended.
theorem Branch.split_at_fault (log : List (Branch.Turn R)) (fault : Fault) (time : Nat)
    (found : (log.findSome? fun turn => turn.progress.fault?.map fun fault => (fault, turn.ended.now)) =
      some (fault, time)) :
    ∃ earlier turn later, log = earlier ++ turn :: later ∧ turn.progress = .fault fault ∧ turn.ended.now = time := by
  obtain ⟨earlier, turn, later, split, found, -⟩ := List.findSome?_eq_some_iff.mp found
  obtain ⟨other, shown, same⟩ := Option.map_eq_some_iff.mp found
  cases same
  exact ⟨earlier, turn, later, split, Progress.fault_of_shown turn.progress fault shown, rfl⟩

theorem first_fault_wins_over_a_pause :
    ∃ earlier turn later,
      Poll.turns (List.range 2) ([Flow.delay 1000, Flow.throw "jam"].map .fresh)
          (Step.startAll .standard [Flow.delay 1000, Flow.throw "jam"]) gripperCell.issue.2 = earlier ++ turn :: later ∧
        turn.progress = .fault (.thrown "jam") ∧ later = [] ∧
        ((Flow.parallel [Flow.delay 1000, Flow.throw "jam"]).dispatch .standard gripperCell).1 = .fault (.thrown "jam") := by
  obtain ⟨earlier, turn, later, split, failed, -⟩ := Branch.split_at_fault
    (Poll.turns (List.range 2) ([Flow.delay 1000, Flow.throw "jam"].map .fresh)
      (Step.startAll .standard [Flow.delay 1000, Flow.throw "jam"]) gripperCell.issue.2) (.thrown "jam") 0
    (by decide +kernel)
  have together : Together .standard (fun _ _ => True) (Flow.plainLabel "Parallel")
      [Flow.delay 1000, Flow.throw "jam"] gripperCell _ _ _ := .first rfl
  obtain ⟨last, outcome, -⟩ := first_fault_wins .standard (fun _ _ => True) _ _ gripperCell _ earlier later turn _ _ failed
    (split ▸ together) (Or.inl (by decide))
  exact ⟨earlier, turn, later, split, failed, last, outcome⟩

def crowd : List (Step Rat) := Flow.delay 1000 :: List.replicate 29 Flow.noOp ++ [Flow.throw "jam"]

def crowdOverAPause : List (Branch.Turn Rat) × Progress Rat × Cell Rat :=
  Together.inTwo .standard (fun cell => { cell with now := 1000 }) (List.range 3) (Flow.plainLabel "crowd") crowd
    gripperCell

-- Many branches may come to the fault of one of them only long after it has failed.
theorem many_branches_outlast_a_fault :
    ¬∀ (others : Cell Rat → Cell Rat → Prop) (label : Label) (steps : List (Step Rat)) (cell after : Cell Rat)
      (earlier later : List (Branch.Turn Rat)) (turn : Branch.Turn Rat) (progress : Progress Rat) (fault : Fault),
      turn.progress = .fault fault →
      Together .standard others label steps cell (earlier ++ turn :: later) progress after →
      progress = .fault fault → after.now = turn.ended.now := by
  intro claimed
  obtain ⟨earlier, turn, later, split, failed, early⟩ :=
    Branch.split_at_fault crowdOverAPause.1 (.thrown "jam") 0 (by decide +kernel)
  have together := Together.in_two (.standard : HandlerTable Rat) (fun _ after => after.now = 1000)
    (fun cell => { cell with now := 1000 }) (fun _ => rfl) (List.range 3) (Flow.plainLabel "crowd") crowd
    gripperCell
  have outcome : crowdOverAPause.2.1 = .fault (.thrown "jam") :=
    Progress.fault_of_shown crowdOverAPause.2.1 _ (by decide +kernel)
  have late : crowdOverAPause.2.2.now = 1000 := by decide +kernel
  change Together _ _ _ _ _ crowdOverAPause.1 _ _ at together
  rw [split] at together
  have same := claimed _ _ _ _ _ earlier later turn _ _ failed together outcome
  rw [early] at same
  exact absurd (late.symm.trans same) (by decide)

end Workcell

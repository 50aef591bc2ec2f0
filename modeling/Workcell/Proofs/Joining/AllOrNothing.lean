import Workcell.Flow.Build
import Workcell.Proofs.Exact
import Workcell.Proofs.Joining.Together

/-!
Branches side by side are all or nothing: the node yields the values of all its branches, each in its place, or what one
of them has failed with.
-/

set_option autoImplicit false

namespace Workcell

variable {R : Type}

namespace Branch

theorem Tally.of_fresh (steps : List (Step R)) (new : List (Branch R)) (log : List (Turn R))
    (tally : Tally 0 (steps.map .fresh) new log) (index : Nat) (branch : Branch R) (found : new[index]? = some branch) :
    Turn.returned log index = branch.returns := by
  have inside : index < steps.length := by
    have bound := (List.getElem?_eq_some_iff.mp found).1
    rwa [tally.length, List.length_map] at bound
  have begun : (steps.map Branch.fresh)[index]? = some (.fresh steps[index]) := by simp [inside]
  have told := tally.told index _ branch begun found
  rwa [Nat.zero_add] at told

theorem ended_of_values (branches : List (Branch R)) (values : List (Value R)) (isOver : values? branches = some values) :
    branches = values.map .ended := by
  induction branches generalizing values with
  | nil =>
      cases isOver
      rfl
  | cons branch rest ih =>
      cases branch with
      | ended value =>
          obtain ⟨later, found, rfl⟩ := Option.map_eq_some_iff.mp isOver
          rw [ih later found]
          rfl
      | fresh step => cases isOver
      | running run => cases isOver
      | failed fault => cases isOver

-- The branch whose fault is due comes after branches that have all ended well.
theorem failed_of_due (branches : List (Branch R)) (fault : Fault) (due : due? branches = some fault) :
    ∃ index : Nat, branches[index]? = some (.failed fault) ∧
      ∀ place < index, ∃ value, branches[place]? = some (.ended value) := by
  induction branches with
  | nil => cases due
  | cons branch rest ih =>
      cases branch with
      | failed other =>
          cases due
          exact ⟨0, rfl, fun place below => absurd below (Nat.not_lt_zero place)⟩
      | ended value =>
          obtain ⟨index, found, before⟩ := ih due
          refine ⟨index + 1, found, fun place below => ?_⟩
          cases place with
          | zero => exact ⟨value, rfl⟩
          | succ place => exact before place (Nat.lt_of_succ_lt_succ below)
      | fresh step => cases due
      | running run => cases due

theorem open_of_unsettled (branches : List (Branch R)) (notOver : values? branches = none)
    (notDue : due? branches = none) : ∃ (index : Nat) (branch : Branch R), branches[index]? = some branch ∧
    branch.isOpen = true := by
  induction branches with
  | nil => cases notOver
  | cons branch rest ih =>
      cases branch with
      | fresh step => exact ⟨0, .fresh step, rfl, rfl⟩
      | running run => exact ⟨0, .running run, rfl, rfl⟩
      | failed fault => cases notDue
      | ended value =>
          have later : values? rest = none := by simpa [values?] using notOver
          obtain ⟨index, branch, found, isOpen⟩ := ih later notDue
          exact ⟨index + 1, branch, found, isOpen⟩

theorem Turn.of_mem_returned (log : List (Turn R)) (index : Nat) (progress : Progress R)
    (member : progress ∈ Turn.returned log index) : ∃ turn ∈ log, turn.index = index ∧ turn.progress = progress := by
  obtain ⟨turn, kept, same⟩ := List.mem_map.mp member
  obtain ⟨inside, own⟩ := List.mem_filter.mp kept
  exact ⟨turn, inside, by simpa using (Bool.and_eq_true_iff.mp own).1, same⟩

theorem not_due_of_fine (steps : List (Step R)) (new : List (Branch R)) (log : List (Turn R))
    (tally : Tally 0 (steps.map .fresh) new log) (fine : ∀ turn ∈ log, turn.progress.fails = false) :
    due? new = none := by
  cases due : due? new with
  | none => rfl
  | some fault =>
      obtain ⟨index, found, -⟩ := failed_of_due new fault due
      have returned := tally.of_fresh steps new log index _ found
      have member : .fault fault ∈ Turn.returned log index := by
        rw [returned]
        exact List.mem_singleton.mpr rfl
      obtain ⟨turn, inside, -, failed⟩ := Turn.of_mem_returned log index _ member
      have sound := fine turn inside
      rw [failed] at sound
      cases sound

theorem returned_failed (steps : List (Step R)) (new : List (Branch R)) (log : List (Turn R))
    (tally : Tally 0 (steps.map .fresh) new log) (turn : Turn R) (member : turn ∈ log) (fault : Fault)
    (failed : turn.progress = .fault fault) :
    turn.index < steps.length ∧ new[turn.index]? = some (.failed fault) ∧
      Turn.returned log turn.index = [.fault fault] := by
  have inside : turn.index < steps.length := by
    have within := tally.within turn member
    rwa [Nat.zero_add, List.length_map] at within
  have present : turn.index < new.length := by rwa [tally.length, List.length_map]
  have found : new[turn.index]? = some new[turn.index] := List.getElem?_eq_getElem present
  have returned := tally.of_fresh steps new log turn.index _ found
  have told : .fault fault ∈ new[turn.index].returns := by
    rw [← returned, ← failed]
    exact Turn.mem_returned log turn member (by rw [failed]; rfl)
  generalize new[turn.index] = branch at found returned told
  cases branch with
  | failed other =>
      cases List.mem_singleton.mp told
      exact ⟨inside, found, returned⟩
  | ended value => cases List.mem_singleton.mp told
  | fresh step => cases told
  | running run => cases told

end Branch

variable [Scalar R]

namespace Together

variable {handlers : HandlerTable R} {others : Cell R → Cell R → Prop} {label : Label} {steps : List (Step R)}
  {cell after : Cell R} {log : List (Branch.Turn R)} {progress : Progress R}

open Branch (Turn)

theorem done_of_returned (together : Together handlers others label steps cell log progress after) (value : Value R)
    (done : progress = .done value) :
    ∃ values, value = .list values ∧ values.length = steps.length ∧
      ∀ (index : Nat) (result : Value R), values[index]? = some result → Turn.returned log index = [.done result] := by
  subst done
  obtain ⟨new, values, tally, isOver, rfl⟩ := together.ends
  have ended := Branch.ended_of_values new values isOver
  refine ⟨values, rfl, ?_, ?_⟩
  · have length := tally.length
    rwa [ended, List.length_map, List.length_map] at length
  · intro index result found
    exact tally.of_fresh steps new log index (.ended result) (by simp [ended, found])

theorem fault_of_returned (together : Together handlers others label steps cell log progress after) (fault : Fault)
    (failed : progress = .fault fault) :
    ∃ index < steps.length, Turn.returned log index = [.fault fault] := by
  subst failed
  obtain ⟨earlier, turn, new, ⟨split, -⟩, tally, first, due⟩ := together.ends
  rw [List.length_map] at first due
  by_cases isFew : steps.length ≤ Branch.few
  · have last : turn ∈ log := by simp [split]
    obtain ⟨inside, -, returned⟩ := Branch.returned_failed steps new log tally turn last fault (first isFew).2
    exact ⟨turn.index, inside, returned⟩
  · obtain ⟨index, found, -⟩ := Branch.failed_of_due new fault (due isFew)
    have inside := (List.getElem?_eq_some_iff.mp found).1
    rw [tally.length, List.length_map] at inside
    exact ⟨index, inside, tally.of_fresh steps new log index _ found⟩

theorem panicked_of_returned (together : Together handlers others label steps cell log progress after)
    (message : Option String) (panicked : progress = .panicked message) :
    ∃ index < steps.length, Turn.returned log index = [.panicked message] := by
  subst panicked
  obtain ⟨earlier, turn, new, ⟨split, -⟩, tally, -, -, same, branch, present, isOpen⟩ := together.ends
  have inside := (List.getElem?_eq_some_iff.mp present).1
  rw [tally.length, List.length_map] at inside
  refine ⟨turn.index, inside, ?_⟩
  have before := tally.of_fresh steps new earlier turn.index branch present
  rw [Branch.open_returns branch isOpen] at before
  rw [split, Turn.returned_append, before, List.nil_append]
  exact (Turn.returned_own turn [] (by rw [same]; rfl)).trans (by rw [same]; rfl)

theorem pending_of_returned (together : Together handlers others label steps cell log progress after) (run : Run R)
    (pending : progress = .pending run) : ∃ index < steps.length, Turn.returned log index = [] := by
  subst pending
  obtain ⟨key, woken, new, -, tally, notOver, fine, notDue⟩ := together.ends
  rw [List.length_map] at fine notDue
  -- A node that goes on has neither all its values nor a fault to give, so one of its branches is open.
  have undue : Branch.due? new = none := by
    by_cases isFew : steps.length ≤ Branch.few
    · exact Branch.not_due_of_fine steps new log tally (fine isFew)
    · exact notDue isFew
  obtain ⟨index, branch, found, isOpen⟩ := Branch.open_of_unsettled new notOver undue
  have inside := (List.getElem?_eq_some_iff.mp found).1
  rw [tally.length, List.length_map] at inside
  exact ⟨index, inside, (tally.of_fresh steps new log index branch found).trans (Branch.open_returns branch isOpen)⟩

end Together

/-- Branches side by side are all or nothing, and in order: the node yields a list exactly when every branch has returned
a value, each value in the place of its branch, and else what one of the branches has returned. Where none of them
suspends they do just what they do one after another, up to the first that fails. -/
theorem parallel_is_all_or_nothing (handlers : HandlerTable R) (others : Cell R → Cell R → Prop) (label : Label)
    (steps : List (Step R)) (cell : Cell R) :
    (∀ log progress after, Together handlers others label steps cell log progress after →
      ((∃ value, progress = .done value) ↔
        ∀ index < steps.length, ∃ value, Branch.Turn.returned log index = [.done value]) ∧
      (∀ value, progress = .done value → ∃ values, value = .list values ∧ values.length = steps.length ∧
        ∀ (index : Nat) (result : Value R), values[index]? = some result →
          Branch.Turn.returned log index = [.done result]) ∧
      (∀ fault, progress = .fault fault →
        ∃ index < steps.length, Branch.Turn.returned log index = [.fault fault]) ∧
      (∀ message, progress = .panicked message →
        ∃ index < steps.length, Branch.Turn.returned log index = [.panicked message])) ∧
    ((Poll.inTurn (Step.startAll handlers steps) [] cell.issue.2).1.isPending = false →
      (Step.parallel label steps).dispatch handlers cell =
        Poll.inTurn (Step.startAll handlers steps) [] cell.issue.2) := by
  constructor
  · intro log progress after together
    refine ⟨⟨?_, ?_⟩, together.done_of_returned, together.fault_of_returned, together.panicked_of_returned⟩
    · rintro ⟨value, done⟩ index inside
      obtain ⟨values, -, length, returned⟩ := together.done_of_returned value done
      have present : index < values.length := length ▸ inside
      exact ⟨values[index], returned index _ (List.getElem?_eq_getElem present)⟩
    · -- Whatever else the node came to, some branch has not returned a value.
      intro all
      have never : ∀ index < steps.length, ∀ other, (∀ value, other ≠ [.done value]) →
          Branch.Turn.returned log index = other → False := by
        intro index inside other differs same
        obtain ⟨value, returned⟩ := all index inside
        exact differs value (same.symm.trans returned)
      cases progress with
      | done value => exact ⟨value, rfl⟩
      | fault fault =>
          obtain ⟨index, inside, returned⟩ := together.fault_of_returned fault rfl
          exact (never index inside _ (by simp) returned).elim
      | panicked message =>
          obtain ⟨index, inside, returned⟩ := together.panicked_of_returned message rfl
          exact (never index inside _ (by simp) returned).elim
      | pending run =>
          obtain ⟨index, inside, returned⟩ := together.pending_of_returned run rfl
          exact (never index inside _ (by simp) returned).elim
  · intro straight
    rw [Step.dispatch]
    exact Poll.fork_in_turn steps _ (Upkeep.start_all_length handlers steps) cell straight

def Progress.value? : Progress R → Option (Value R)
  | .done value => some value
  | _ => none

omit [Scalar R] in
theorem Progress.done_of_value (progress : Progress R) (known : progress.value?.isSome = true) :
    ∃ value, progress = .done value := by
  cases progress with
  | done value => exact ⟨value, rfl⟩
  | fault fault => cases known
  | panicked message => cases known
  | pending run => cases known

def bothOverAPause : List (Branch.Turn Rat) × Progress Rat × Cell Rat :=
  Together.inTwo .standard (fun cell => { cell with now := 5 }) [] (Flow.plainLabel "both")
    [Flow.delay 5, Flow.noOp] gripperCell

-- The second branch ends long before the first; and two branches of which none waits, the second failing.
theorem parallel_is_all_or_nothing_over_a_pause :
    (∃ value, bothOverAPause.2.1 = .done value) ∧
      (∀ index < 2, ∃ value, Branch.Turn.returned bothOverAPause.1 index = [.done value]) ∧
      (Flow.parallel [Flow.noOp, Flow.throw "jam", Flow.delay 5]).dispatch .standard gripperCell =
        Poll.inTurn (Step.startAll .standard [Flow.noOp, Flow.throw "jam", Flow.delay 5]) [] gripperCell.issue.2 := by
  have together := Together.in_two (.standard : HandlerTable Rat) (fun _ after => after.now = 5)
    (fun cell => { cell with now := 5 }) (fun _ => rfl) [] (Flow.plainLabel "both") [Flow.delay 5, Flow.noOp]
    gripperCell
  obtain ⟨whole, -⟩ := (parallel_is_all_or_nothing .standard _ _ _ gripperCell).1 _ _ _ together
  have done := Progress.done_of_value bothOverAPause.2.1 (by decide +kernel)
  have straight := (parallel_is_all_or_nothing .standard (fun _ _ => True) (Flow.plainLabel "Parallel")
    [Flow.noOp, Flow.throw "jam", Flow.delay 5] gripperCell).2 (by decide +kernel)
  exact ⟨done, whole.mp done, straight⟩

end Workcell

import Workcell.Proofs.Sturdy.Law

/-!
Turns of sturdy flows: of branches side by side, of steps that begin and of runs that were suspended.
-/

set_option autoImplicit false

namespace Workcell

variable {R : Type}

theorem Branch.due_mild (branches : List (Branch R)) (due : Fault) (sturdy : Run.SturdyAll branches)
    (isDue : Branch.due? branches = some due) : due.isBreakdown = false := by
  induction branches with
  | nil => cases isDue
  | cons head tail ih =>
      cases head with
      | ended value => exact ih sturdy.2 isDue
      | failed fault =>
          cases isDue
          exact sturdy.1
      | fresh step => cases isDue
      | running run => cases isDue

theorem Run.sturdy_all_set (branches : List (Branch R)) (index : Nat) (branch : Branch R)
    (sturdy : Run.SturdyAll branches) (turned : branch.Sturdy) : Run.SturdyAll (branches.set index branch) := by
  rw [sturdy_all_iff] at sturdy ⊢
  intro other member
  rcases List.mem_or_eq_of_mem_set member with old | rfl
  · exact sturdy other old
  · exact turned

def Rounded {B : Type} (safe : Cell R → Prop) (late : Prop) (kept : B → Prop) (round : Except Halt B × Cell R) : Prop :=
  safe round.2 ∧ match round.1 with
    | .ok left => kept left
    | .error halt => Progress.Sturdy (R := R) late halt.progress

namespace Shelter

variable [Scalar R] {handlers : HandlerTable R} {safe : Cell R → Prop} {late : Prop}
  (shelter : Shelter handlers safe late)

include shelter

theorem cons_in_order (branch : Branch R) (sturdy : branch.Sturdy) (rest : Except Halt (List (Branch R)) × Cell R)
    (rounded : Rounded safe late Run.SturdyAll rest) : Rounded safe late Run.SturdyAll (Poll.inOrder.cons branch rest) := by
  obtain ⟨result, cell⟩ := rest
  cases result with
  | ok branches => exact ⟨rounded.1, sturdy, rounded.2⟩
  | error halt =>
      exact ⟨Upkeep.abandon_branch_keeps shelter.upkeep branch [] cell rounded.1, rounded.2⟩

theorem in_order_firm (pairs : List (Branch R × Poll R)) (sturdy : ∀ pair ∈ pairs, pair.1.Sturdy)
    (firm : ∀ pair ∈ pairs, pair.2.Firm safe late) (cell : Cell R) (held : safe cell) :
    Rounded safe late Run.SturdyAll (Poll.inOrder pairs cell) := by
  induction pairs generalizing cell with
  | nil => exact ⟨held, trivial⟩
  | cons pair rest ih =>
      obtain ⟨branch, poll⟩ := pair
      have later := ih (fun pair member => sturdy pair (List.mem_cons_of_mem _ member))
        (fun pair member => firm pair (List.mem_cons_of_mem _ member))
      by_cases isOpen : branch.isOpen = true
      · have turn : safe (poll cell).2 ∧ (poll cell).1.Sturdy late := firm (branch, poll) List.mem_cons_self cell held
        simp only [Poll.inOrder, if_pos isOpen]
        rcases result : poll cell with ⟨progress, after⟩
        rw [result] at turn
        cases progress with
        | done value => exact shelter.cons_in_order (.ended value) trivial _ (later after turn.1)
        | pending run => exact shelter.cons_in_order (.running run) turn.2 _ (later after turn.1)
        | fault fault => exact ⟨shelter.abandon_all _ after turn.1, turn.2⟩
        | panicked message => exact ⟨shelter.abandon_all _ after turn.1, turn.2⟩
      · simp only [Poll.inOrder, if_neg isOpen]
        exact shelter.cons_in_order branch (sturdy (branch, poll) List.mem_cons_self) _ (later cell held)

theorem settle_in_waking_order (branches : List (Branch R)) (woken : List Nat) (cell : Cell R) (held : safe cell)
    (sturdy : Run.SturdyAll branches) (go : Poll.Round R → Cell R → Except Halt (Poll.Round R) × Cell R)
    (goes : ∀ given opened, Rounded safe late (fun round => Run.SturdyAll round.branches)
      (go ⟨branches, woken, given, opened⟩ cell)) :
    Rounded safe late (fun round => Run.SturdyAll round.branches)
      (Poll.inWakingOrder.settle branches woken cell go) := by
  unfold Poll.inWakingOrder.settle
  cases isDue : Branch.due? branches with
  | none => exact goes _ _
  | some fault => exact ⟨shelter.abandon_all branches cell held, Branch.due_mild branches fault sturdy isDue⟩

theorem in_waking_order_firm (key : Nat) (polls : List (Poll R)) (firm : ∀ poll ∈ polls, poll.Firm safe late)
    (queue : List Nat) (round : Poll.Round R) (sturdy : Run.SturdyAll round.branches) (cell : Cell R)
    (held : safe cell) :
    Rounded safe late (fun round => Run.SturdyAll round.branches) (Poll.inWakingOrder key polls queue round cell) := by
  induction queue generalizing round cell with
  | nil => exact ⟨held, sturdy⟩
  | cons index queue ih =>
      rw [Poll.inWakingOrder]
      cases present : round.branches[index]? with
      | none => exact ih round sturdy cell held
      | some branch =>
          cases polled : polls[index]? with
          | none => exact ih round sturdy cell held
          | some poll =>
              by_cases isOpen : branch.isOpen = true
              · have turn := firm poll (List.mem_of_getElem? polled) cell held
                simp only [if_pos isOpen]
                rcases result : poll cell with ⟨progress, after⟩
                rw [result] at turn
                have put := fun turned => Run.sturdy_all_set round.branches index turned sturdy
                cases progress with
                | panicked message => exact ⟨shelter.abandon_all _ after turn.1, turn.2⟩
                | done value =>
                    exact shelter.settle_in_waking_order _ _ after turn.1 (put (.ended value) trivial) _
                      fun _ _ => ih _ (put (.ended value) trivial) after turn.1
                | fault fault =>
                    exact shelter.settle_in_waking_order _ _ after turn.1 (put (.failed fault) turn.2) _
                      fun _ _ => ih _ (put (.failed fault) turn.2) after turn.1
                | pending run =>
                    dsimp only
                    split
                    · exact ⟨shelter.again turn.1 key, put (.running run) turn.2⟩
                    · exact ih _ (put (.running run) turn.2) after turn.1
              · simp only [if_neg isOpen]
                exact ih round sturdy cell held

omit shelter [Scalar R] in
theorem gather_sturdy (key : Nat) (woken : List Nat) (branches : List (Branch R)) (sturdy : Run.SturdyAll branches) :
    (Poll.gather key woken branches).Sturdy late := by
  unfold Poll.gather
  split
  · trivial
  · exact sturdy

theorem join_firm (key : Nat) (woken : List Nat) (branches : List (Branch R)) (polls : List (Poll R))
    (sturdy : Run.SturdyAll branches) (firm : ∀ poll ∈ polls, poll.Firm safe late) :
    (Poll.join key woken branches polls).Firm safe late := by
  intro cell held
  unfold Poll.join
  by_cases few : branches.length ≤ Branch.few
  · have round := shelter.in_order_firm (branches.zip polls)
      (fun pair member => (Run.sturdy_all_iff branches).mp sturdy pair.1 (List.of_mem_zip member).1)
      (fun pair member => firm pair.2 (List.of_mem_zip member).2) cell held
    rw [if_pos few]
    rcases result : Poll.inOrder (branches.zip polls) cell with ⟨outcome, after⟩
    rw [result] at round
    cases outcome with
    | ok turned => exact ⟨round.1, gather_sturdy key [] turned round.2⟩
    | error halt => exact round
  · have round := shelter.in_waking_order_firm key polls firm woken ⟨branches, [], 0, Branch.openCount branches⟩ sturdy
      cell held
    rw [if_neg few]
    rcases result : Poll.inWakingOrder key polls woken ⟨branches, [], 0, Branch.openCount branches⟩ cell with
      ⟨outcome, after⟩
    rw [result] at round
    cases outcome with
    | ok turned => exact ⟨round.1, gather_sturdy key turned.woken turned.branches round.2⟩
    | error halt => exact round

theorem fork_firm (steps : List (Step R)) (polls : List (Poll R)) (sturdy : Step.SturdyAll steps)
    (firm : ∀ poll ∈ polls, poll.Firm safe late) : (Poll.fork steps polls).Firm safe late := by
  intro cell held
  refine shelter.join_firm _ _ _ polls ((Run.sturdy_all_iff _).mpr ?_) firm _ (shelter.issue held)
  intro branch member
  obtain ⟨step, inside, rfl⟩ := List.mem_map.mp member
  exact (Step.sturdy_all_iff steps).mp sturdy step inside

theorem perform_firm (call : Call R) (unbounded : call.timeout = none) : (Poll.perform handlers call).Firm safe late := by
  intro cell held
  unfold Poll.perform
  cases resolved : handlers.resolve cell call with
  | error fault => exact ⟨held, shelter.refused resolved⟩
  | ok handler =>
      have acted := shelter.act held unbounded resolved
      simp only [Poll.ofAct]
      rcases result : handler call cell with ⟨outcome, after⟩
      rw [result] at acted
      cases outcome with
      | ok reply =>
          cases reply with
          | value value => exact acted
          | waiting wait => exact ⟨shelter.issue acted.1, trivial⟩
      | error failure =>
          cases failure with
          | fault fault => exact acted
          | panic message => exact acted

theorem rest_firm (inner : Step R) (sturdy : inner.Sturdy) : (Poll.rest inner).Firm safe late :=
  fun _ held => ⟨shelter.rest (shelter.issue held) _, sturdy⟩

section Iterations

variable (body : Poll R) (inner : Step R) (sturdy : inner.Sturdy) (firm : body.Firm safe late)

include sturdy firm

theorem endless_firm : (Poll.endless body inner).Firm safe late :=
  Poll.Firm.iterate body inner sturdy firm none _ fun _ => shelter.rest_firm inner sturdy

theorem further_firm (left : Option Nat) (last : Value R) : (Poll.further body inner left last).Firm safe late := by
  cases left with
  | none => exact shelter.rest_firm inner sturdy
  | some left => exact Poll.Firm.iterations body inner sturdy firm left last

end Iterations

mutual
theorem dispatch_firm (step : Step R) (sturdy : step.Sturdy) : (step.dispatch handlers).Firm safe late := by
  cases step with
  | action label device operation args => exact shelter.perform_firm _ sturdy.2
  | sequence label first next select =>
      rw [Step.dispatch]
      refine Poll.Firm.bind _ _ _ ?_ (fun value => ?_) fun _ still => ⟨still, sturdy.2.2⟩
      · exact shelter.attempted_firm first sturdy.2.1 _ (dispatch_firm first sturdy.2.1)
      · exact Poll.Firm.select _ value select (follow_firm (next value) (sturdy.2.2 value))
  | map label source transform =>
      rw [Step.dispatch]
      exact Poll.Firm.map _ transform (shelter.attempted_firm source sturdy.2 _ (dispatch_firm source sturdy.2))
  | scope label inner =>
      rw [Step.dispatch]
      exact shelter.attempted_firm inner sturdy.2 _ (dispatch_firm inner sturdy.2)
  | parallel label steps =>
      rw [Step.dispatch]
      exact shelter.fork_firm steps _ sturdy.2 (start_all_firm steps sturdy.2)
  | loop label inner count =>
      have firm := shelter.attempted_firm inner sturdy.2 _ (dispatch_firm inner sturdy.2)
      rw [Step.dispatch]
      by_cases endless : count < 0
      · simp only [if_pos endless]
        exact shelter.endless_firm _ inner sturdy.2 firm
      · simp only [if_neg endless]
        exact Poll.Firm.iterations _ inner sturdy.2 firm _ _

theorem follow_firm (next : Except (Option String) (Step R)) (sturdy : Step.SturdyNext next) :
    (Step.follow handlers next).Firm safe late := by
  cases next with
  | error message => exact sturdy.elim
  | ok step =>
      rw [Step.follow]
      exact shelter.attempted_firm step sturdy _ (dispatch_firm step sturdy)

theorem start_all_firm (steps : List (Step R)) (sturdy : Step.SturdyAll steps) :
    ∀ poll ∈ Step.startAll handlers steps, poll.Firm safe late := by
  cases steps with
  | nil => simp [Step.startAll]
  | cons step rest =>
      intro poll member
      rw [Step.startAll] at member
      rcases List.mem_cons.mp member with rfl | inside
      · exact shelter.attempted_firm step sturdy.1 _ (dispatch_firm step sturdy.1)
      · exact start_all_firm rest sturdy.2 poll inside
end

theorem start_firm (step : Step R) (sturdy : step.Sturdy) : (step.start handlers).Firm safe late :=
  shelter.attempted_firm step sturdy _ (shelter.dispatch_firm step sturdy)

theorem look_firm (key : Nat) (wait : Wait R) : (Poll.look key wait).Firm safe late := by
  intro cell held
  unfold Poll.look
  by_cases cancelled : cell.cancelled = true
  · rw [if_pos cancelled]
    exact ⟨shelter.abandon held wait, rfl⟩
  · rw [if_neg cancelled]
    have looked := shelter.look held wait
    rcases result : cell.look wait with ⟨reply, after⟩
    rw [result] at looked
    cases reply with
    | value value => exact ⟨looked, trivial⟩
    | waiting next => exact ⟨looked, trivial⟩

mutual
theorem resume_firm (run : Run R) (sturdy : run.Sturdy) : (run.resume handlers).Firm safe late := by
  cases run with
  | waiting key wait => exact shelter.look_firm key wait
  | attempt step number inside =>
      intro cell held
      have turn := resume_firm inside sturdy.2.2 cell held
      exact shelter.reattempted_firm step sturdy.1 _ (shelter.dispatch_firm step sturdy.1) number sturdy.2.1 _ _ turn.1
        turn.2
  | bound run next select =>
      rw [Run.resume]
      refine Poll.Firm.bind _ _ _ (resume_firm run sturdy.1) (fun value => ?_) fun _ still => ⟨still, sturdy.2⟩
      exact Poll.Firm.select _ value select (shelter.follow_firm (next value) (sturdy.2 value))
  | mapped run transform =>
      rw [Run.resume]
      exact Poll.Firm.map _ transform (resume_firm run sturdy)
  | joined key woken branches =>
      rw [Run.resume]
      exact shelter.join_firm key woken branches _ sturdy (resume_all_firm branches sturdy)
  | repeated run inner left =>
      rw [Run.resume]
      refine Poll.Firm.bind _ _ _ (resume_firm run sturdy.1) ?_ fun _ still => ⟨still, sturdy.2⟩
      exact shelter.further_firm _ inner sturdy.2 (shelter.start_firm inner sturdy.2) left
  | resting key inner =>
      rw [Run.resume]
      exact shelter.endless_firm _ inner sturdy (shelter.start_firm inner sturdy)

theorem resume_all_firm (branches : List (Branch R)) (sturdy : Run.SturdyAll branches) :
    ∀ poll ∈ Run.resumeAll handlers branches, poll.Firm safe late := by
  cases branches with
  | nil => simp [Run.resumeAll]
  | cons branch rest =>
      intro poll member
      rw [Run.resumeAll] at member
      rcases List.mem_cons.mp member with rfl | inside
      · cases branch with
        | running run => exact resume_firm run sturdy.1
        | fresh step => exact shelter.start_firm step sturdy.1
        | ended value => exact Poll.Firm.done value
        | failed fault => exact fun _ held => ⟨held, sturdy.1⟩
      · exact resume_all_firm rest sturdy.2 poll inside
end

end Shelter

mutual
theorem touch_sturdy (key : Nat) (run : Run R) (sturdy : run.Sturdy) : (run.touch key).Sturdy := by
  cases run with
  | waiting own wait => trivial
  | attempt step number inside => exact ⟨sturdy.1, sturdy.2.1, touch_sturdy key inside sturdy.2.2⟩
  | bound run next select => exact ⟨touch_sturdy key run sturdy.1, sturdy.2⟩
  | mapped run transform => exact touch_sturdy key run sturdy
  | joined own woken branches => exact touch_all_sturdy key branches sturdy
  | repeated run inner left => exact ⟨touch_sturdy key run sturdy.1, sturdy.2⟩
  | resting own inner => exact sturdy

theorem touch_branch_sturdy (key : Nat) (branch : Branch R) (sturdy : branch.Sturdy) : (branch.touch key).Sturdy := by
  cases branch with
  | running run => exact touch_sturdy key run sturdy
  | fresh step => exact sturdy
  | ended value => trivial
  | failed fault => exact sturdy

theorem touch_all_sturdy (key : Nat) (branches : List (Branch R)) (sturdy : Run.SturdyAll branches) :
    Run.SturdyAll (Run.touchAll key branches) := by
  cases branches with
  | nil => trivial
  | cons branch rest => exact ⟨touch_branch_sturdy key branch sturdy.1, touch_all_sturdy key rest sturdy.2⟩
end

def Task.Sturdy : Task R → Prop
  | .fresh step => step.Sturdy
  | .running run => run.Sturdy

theorem Task.Sturdy.touch {task : Task R} (sturdy : task.Sturdy) (key : Nat) : (task.touch key).Sturdy := by
  cases task with
  | fresh step => exact sturdy
  | running run => exact touch_sturdy key run sturdy

theorem Shelter.poll_firm [Scalar R] {handlers : HandlerTable R} {safe : Cell R → Prop} {late : Prop}
    (shelter : Shelter handlers safe late) (task : Task R) (sturdy : task.Sturdy) :
    (task.poll handlers).Firm safe late := by
  cases task with
  | fresh step => exact shelter.start_firm step sturdy
  | running run => exact shelter.resume_firm run sturdy

end Workcell

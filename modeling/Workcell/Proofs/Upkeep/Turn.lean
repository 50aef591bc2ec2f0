import Workcell.Proofs.Upkeep.Join
import Workcell.Proofs.Upkeep.Law

/-!
A claim that every single act keeps up is kept up by every turn of every run: of one that begins and of one that was
suspended, however often the policy and the host have attempts made again.
-/

set_option autoImplicit false

namespace Workcell.Upkeep

section

variable {R : Type} [Scalar R] {handlers : HandlerTable R} {ok : Call R → Prop} {blame : Fault → Prop}
  {holds : List (Wait R) → Cell R → Prop}

theorem settle_keeps (law : Upkeep handlers ok blame holds) (step : Step R) (every : step.Every ok) (number : Nat)
    (again : Option (Poll R)) (exhausted : Fault → Poll R)
    (further : ∀ poll, again = some poll → Keeps ok blame holds [] poll)
    (given : ∀ fault, blame fault → Keeps ok blame holds [] (exhausted fault))
    (waits : List (Wait R)) (progress : Progress R) (cell : Cell R)
    (turn : After ok blame holds waits (progress, cell)) :
    After ok blame holds waits (step.settle number again exhausted progress cell) := by
  cases progress with
  | done value => exact law.trace turn step .completed number
  | fault fault =>
      obtain ⟨held, blamed⟩ := turn
      have traced := law.trace held step (.error fault.message) number
      by_cases cancelled : fault.isCancellation = true
      · simp only [Step.settle, if_pos cancelled]
        exact ⟨traced, blamed⟩
      · simp only [Step.settle, if_neg cancelled]
        cases again with
        | some poll => exact further poll rfl waits _ traced
        | none => exact given fault blamed waits _ traced
  | panicked message => exact turn
  | pending run => exact ⟨turn.1, every, turn.2⟩

-- One attempt, whatever poll makes the next one.
theorem attempt_keeps (law : Upkeep handlers ok blame holds) (step : Step R) (every : step.Every ok) (body : Poll R)
    (bodyKeeps : Keeps ok blame holds [] body) (number : Nat) (again : Option (Poll R))
    (exhausted : Fault → Poll R) (further : ∀ poll, again = some poll → Keeps ok blame holds [] poll)
    (given : ∀ fault, blame fault → Keeps ok blame holds [] (exhausted fault)) :
    Keeps ok blame holds [] (step.attempt body number again exhausted) := by
  intro waits cell held
  unfold Step.attempt
  by_cases cancelled : cell.cancelled = true
  · rw [if_pos cancelled]
    exact ⟨held, law.cancelled held cancelled⟩
  · rw [if_neg cancelled]
    by_cases spent : Step.maxRetries < number
    · rw [if_pos spent]
      exact held
    · rw [if_neg spent]
      have turn := bodyKeeps waits _ (law.trace held step .running number)
      exact settle_keeps law step every number again exhausted further given waits _ _ turn

theorem tries_keeps (law : Upkeep handlers ok blame holds) (step : Step R) (every : step.Every ok) (body : Poll R)
    (exhausted : Nat → Fault → Poll R) (bodyKeeps : Keeps ok blame holds [] body)
    (given : ∀ number fault, blame fault → Keeps ok blame holds [] (exhausted number fault)) (left number : Nat) :
    Keeps ok blame holds [] (step.tries body exhausted left number) := by
  induction left generalizing number with
  | zero =>
      rw [Step.tries_zero]
      exact attempt_keeps law step every body bodyKeeps number none _ (fun _ same => nomatch same) (given number)
  | succ left ih =>
      rw [Step.tries_succ]
      refine attempt_keeps law step every body bodyKeeps number _ _ ?_ (given number)
      intro poll same
      cases same
      exact ih (number + 1)

theorem escalate_keeps (law : Upkeep handlers ok blame holds) (step : Step R) (again : Option (Poll R))
    (further : ∀ poll, again = some poll → Keeps ok blame holds [] poll) (number : Nat) (fault : Fault)
    (blamed : blame fault) : Keeps ok blame holds [] (step.escalate again number fault) := by
  intro waits cell held
  unfold Step.escalate
  by_cases asks : step.policy.onError.escalates = true
  · rw [if_pos asks]
    have asked := law.appeal held step fault
    rcases answer : cell.appeal step fault with ⟨resolution, after⟩
    rw [answer] at asked
    cases resolution with
    | propagate => exact ⟨asked, blamed⟩
    | substitute value => exact law.trace asked step .completed number
    | retry =>
        cases again with
        | some poll => exact further poll rfl waits after asked
        | none => exact ⟨asked, blamed⟩
  · rw [if_neg asks]
    exact ⟨held, blamed⟩

theorem rounds_keeps (law : Upkeep handlers ok blame holds) (step : Step R) (every : step.Every ok) (body : Poll R)
    (bodyKeeps : Keeps ok blame holds [] body) (answers : Nat) :
    Keeps ok blame holds [] (step.rounds body answers) := by
  induction answers with
  | zero =>
      refine tries_keeps law step every body _ bodyKeeps ?_ _ _
      intro number fault blamed
      exact escalate_keeps law step none (fun _ same => nomatch same) number fault blamed
  | succ answers ih =>
      refine tries_keeps law step every body _ bodyKeeps ?_ _ _
      intro number fault blamed
      refine escalate_keeps law step _ ?_ number fault blamed
      intro poll same
      cases same
      exact ih

theorem exhausted_keeps (law : Upkeep handlers ok blame holds) (step : Step R) (every : step.Every ok) (body : Poll R)
    (bodyKeeps : Keeps ok blame holds [] body) (number : Nat) (fault : Fault) (blamed : blame fault) :
    Keeps ok blame holds [] (step.exhausted body number fault) := by
  intro waits cell held
  refine escalate_keeps law step _ ?_ number fault blamed waits cell held
  intro poll same
  cases answers : cell.hook.script.length with
  | zero => simp [answers] at same
  | succ answers' =>
      have rounds : step.rounds body answers' = poll := by simpa [answers] using same
      exact rounds ▸ rounds_keeps law step every body bodyKeeps answers'

theorem attempted_keeps (law : Upkeep handlers ok blame holds) (step : Step R) (every : step.Every ok) (body : Poll R)
    (bodyKeeps : Keeps ok blame holds [] body) : Keeps ok blame holds [] (step.attempted body) := by
  intro waits cell held
  exact rounds_keeps law step every body bodyKeeps cell.hook.script.length waits cell held

theorem reattempted_keeps (law : Upkeep handlers ok blame holds) (step : Step R) (every : step.Every ok)
    (body : Poll R) (bodyKeeps : Keeps ok blame holds [] body) (number : Nat) (waits : List (Wait R))
    (progress : Progress R) (cell : Cell R) (turn : After ok blame holds waits (progress, cell)) :
    After ok blame holds waits (step.reattempted body number progress cell) := by
  have given : ∀ number fault, blame fault → Keeps ok blame holds [] (step.exhausted body number fault) :=
    fun number fault blamed => exhausted_keeps law step every body bodyKeeps number fault blamed
  refine settle_keeps law step every number _ _ ?_ (given number) waits progress cell turn
  intro poll same
  by_cases more : number ≤ step.policy.retries
  · rw [if_pos more] at same
    cases same
    exact tries_keeps law step every body _ bodyKeeps given _ _
  · rw [if_neg more] at same
    cases same

end

variable {R : Type} {ok : Call R → Prop} {blame : Fault → Prop} {holds : List (Wait R) → Cell R → Prop}

theorem every_of_iff (ok : Call R → Prop) (steps : List (Step R)) :
    Step.EveryOf ok steps ↔ ∀ step ∈ steps, step.Every ok := by
  induction steps with
  | nil => simp [Step.EveryOf]
  | cons step rest ih => simp [Step.EveryOf, ih]

theorem start_all_length (handlers : HandlerTable R) (steps : List (Step R)) :
    (Step.startAll handlers steps).length = steps.length := by
  induction steps with
  | nil => rfl
  | cons step rest ih => simp [Step.startAll, ih]

theorem resume_all_length [Scalar R] (handlers : HandlerTable R) (branches : List (Branch R)) :
    (Run.resumeAll handlers branches).length = branches.length := by
  induction branches with
  | nil => rfl
  | cons branch rest ih => simp [Run.resumeAll, ih]

theorem gather_keeps (key : Nat) (woken : List Nat) (branches : List (Branch R)) (waits : List (Wait R))
    (cell : Cell R) (held : holds (Run.waitsOf branches ++ waits) cell) (fit : Run.FitAll ok blame branches)
    (begun : ∀ branch ∈ branches, branch.isFresh = false) (notDue : Branch.due? branches = none)
    (few : branches.length ≤ Branch.few → ∀ branch ∈ branches, branch.isFailed = false) (nodup : woken.Nodup) :
    After ok blame holds waits (Poll.gather key woken branches, cell) := by
  unfold Poll.gather
  cases isOver : Branch.values? branches with
  | none => exact ⟨held, fit, ⟨begun, notDue, isOver, few⟩, nodup⟩
  | some values =>
      have none : Run.waitsOf branches = [] := Branch.waits_of_over branches values isOver
      rw [none] at held
      exact held

variable [Scalar R] {handlers : HandlerTable R}

-- Either every branch has had a turn before, or each that has not had one is about to.
theorem join_keeps (law : Upkeep handlers ok blame holds) (key : Nat) (woken : List Nat) (branches : List (Branch R))
    (polls : List (Poll R)) (nodup : woken.Nodup) (sameLength : polls.length = branches.length)
    (keeps : ∀ (index : Nat) (branch : Branch R) (poll : Poll R), branches[index]? = some branch →
      polls[index]? = some poll → branch.isOpen = true → Keeps ok blame holds branch.waits poll)
    (fit : Run.FitAll ok blame branches) (notDue : Branch.due? branches = none)
    (few : branches.length ≤ Branch.few → ∀ branch ∈ branches, branch.isFailed = false)
    (begun : (∀ branch ∈ branches, branch.isFresh = false) ∨
      ∀ (index : Nat) (branch : Branch R), branches[index]? = some branch →
        (branch.isFresh = true ↔ index ∈ woken)) :
    Keeps ok blame holds (Run.waitsOf branches) (Poll.join key woken branches polls) := by
  intro waits cell held
  unfold Poll.join
  by_cases isFew : branches.length ≤ Branch.few
  · rw [if_pos isFew]
    have firsts : (branches.zip polls).map Prod.fst = branches := List.map_fst_zip (by omega)
    have round : InOrder ok blame holds waits (Poll.inOrder (branches.zip polls) cell) := by
      apply in_order_keeps law
      · intro pair member isOpen
        obtain ⟨index, found⟩ := List.getElem?_of_mem member
        obtain ⟨hasBranch, hasPoll⟩ := List.getElem?_zip_eq_some.mp found
        exact keeps index pair.1 pair.2 hasBranch hasPoll isOpen
      · intro pair member
        exact (Run.fit_all_iff branches).mp fit pair.1 (firsts ▸ List.mem_map_of_mem member)
      · intro pair member
        exact few isFew pair.1 (firsts ▸ List.mem_map_of_mem member)
      · rw [firsts]
        exact held
    rcases result : Poll.inOrder (branches.zip polls) cell with ⟨outcome, after⟩
    rw [result] at round
    cases outcome with
    | error halt => exact halt_after waits halt after round
    | ok turned =>
        obtain ⟨turnedHeld, turnedFit, all⟩ := round
        exact gather_keeps key [] turned waits after turnedHeld turnedFit (fun branch member => (all branch member).1)
          (Branch.not_due_without_failed turned fun branch member => (all branch member).2)
          (fun _ branch member => (all branch member).2) List.nodup_nil
  · rw [if_neg isFew]
    have sitting : Sitting woken ⟨branches, [], 0, Branch.openCount branches⟩ :=
      ⟨notDue, nodup, rfl, begun.imp_right fun lined => ⟨lined, fresh_le_open branches⟩⟩
    have round := in_waking_order_keeps law key polls woken _ sitting (by
      intro index member branch found
      obtain ⟨inside, -⟩ := List.getElem?_eq_some_iff.mp found
      have hasPoll := List.getElem?_eq_getElem (sameLength ▸ inside : index < polls.length)
      exact ⟨_, hasPoll, keeps index branch _ found hasPoll⟩) fit waits cell held
    rcases result : Poll.inWakingOrder key polls woken ⟨branches, [], 0, Branch.openCount branches⟩ cell with
      ⟨outcome, after⟩
    rw [result] at round
    cases outcome with
    | error halt => exact halt_after waits halt after round
    | ok turned =>
        obtain ⟨turnedHeld, turnedFit, stillNotDue, allBegun, stillNodup, size⟩ := round
        exact gather_keeps key turned.woken turned.branches waits after turnedHeld turnedFit allBegun stillNotDue
          (fun nowFew => absurd (size ▸ nowFew) isFew) stillNodup

theorem fork_keeps (law : Upkeep handlers ok blame holds) (steps : List (Step R)) (polls : List (Poll R))
    (every : ∀ step ∈ steps, step.Every ok) (sameLength : polls.length = steps.length)
    (keeps : ∀ poll ∈ polls, Keeps ok blame holds [] poll) : Keeps ok blame holds [] (Poll.fork steps polls) := by
  intro waits cell held
  have fresh : ∀ branch ∈ steps.map Branch.fresh, branch.isFresh = true ∧ branch.isFailed = false ∧ branch.waits = [] := by
    intro branch member
    obtain ⟨step, -, rfl⟩ := List.mem_map.mp member
    exact ⟨rfl, rfl, rfl⟩
  refine join_keeps law _ (List.range steps.length) (steps.map Branch.fresh) polls List.nodup_range (by simpa) ?_ ?_ ?_ ?_ ?_
    waits _ ?_
  · intro index branch poll found polled isOpen
    rw [(fresh branch (List.mem_of_getElem? found)).2.2]
    exact keeps poll (List.mem_of_getElem? polled)
  · rw [Run.fit_all_iff]
    intro branch member
    obtain ⟨step, inside, rfl⟩ := List.mem_map.mp member
    exact every step inside
  · exact Branch.not_due_without_failed _ fun branch member => (fresh branch member).2.1
  · intro _ branch member
    exact (fresh branch member).2.1
  · refine Or.inr ?_
    intro index branch found
    have inside : index < steps.length := by
      obtain ⟨inside, -⟩ := List.getElem?_eq_some_iff.mp found
      simpa using inside
    simp [(fresh branch (List.mem_of_getElem? found)).1, inside]
  · rw [Run.waits_of_fresh]
    exact law.issue held

theorem perform_keeps (law : Upkeep handlers ok blame holds) (call : Call R) (allowed : ok call) :
    Keeps ok blame holds [] (Poll.perform handlers call) := by
  intro waits cell held
  unfold Poll.perform
  cases resolved : handlers.resolve cell call with
  | error fault => exact ⟨held, law.refused held allowed resolved⟩
  | ok handler =>
      have acted := law.act held allowed resolved
      simp only [Poll.ofAct]
      rcases result : handler call cell with ⟨outcome, after⟩
      rw [result] at acted
      cases outcome with
      | ok reply =>
          cases reply with
          | value value => exact acted
          | waiting wait => exact ⟨law.issue acted, trivial⟩
      | error failure =>
          cases failure with
          | fault fault => exact acted
          | panic message => exact acted

theorem rest_keeps (law : Upkeep handlers ok blame holds) (inner : Step R) (every : inner.Every ok) :
    Keeps ok blame holds [] (Poll.rest inner) := by
  intro waits cell held
  exact ⟨law.rest (law.issue held) _, every⟩

theorem iterate_keeps (law : Upkeep handlers ok blame holds) (body : Poll R) (inner : Step R) (left : Option Nat)
    (next : Value R → Poll R) (every : inner.Every ok) (bodyKeeps : Keeps ok blame holds [] body)
    (further : ∀ value, Keeps ok blame holds [] (next value)) :
    Keeps ok blame holds [] (Poll.iterate body inner left next) := by
  intro waits cell held
  unfold Poll.iterate
  by_cases cancelled : cell.cancelled = true
  · rw [if_pos cancelled]
    exact ⟨held, law.cancelled held cancelled⟩
  · rw [if_neg cancelled]
    exact bind_keeps [] body (fun run => .repeated run inner left) next bodyKeeps further (fun _ => rfl)
      (fun _ fit => ⟨fit, every⟩) waits cell held

theorem iterations_keeps (law : Upkeep handlers ok blame holds) (body : Poll R) (inner : Step R)
    (every : inner.Every ok) (bodyKeeps : Keeps ok blame holds [] body) (left : Nat) (last : Value R) :
    Keeps ok blame holds [] (Poll.iterations body inner left last) := by
  induction left generalizing last with
  | zero => exact done_keeps last
  | succ left ih => exact iterate_keeps law body inner (some left) _ every bodyKeeps ih

theorem endless_keeps (law : Upkeep handlers ok blame holds) (body : Poll R) (inner : Step R)
    (every : inner.Every ok) (bodyKeeps : Keeps ok blame holds [] body) :
    Keeps ok blame holds [] (Poll.endless body inner) :=
  iterate_keeps law body inner none _ every bodyKeeps fun _ => rest_keeps law inner every

theorem further_keeps (law : Upkeep handlers ok blame holds) (body : Poll R) (inner : Step R)
    (every : inner.Every ok) (bodyKeeps : Keeps ok blame holds [] body) (left : Option Nat) (last : Value R) :
    Keeps ok blame holds [] (Poll.further body inner left last) := by
  cases left with
  | none => exact rest_keeps law inner every
  | some left => exact iterations_keeps law body inner every bodyKeeps left last

mutual
theorem dispatch_keeps (law : Upkeep handlers ok blame holds) (step : Step R) (every : step.Every ok) :
    Keeps ok blame holds [] (step.dispatch handlers) := by
  cases step with
  | action label device operation args => exact perform_keeps law _ every
  | sequence label first next select =>
      rw [Step.dispatch]
      refine bind_keeps [] _ (fun run => .bound run next select) _ ?_ ?_ (fun _ => rfl) (fun _ fit => ⟨fit, every.2⟩)
      · exact attempted_keeps law first every.1 _ (dispatch_keeps law first every.1)
      · intro value
        exact select_keeps [] _ value select (follow_keeps law (next value) (every.2 value))
  | map label source transform =>
      rw [Step.dispatch]
      exact map_keeps [] _ transform (attempted_keeps law source every _ (dispatch_keeps law source every))
  | scope label inner =>
      rw [Step.dispatch]
      exact attempted_keeps law inner every _ (dispatch_keeps law inner every)
  | parallel label steps =>
      rw [Step.dispatch]
      exact fork_keeps law steps _ ((every_of_iff ok steps).mp every) (start_all_length handlers steps)
        (start_all_keeps law steps every)
  | loop label inner count =>
      have bodyKeeps := attempted_keeps law inner every _ (dispatch_keeps law inner every)
      rw [Step.dispatch]
      by_cases endless : count < 0
      · simp only [if_pos endless]
        exact endless_keeps law _ inner every bodyKeeps
      · simp only [if_neg endless]
        exact iterations_keeps law _ inner every bodyKeeps _ _

theorem follow_keeps (law : Upkeep handlers ok blame holds) (next : Except (Option String) (Step R))
    (every : Step.EveryNext ok next) : Keeps ok blame holds [] (Step.follow handlers next) := by
  cases next with
  | error message => exact broken_keeps message
  | ok step =>
      rw [Step.follow]
      exact attempted_keeps law step every _ (dispatch_keeps law step every)

theorem start_all_keeps (law : Upkeep handlers ok blame holds) (steps : List (Step R))
    (every : Step.EveryOf ok steps) : ∀ poll ∈ Step.startAll handlers steps, Keeps ok blame holds [] poll := by
  cases steps with
  | nil => simp [Step.startAll]
  | cons step rest =>
      intro poll member
      rw [Step.startAll] at member
      rcases List.mem_cons.mp member with rfl | inside
      · exact attempted_keeps law step every.1 _ (dispatch_keeps law step every.1)
      · exact start_all_keeps law rest every.2 poll inside
end

theorem start_keeps (law : Upkeep handlers ok blame holds) (step : Step R) (every : step.Every ok) :
    Keeps ok blame holds [] (step.start handlers) :=
  attempted_keeps law step every _ (dispatch_keeps law step every)

theorem look_keeps (law : Upkeep handlers ok blame holds) (key : Nat) (wait : Wait R) :
    Keeps ok blame holds [wait] (Poll.look key wait) := by
  intro waits cell held
  unfold Poll.look
  by_cases cancelled : cell.cancelled = true
  · rw [if_pos cancelled]
    exact ⟨law.abandon held, law.cancelled held cancelled⟩
  · rw [if_neg cancelled]
    have looked := law.look held (by simpa using cancelled)
    rcases result : cell.look wait with ⟨reply, after⟩
    rw [result] at looked
    cases reply with
    | value value => exact looked
    | waiting next => exact ⟨looked, trivial⟩

end Workcell.Upkeep

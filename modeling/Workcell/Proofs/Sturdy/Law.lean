import Workcell.Proofs.Upkeep.Touch
import Workcell.Proofs.Upkeep.Turn

/-!
Flows that break down only where their actions do.

A step is sturdy when no attempt at it runs the counter of attempts out and nothing that it builds breaks down. A turn
of a run of such steps leaves the cell safe, ends in no breakdown unless it is late, and leaves a run of the same sort.
-/

set_option autoImplicit false

namespace Workcell

variable {R : Type}

def Fault.isBreakdown : Fault → Bool
  | .panicked _ => true
  | _ => false

-- There is a number for every attempt, and waits have the bound of the run.
def Label.Sturdy (label : Label) : Prop := label.policy.retries < Step.maxRetries ∧ label.policy.timeout = none

mutual
def Step.Sturdy : Step R → Prop
  | .action label _ _ _ => label.Sturdy
  | .sequence label first next _ => label.Sturdy ∧ first.Sturdy ∧ ∀ value, Step.SturdyNext (next value)
  | .map label source _ => label.Sturdy ∧ source.Sturdy
  | .scope label inner => label.Sturdy ∧ inner.Sturdy
  | .parallel label steps => label.Sturdy ∧ Step.SturdyAll steps
  | .loop label inner _ => label.Sturdy ∧ inner.Sturdy

def Step.SturdyNext : Except (Option String) (Step R) → Prop
  | .ok step => step.Sturdy
  | .error _ => False

def Step.SturdyAll : List (Step R) → Prop
  | [] => True
  | step :: rest => step.Sturdy ∧ Step.SturdyAll rest
end

mutual
def Run.Sturdy : Run R → Prop
  | .waiting _ _ => True
  | .attempt step number inside => step.Sturdy ∧ number ≤ step.policy.retries + 1 ∧ inside.Sturdy
  | .bound run next _ => run.Sturdy ∧ ∀ value, Step.SturdyNext (next value)
  | .mapped run _ => run.Sturdy
  | .joined _ _ branches => Run.SturdyAll branches
  | .repeated run inner _ => run.Sturdy ∧ inner.Sturdy
  | .resting _ inner => inner.Sturdy

def Branch.Sturdy : Branch R → Prop
  | .fresh step => step.Sturdy
  | .running run => run.Sturdy
  | .ended _ => True
  | .failed fault => fault.isBreakdown = false

def Run.SturdyAll : List (Branch R) → Prop
  | [] => True
  | branch :: rest => branch.Sturdy ∧ Run.SturdyAll rest
end

-- What comes of a sturdy run: a breakdown only if it is `late`.
def Progress.Sturdy (late : Prop) : Progress R → Prop
  | .done _ => True
  | .fault reason => reason.isBreakdown = false
  | .panicked _ => late
  | .pending run => run.Sturdy

def Poll.Firm (safe : Cell R → Prop) (late : Prop) (poll : Poll R) : Prop :=
  ∀ cell, safe cell → safe (poll cell).2 ∧ (poll cell).1.Sturdy late

theorem Step.Sturdy.label {step : Step R} (sturdy : step.Sturdy) : step.label.Sturdy := by
  cases step with
  | action label device operation args => exact sturdy
  | sequence label first next select => exact sturdy.1
  | map label source transform => exact sturdy.1
  | scope label inner => exact sturdy.1
  | parallel label steps => exact sturdy.1
  | loop label inner count => exact sturdy.1

theorem Step.sturdy_all_iff (steps : List (Step R)) : Step.SturdyAll steps ↔ ∀ step ∈ steps, step.Sturdy := by
  induction steps with
  | nil => simp [Step.SturdyAll]
  | cons step rest ih => simp [Step.SturdyAll, ih]

theorem Run.sturdy_all_iff (branches : List (Branch R)) :
    Run.SturdyAll branches ↔ ∀ branch ∈ branches, branch.Sturdy := by
  induction branches with
  | nil => simp [Run.SturdyAll]
  | cons branch rest ih => simp [Run.SturdyAll, ih]

-- What makes a cell `safe`: all that a turn can do leaves it so, and an action that sets no bound of its own breaks
-- down only when it is `late`.
structure Shelter [Scalar R] (handlers : HandlerTable R) (safe : Cell R → Prop) (late : Prop) : Prop where
  trace : ∀ {cell}, safe cell → ∀ step status number, safe (cell.trace step status number)
  appeal : ∀ {cell}, safe cell → ∀ step fault, safe (cell.appeal step fault).2
  issue : ∀ {cell}, safe cell → safe cell.issue.2
  again : ∀ {cell}, safe cell → ∀ key, safe (cell.effect (.again key))
  rest : ∀ {cell}, safe cell → ∀ key, safe (cell.effect (.rest key))
  refused : ∀ {cell call fault}, handlers.resolve cell call = .error fault → fault.isBreakdown = false
  act : ∀ {cell call handler}, safe cell → call.timeout = none → handlers.resolve cell call = .ok handler →
    safe (handler call cell).2 ∧ match (handler call cell).1 with
      | .ok _ => True
      | .error (.fault fault) => fault.isBreakdown = false
      | .error (.panic _) => late
  look : ∀ {cell}, safe cell → ∀ wait, safe (cell.look wait).2
  abandon : ∀ {cell}, safe cell → ∀ wait : Wait R, safe (wait.abandon cell)

namespace Poll.Firm

variable {safe : Cell R → Prop} {late : Prop}

theorem done (value : Value R) : Firm safe late (Poll.done value) := fun _ held => ⟨held, trivial⟩

theorem bind (poll : Poll R) (hold : Run R → Run R) (next : Value R → Poll R) (first : Firm safe late poll)
    (second : ∀ value, Firm safe late (next value)) (holds : ∀ run, run.Sturdy → (hold run).Sturdy) :
    Firm safe late (poll.bind hold next) := by
  intro cell held
  have turn := first cell held
  unfold Poll.bind
  rcases result : poll cell with ⟨progress, after⟩
  rw [result] at turn
  cases progress with
  | done value => exact second value after turn.1
  | fault fault => exact turn
  | panicked message => exact turn
  | pending run => exact ⟨turn.1, holds run turn.2⟩

theorem map (poll : Poll R) (transform : Value R → Value R) (firm : Firm safe late poll) :
    Firm safe late (poll.map transform) :=
  bind poll _ _ firm (fun _ _ held => ⟨held, trivial⟩) fun _ sturdy => sturdy

theorem select (poll : Poll R) (first : Value R) (select : Option (Value R → Value R → Value R))
    (firm : Firm safe late poll) : Firm safe late (poll.select first select) := by
  cases select with
  | none => exact firm
  | some select => exact map poll (select first) firm

theorem iterate (body : Poll R) (inner : Step R) (sturdy : inner.Sturdy) (firm : Firm safe late body)
    (left : Option Nat) (next : Value R → Poll R) (further : ∀ value, Firm safe late (next value)) :
    Firm safe late (Poll.iterate body inner left next) := by
  intro cell held
  unfold Poll.iterate
  by_cases cancelled : cell.cancelled = true
  · rw [if_pos cancelled]
    exact ⟨held, rfl⟩
  · rw [if_neg cancelled]
    exact bind body (fun run => .repeated run inner left) next firm further (fun _ still => ⟨still, sturdy⟩) cell held

theorem iterations (body : Poll R) (inner : Step R) (sturdy : inner.Sturdy) (firm : Firm safe late body) (left : Nat)
    (last : Value R) : Firm safe late (Poll.iterations body inner left last) := by
  induction left generalizing last with
  | zero => exact done last
  | succ left ih => exact iterate body inner sturdy firm (some left) _ ih

end Poll.Firm

namespace Shelter

variable [Scalar R] {handlers : HandlerTable R} {safe : Cell R → Prop} {late : Prop}
  (shelter : Shelter handlers safe late)

include shelter

theorem upkeep : Upkeep handlers (fun call => call.timeout = none) (fun fault => fault.isBreakdown = false)
    fun _ => safe where
  perm _ held := held
  trace held := shelter.trace held
  appeal held := shelter.appeal held
  issue held := shelter.issue held
  again held := shelter.again held
  rest held := shelter.rest held
  cancelled _ _ := rfl
  refused _ _ refuses := shelter.refused refuses
  act := by
    intro _ cell call handler held unbounded resolved
    have acted := shelter.act held unbounded resolved
    rcases result : handler call cell with ⟨outcome, after⟩
    rw [result] at acted
    cases outcome with
    | ok reply => exact acted.1
    | error failure =>
        cases failure with
        | fault fault => exact acted
        | panic message => exact acted.1
  look held _ := shelter.look held _
  abandon held := shelter.abandon held _

theorem abandon_all (branches : List (Branch R)) (cell : Cell R) (held : safe cell) :
    safe (Run.abandonAll branches cell) :=
  Upkeep.abandon_all_keeps shelter.upkeep branches [] cell held

section Attempts

variable (step : Step R) (sturdy : step.Sturdy) (body : Poll R) (firm : body.Firm safe late)

include sturdy

theorem settle_firm (number : Nat) (inRange : number ≤ step.policy.retries + 1) (again : Option (Poll R))
    (exhausted : Fault → Poll R) (further : ∀ poll, again = some poll → poll.Firm safe late)
    (given : ∀ fault, fault.isBreakdown = false → (exhausted fault).Firm safe late) (progress : Progress R)
    (cell : Cell R) (held : safe cell) (turn : progress.Sturdy late) :
    safe (step.settle number again exhausted progress cell).2 ∧
      (step.settle number again exhausted progress cell).1.Sturdy late := by
  cases progress with
  | done value => exact ⟨shelter.trace held step .completed number, trivial⟩
  | panicked message => exact ⟨held, turn⟩
  | pending run => exact ⟨held, sturdy, inRange, turn⟩
  | fault fault =>
      have traced := shelter.trace held step (.error fault.message) number
      by_cases cancelled : fault.isCancellation = true
      · simp only [Step.settle, if_pos cancelled]
        exact ⟨traced, turn⟩
      · simp only [Step.settle, if_neg cancelled]
        cases again with
        | some poll => exact further poll rfl _ traced
        | none => exact given fault turn _ traced

include firm

-- The number of an attempt is in range of the counter, for the step is sturdy.
theorem attempt_firm (number : Nat) (inRange : number ≤ step.policy.retries + 1) (again : Option (Poll R))
    (exhausted : Fault → Poll R) (further : ∀ poll, again = some poll → poll.Firm safe late)
    (given : ∀ fault, fault.isBreakdown = false → (exhausted fault).Firm safe late) :
    (step.attempt body number again exhausted).Firm safe late := by
  intro cell held
  unfold Step.attempt
  by_cases cancelled : cell.cancelled = true
  · rw [if_pos cancelled]
    exact ⟨held, rfl⟩
  · have counted : ¬ Step.maxRetries < number :=
      Nat.not_lt.mpr (Nat.le_trans inRange sturdy.label.1)
    rw [if_neg cancelled, if_neg counted]
    have turn := firm _ (shelter.trace held step .running number)
    exact shelter.settle_firm step sturdy number inRange again exhausted further given _ _ turn.1 turn.2

theorem tries_firm (exhausted : Nat → Fault → Poll R)
    (given : ∀ number fault, fault.isBreakdown = false → (exhausted number fault).Firm safe late) (left number : Nat)
    (inRange : number + left ≤ step.policy.retries + 1) :
    (step.tries body exhausted left number).Firm safe late := by
  induction left generalizing number with
  | zero =>
      rw [Step.tries_zero]
      exact shelter.attempt_firm step sturdy body firm number inRange none _ (fun _ same => nomatch same) (given number)
  | succ left ih =>
      rw [Step.tries_succ]
      refine shelter.attempt_firm step sturdy body firm number (by omega) _ _ ?_ (given number)
      intro poll same
      cases same
      exact ih (number + 1) (by omega)

omit firm sturdy

theorem escalate_firm (again : Option (Poll R)) (further : ∀ poll, again = some poll → poll.Firm safe late)
    (number : Nat) (fault : Fault) (mild : fault.isBreakdown = false) :
    (step.escalate again number fault).Firm safe late := by
  intro cell held
  unfold Step.escalate
  by_cases asks : step.policy.onError.escalates = true
  · rw [if_pos asks]
    have asked := shelter.appeal held step fault
    rcases answer : cell.appeal step fault with ⟨resolution, after⟩
    rw [answer] at asked
    cases resolution with
    | propagate => exact ⟨asked, mild⟩
    | substitute value => exact ⟨shelter.trace asked step .completed number, trivial⟩
    | retry =>
        cases again with
        | some poll => exact further poll rfl after asked
        | none => exact ⟨asked, mild⟩
  · rw [if_neg asks]
    exact ⟨held, mild⟩

include firm sturdy

theorem rounds_firm (answers : Nat) : (step.rounds body answers).Firm safe late := by
  have inRange : 1 + step.policy.retries ≤ step.policy.retries + 1 := Nat.le_of_eq (Nat.add_comm _ _)
  induction answers with
  | zero =>
      refine shelter.tries_firm step sturdy body firm _ (fun number fault mild => ?_) _ 1 inRange
      exact shelter.escalate_firm step none (fun _ same => nomatch same) number fault mild
  | succ answers ih =>
      refine shelter.tries_firm step sturdy body firm _ (fun number fault mild => ?_) _ 1 inRange
      refine shelter.escalate_firm step _ (fun poll same => ?_) number fault mild
      cases same
      exact ih

theorem exhausted_firm (number : Nat) (fault : Fault) (mild : fault.isBreakdown = false) :
    (step.exhausted body number fault).Firm safe late := by
  intro cell held
  refine shelter.escalate_firm step _ (fun poll same => ?_) number fault mild cell held
  cases answers : cell.hook.script.length with
  | zero => simp [answers] at same
  | succ answers' =>
      have rounds : step.rounds body answers' = poll := by simpa [answers] using same
      exact rounds ▸ shelter.rounds_firm step sturdy body firm answers'

theorem attempted_firm : (step.attempted body).Firm safe late :=
  fun cell held => shelter.rounds_firm step sturdy body firm cell.hook.script.length cell held

theorem reattempted_firm (number : Nat) (inRange : number ≤ step.policy.retries + 1) (progress : Progress R)
    (cell : Cell R) (held : safe cell) (turn : progress.Sturdy late) :
    safe (step.reattempted body number progress cell).2 ∧ (step.reattempted body number progress cell).1.Sturdy late := by
  have given := shelter.exhausted_firm step sturdy body firm
  refine shelter.settle_firm step sturdy number inRange _ _ ?_ (given number) progress cell held turn
  intro poll same
  by_cases more : number ≤ step.policy.retries
  · rw [if_pos more] at same
    cases same
    exact shelter.tries_firm step sturdy body firm _ given _ _ (by omega)
  · rw [if_neg more] at same
    cases same

end Attempts

end Shelter

end Workcell

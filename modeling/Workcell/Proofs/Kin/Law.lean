import Workcell.Proofs.Kin.Recast
import Workcell.Proofs.Upkeep.Law

/-!
Kindred cells: a run that is cast anew does in the one what the run itself does in the other, and leaves kindred cells
behind.

Whoever has shown this of each single act has it for whole attempts.
-/

set_option autoImplicit false

namespace Workcell

variable {R : Type} [Scalar R]

-- A relation of cells that all acts of a turn keep, with calls that are `ok`: they do the same on both sides, up to
-- the casting of what is left to be done.
structure Kindred (handlers : HandlerTable R) (ok : Call R → Prop) (cast : Recast R) (kin : Cell R → Cell R → Prop) :
    Prop where
  cancelled : ∀ {cell other}, kin cell other → other.cancelled = cell.cancelled
  hook : ∀ {cell other}, kin cell other → other.hook = cell.hook
  trace : ∀ {cell other}, kin cell other → ∀ step status number,
    kin (cell.trace step status number) (other.trace (step.renamed cast.name) status number)
  appeal : ∀ {cell other}, kin cell other → ∀ step fault,
    kin (cell.appeal step fault).2 (other.appeal (step.renamed cast.name) fault).2
  issue : ∀ {cell other}, kin cell other → other.issued = cast.key cell.issued ∧ kin cell.issue.2 other.issue.2
  again : ∀ {cell other}, kin cell other → ∀ key,
    kin (cell.effect (.again key)) (other.effect (.again (cast.key key)))
  rest : ∀ {cell other}, kin cell other → ∀ key, kin (cell.effect (.rest key)) (other.effect (.rest (cast.key key)))
  resolve : ∀ {cell other}, kin cell other → ∀ call, handlers.resolve other call = handlers.resolve cell call
  act : ∀ {cell other}, kin cell other → ∀ call handler, ok call → handlers.resolve cell call = .ok handler →
    (handler call other).1 = (handler call cell).1.map (Reply.recast cast) ∧ kin (handler call cell).2 (handler call other).2
  look : ∀ {cell other}, kin cell other → ∀ wait,
    (other.look (cast.wait wait)).1 = (cell.look wait).1.recast cast ∧
      kin (cell.look wait).2 (other.look (cast.wait wait)).2
  abandon : ∀ {cell other}, kin cell other → ∀ wait, kin (wait.abandon cell) ((cast.wait wait).abandon other)

def Poll.Kin (cast : Recast R) (kin : Cell R → Cell R → Prop) (poll other : Poll R) : Prop :=
  ∀ cell copy, kin cell copy → (other copy).1 = (poll cell).1.recast cast ∧ kin (poll cell).2 (other copy).2

variable {handlers : HandlerTable R} {ok : Call R → Prop} {cast : Recast R} {kin : Cell R → Cell R → Prop}

namespace Poll.Kin

omit [Scalar R] in
theorem done (value : Value R) : Kin cast kin (Poll.done value) (Poll.done value) :=
  fun _ _ alike => ⟨rfl, alike⟩

omit [Scalar R] in
theorem broken (message : Option String) : Kin (R := R) cast kin (Poll.broken message) (Poll.broken message) :=
  fun _ _ alike => ⟨rfl, alike⟩

omit [Scalar R] in
theorem bind (poll other : Poll R) (hold held : Run R → Run R) (next after : Value R → Poll R)
    (first : Kin cast kin poll other) (second : ∀ value, Kin cast kin (next value) (after value))
    (holds : ∀ run, (hold run).recast cast = held (run.recast cast)) :
    Kin cast kin (poll.bind hold next) (other.bind held after) := by
  intro cell copy alike
  obtain ⟨same, alike⟩ := first cell copy alike
  unfold Poll.bind
  rcases result : poll cell with ⟨progress, later⟩
  rcases resultCopy : other copy with ⟨progressCopy, laterCopy⟩
  rw [result, resultCopy] at same alike
  cases same
  cases progress with
  | done value => exact second value later laterCopy alike
  | fault fault => exact ⟨rfl, alike⟩
  | panicked message => exact ⟨rfl, alike⟩
  | pending run => exact ⟨by simp [Progress.recast, holds], alike⟩

omit [Scalar R] in
theorem map (poll other : Poll R) (transform : Value R → Value R) (same : Kin cast kin poll other) :
    Kin cast kin (poll.map transform) (other.map transform) :=
  bind poll other _ _ _ _ same (fun _ _ _ alike => ⟨rfl, alike⟩) fun run => by simp [Run.recast]

omit [Scalar R] in
theorem select (poll other : Poll R) (first : Value R) (select : Option (Value R → Value R → Value R))
    (same : Kin cast kin poll other) : Kin cast kin (poll.select first select) (other.select first select) := by
  cases select with
  | none => exact same
  | some select => exact map poll other (select first) same

variable (law : Kindred handlers ok cast kin)

include law

theorem perform (call : Call R) (allowed : ok call) :
    Kin cast kin (Poll.perform handlers call) (Poll.perform handlers call) := by
  intro cell copy alike
  unfold Poll.perform
  rw [law.resolve alike call]
  cases resolved : handlers.resolve cell call with
  | error fault => exact ⟨rfl, alike⟩
  | ok handler =>
      obtain ⟨same, after⟩ := law.act alike call handler allowed resolved
      simp only [Poll.ofAct]
      rcases result : handler call cell with ⟨outcome, later⟩
      rcases resultCopy : handler call copy with ⟨outcomeCopy, laterCopy⟩
      rw [result, resultCopy] at same after
      cases same
      cases outcome with
      | ok reply =>
          cases reply with
          | value value => exact ⟨rfl, after⟩
          | waiting wait =>
              obtain ⟨issued, alikeNow⟩ := law.issue after
              refine ⟨?_, alikeNow⟩
              show Progress.pending (Run.waiting laterCopy.issued (cast.wait wait)) =
                (Progress.pending (Run.waiting later.issued wait)).recast cast
              rw [issued, Progress.recast, Run.recast]
      | error failure =>
          cases failure with
          | fault fault => exact ⟨rfl, after⟩
          | panic message => exact ⟨rfl, after⟩

theorem look (key : Nat) (wait : Wait R) :
    Kin cast kin (Poll.look key wait) (Poll.look (cast.key key) (cast.wait wait)) := by
  intro cell copy alike
  unfold Poll.look
  rw [law.cancelled alike]
  by_cases cut : cell.cancelled = true
  · rw [if_pos cut, if_pos cut]
    exact ⟨rfl, law.abandon alike wait⟩
  · rw [if_neg cut, if_neg cut]
    obtain ⟨same, after⟩ := law.look alike wait
    rcases result : cell.look wait with ⟨reply, later⟩
    rcases resultCopy : copy.look (cast.wait wait) with ⟨replyCopy, laterCopy⟩
    rw [result, resultCopy] at same after
    cases same
    cases reply with
    | value value => exact ⟨rfl, after⟩
    | waiting next => exact ⟨by simp [Progress.recast, Run.recast], after⟩

end Poll.Kin

def Poll.KinNext (cast : Recast R) (kin : Cell R → Cell R → Prop) :
    Option (Poll R) → Option (Poll R) → Prop
  | none, none => True
  | some poll, some other => Poll.Kin cast kin poll other
  | _, _ => False

namespace Step

variable (law : Kindred handlers ok cast kin) (step : Step R)

include law

theorem settle_kin (number : Nat) (again againCopy : Option (Poll R)) (exhausted exhaustedCopy : Fault → Poll R)
    (next : Poll.KinNext cast kin again againCopy)
    (last : ∀ fault, Poll.Kin cast kin (exhausted fault) (exhaustedCopy fault)) (progress : Progress R) :
    Poll.Kin cast kin (step.settle number again exhausted progress)
      ((step.renamed cast.name).settle number againCopy exhaustedCopy (progress.recast cast)) := by
  intro cell copy alike
  cases progress with
  | done value => exact ⟨rfl, law.trace alike step .completed number⟩
  | panicked message => exact ⟨rfl, alike⟩
  | pending run => exact ⟨by simp [settle, Progress.recast, Run.recast], alike⟩
  | fault fault =>
      have traced := law.trace alike step (.error fault.message) number
      by_cases cut : fault.isCancellation = true
      · simp only [settle, Progress.recast, if_pos cut]
        exact ⟨trivial, traced⟩
      · simp only [settle, Progress.recast, if_neg cut]
        cases again with
        | none =>
            cases againCopy with
            | none => exact last fault _ _ traced
            | some other => exact next.elim
        | some again =>
            cases againCopy with
            | none => exact next.elim
            | some other => exact next _ _ traced

theorem attempt_kin (body bodyCopy : Poll R) (same : Poll.Kin cast kin body bodyCopy) (number : Nat)
    (again againCopy : Option (Poll R)) (exhausted exhaustedCopy : Fault → Poll R)
    (next : Poll.KinNext cast kin again againCopy)
    (last : ∀ fault, Poll.Kin cast kin (exhausted fault) (exhaustedCopy fault)) :
    Poll.Kin cast kin (step.attempt body number again exhausted)
      ((step.renamed cast.name).attempt bodyCopy number againCopy exhaustedCopy) := by
  intro cell copy alike
  unfold attempt
  rw [law.cancelled alike]
  by_cases cut : cell.cancelled = true
  · rw [if_pos cut, if_pos cut]
    exact ⟨rfl, alike⟩
  · rw [if_neg cut, if_neg cut]
    by_cases full : maxRetries < number
    · rw [if_pos full, if_pos full]
      exact ⟨rfl, alike⟩
    · rw [if_neg full, if_neg full]
      obtain ⟨outcome, after⟩ := same _ _ (law.trace alike step .running number)
      rcases result : body (cell.trace step .running number) with ⟨progress, later⟩
      rcases resultCopy : bodyCopy (copy.trace (step.renamed cast.name) .running number) with ⟨progressCopy, laterCopy⟩
      rw [result, resultCopy] at outcome after
      cases outcome
      exact settle_kin law step number again againCopy exhausted exhaustedCopy next last progress later laterCopy after

theorem tries_kin (body bodyCopy : Poll R) (same : Poll.Kin cast kin body bodyCopy)
    (exhausted exhaustedCopy : Nat → Fault → Poll R)
    (last : ∀ number fault, Poll.Kin cast kin (exhausted number fault) (exhaustedCopy number fault))
    (left number : Nat) :
    Poll.Kin cast kin (step.tries body exhausted left number)
      ((step.renamed cast.name).tries bodyCopy exhaustedCopy left number) := by
  induction left generalizing number with
  | zero => exact attempt_kin law step body bodyCopy same number none none _ _ trivial (last number)
  | succ left ih => exact attempt_kin law step body bodyCopy same number (some _) (some _) _ _ (ih _) (last number)

theorem escalate_kin (again againCopy : Option (Poll R)) (next : Poll.KinNext cast kin again againCopy)
    (number : Nat) (fault : Fault) :
    Poll.Kin cast kin (step.escalate again number fault)
      ((step.renamed cast.name).escalate againCopy number fault) := by
  intro cell copy alike
  unfold escalate
  rw [renamed_policy]
  by_cases asks : step.policy.onError.escalates = true
  · rw [if_pos asks, if_pos asks]
    have asked := law.appeal alike step fault
    have answer : (copy.appeal (step.renamed cast.name) fault).1 = (cell.appeal step fault).1 := by
      simp only [Cell.appeal, law.hook alike]
    rcases result : cell.appeal step fault with ⟨resolution, later⟩
    rcases resultCopy : copy.appeal (step.renamed cast.name) fault with ⟨resolutionCopy, laterCopy⟩
    rw [result, resultCopy] at asked answer
    cases answer
    cases resolution with
    | propagate => exact ⟨rfl, asked⟩
    | substitute value => exact ⟨rfl, law.trace asked step .completed number⟩
    | retry =>
        cases again with
        | none =>
            cases againCopy with
            | none => exact ⟨rfl, asked⟩
            | some other => exact next.elim
        | some again =>
            cases againCopy with
            | none => exact next.elim
            | some other => exact next _ _ asked
  · rw [if_neg asks, if_neg asks]
    exact ⟨rfl, alike⟩

variable (body bodyCopy : Poll R) (same : Poll.Kin cast kin body bodyCopy)

include same

theorem rounds_kin (answers : Nat) :
    Poll.Kin cast kin (step.rounds body answers) ((step.renamed cast.name).rounds bodyCopy answers) := by
  induction answers with
  | zero =>
      rw [rounds, rounds, renamed_policy]
      exact tries_kin law step body bodyCopy same _ _ (escalate_kin law step none none trivial) _ _
  | succ answers ih =>
      rw [rounds, rounds, renamed_policy]
      exact tries_kin law step body bodyCopy same _ _ (escalate_kin law step (some _) (some _) ih) _ _

theorem exhausted_kin (number : Nat) (fault : Fault) :
    Poll.Kin cast kin (step.exhausted body number fault) ((step.renamed cast.name).exhausted bodyCopy number fault) := by
  intro cell copy alike
  unfold exhausted
  rw [law.hook alike]
  cases cell.hook.script.length with
  | zero => exact escalate_kin law step none none trivial number fault cell copy alike
  | succ answers =>
      have again := rounds_kin law step body bodyCopy same answers
      exact escalate_kin law step (some _) (some _) again number fault cell copy alike

theorem attempted_kin : Poll.Kin cast kin (step.attempted body) ((step.renamed cast.name).attempted bodyCopy) := by
  intro cell copy alike
  unfold attempted
  rw [law.hook alike]
  exact rounds_kin law step body bodyCopy same _ cell copy alike

theorem reattempted_kin (number : Nat) (progress : Progress R) :
    Poll.Kin cast kin (step.reattempted body number progress)
      ((step.renamed cast.name).reattempted bodyCopy number (progress.recast cast)) := by
  have last := exhausted_kin law step body bodyCopy same
  unfold reattempted
  rw [renamed_policy]
  by_cases more : number ≤ step.policy.retries
  · rw [if_pos more, if_pos more]
    exact settle_kin law step number (some _) (some _) _ _
      (tries_kin law step body bodyCopy same _ _ last _ _) (last number) progress
  · rw [if_neg more, if_neg more]
    exact settle_kin law step number none none _ _ trivial (last number) progress

end Step

end Workcell

import Workcell.Flow.Build
import Workcell.Proofs.Completion.Ends
import Workcell.Proofs.Fractions
import Workcell.Proofs.Retrying.Protocol

/-!
A node at which every attempt fails, and which does not ask the host: it ends, by the fault of its last attempt, once it
has made all of its attempts, as long as the attempts can be counted.

That it ends is said of all that others may do between its turns: an end is bound to come if it has come, or if it is
bound to come whatever the next turn is given. The induction is on the attempts that are left; the diary tells how many
there have been.
-/

set_option autoImplicit false

namespace Workcell

variable {R : Type}

def Incident.failures (attempt : Nat) : List Fault → List (Incident R)
  | [] => []
  | reason :: rest => Incident.failed attempt reason ++ failures (attempt + 1) rest

theorem Incident.failures_append (attempt : Nat) (reasons : List Fault) (last : Fault) :
    (failures attempt (reasons ++ [last]) : List (Incident R)) =
      failures attempt reasons ++ failed (attempt + reasons.length) last := by
  induction reasons generalizing attempt with
  | nil => simp [failures]
  | cons reason rest ih => simp [failures, ih, Nat.add_assoc, Nat.add_comm 1]

variable [Scalar R]

-- Whatever others do between the turns, after finitely many of them it comes to this.
inductive BoundFor (handlers : HandlerTable R) (others : Cell R → Cell R → Prop) (goal : Progress R → Cell R → Prop) :
    Progress R × Cell R → Prop where
  | reached {progress cell} (met : goal progress cell) : BoundFor handlers others goal (progress, cell)
  | later {run cell}
      (always : ∀ between keys, others cell between →
        BoundFor handlers others goal ((run.wake keys).resume handlers between)) :
      BoundFor handlers others goal (.pending run, cell)

namespace BoundFor

variable {handlers : HandlerTable R} {others : Cell R → Cell R → Prop} {goal other : Progress R → Cell R → Prop}
  {turn : Progress R × Cell R}

theorem meets (bound : BoundFor handlers others goal turn) (also : BoundFor handlers others other turn)
    (given : ∀ cell, ∃ between, others cell between) (ended : ∀ run cell, ¬ goal (.pending run) cell)
    (alsoEnded : ∀ run cell, ¬ other (.pending run) cell) : ∃ progress cell, goal progress cell ∧ other progress cell := by
  induction bound with
  | @reached progress cell met =>
      cases also with
      | reached alsoMet => exact ⟨progress, cell, met, alsoMet⟩
      | @later run always => exact absurd met (ended run cell)
  | @later run cell always ih =>
      cases also with
      | reached alsoMet => exact absurd alsoMet (alsoEnded run cell)
      | later alsoAlways =>
          obtain ⟨between, changed⟩ := given cell
          exact ih between [] changed (alsoAlways between [] changed)

variable {step : Step R} {first : Cell R} {history : List (Incident R)}

theorem told (bound : BoundFor handlers others goal turn)
    (diary : step.Diary handlers others first (history ++ turn.1.came) turn.1.inside turn.2) :
    BoundFor handlers others
      (fun progress cell => goal progress cell ∧
        step.Diary handlers others first (history ++ progress.came) progress.inside cell) turn := by
  induction bound with
  | reached met => exact .reached ⟨met, diary⟩
  | @later run cell always ih =>
      have held : step.Diary handlers others first history (some run) cell := by
        simpa [Progress.came, Progress.inside] using diary
      exact .later fun between keys changed => ih between keys changed (held.resumed changed keys rfl)

theorem reattempted (attempt : Nat) (bound : BoundFor handlers others goal turn)
    (follows : ∀ progress cell, goal progress cell →
      BoundFor handlers others other (step.reattempted (step.dispatch handlers) attempt progress cell)) :
    BoundFor handlers others other (step.reattempted (step.dispatch handlers) attempt turn.1 turn.2) := by
  induction bound with
  | reached met => exact follows _ _ met
  | @later run cell always ih =>
      change BoundFor handlers others other (.pending (.attempt step attempt run), cell)
      refine .later fun between keys changed => ?_
      rw [Run.wake_attempt]
      exact ih between keys changed

end BoundFor

namespace Step

variable {handlers : HandlerTable R} {others : Cell R → Cell R → Prop} {step : Step R} {first : Cell R}

-- Every attempt at the node fails, and no cancellation is the reason: `begins` tells of the cells in which the
-- attempts begin.
def Fails (handlers : HandlerTable R) (others : Cell R → Cell R → Prop) (begins : Nat → Cell R → Prop) (step : Step R) :
    Prop :=
  ∀ attempt cell, begins attempt cell → cell.cancelled = false ∧
    BoundFor handlers others
      (fun progress after => ∃ reason, progress = .fault reason ∧ reason.isCancellation = false ∧
        (attempt ≤ step.policy.retries → begins (attempt + 1) (after.trace step (.error reason.message) attempt)))
      (step.dispatch handlers (cell.trace step .running attempt))

def GivesUp (handlers : HandlerTable R) (others : Cell R → Cell R → Prop) (step : Step R) (first : Cell R) (retries : Nat)
    (progress : Progress R) (cell : Cell R) : Prop :=
  ∃ reasons last, step.Diary handlers others first (Incident.failures 1 (reasons ++ [last])) none cell ∧
    reasons.length = retries ∧ progress = .fault last

-- The node has failed as often as can be counted, and breaks down over the count of its next attempt.
def Overruns (handlers : HandlerTable R) (others : Cell R → Cell R → Prop) (step : Step R) (first : Cell R)
    (progress : Progress R) (cell : Cell R) : Prop :=
  ∃ reasons, step.Diary handlers others first (Incident.failures 1 reasons) none cell ∧ reasons.length = maxRetries ∧
    progress = .panicked (some counterMessage)

omit [Scalar R] in
theorem escalate_silent (silent : step.policy.onError.escalates = false) (again : Option (Poll R)) :
    step.escalate again = fun _ reason cell => (.fault reason, cell) := by
  funext attempt reason cell
  rw [escalate, if_neg (by simp [silent])]

omit [Scalar R] in
theorem exhausted_silent (silent : step.policy.onError.escalates = false) (body : Poll R) :
    step.exhausted body = fun _ reason cell => (.fault reason, cell) := by
  funext attempt reason cell
  rw [exhausted, escalate_silent silent]

omit [Scalar R] in
theorem attempted_silent (silent : step.policy.onError.escalates = false) (body : Poll R) (cell : Cell R) :
    step.attempted body cell = step.tries body (step.exhausted body) step.policy.retries 1 cell := by
  rw [attempted, exhausted_silent silent]
  cases cell.hook.script.length with
  | zero => rw [rounds, escalate_silent silent]
  | succ answers => rw [rounds, escalate_silent silent]

omit [Scalar R] in
theorem tries_reattempted (body : Poll R) (left attempt : Nat) (whole : left + attempt = step.policy.retries + 1)
    (cell : Cell R) (going : cell.cancelled = false) (counted : ¬ maxRetries < attempt) :
    step.tries body (step.exhausted body) left attempt cell =
      step.reattempted body attempt (body (cell.trace step .running attempt)).1
        (body (cell.trace step .running attempt)).2 := by
  cases left with
  | zero =>
      have last : ¬ attempt ≤ step.policy.retries := by omega
      rw [tries_zero, Step.attempt, going, if_neg Bool.false_ne_true, if_neg counted, reattempted, if_neg last]
  | succ left =>
      have more : attempt ≤ step.policy.retries := by omega
      have rest : step.policy.retries - attempt = left := by omega
      rw [tries_succ, Step.attempt, going, if_neg Bool.false_ne_true, if_neg counted, reattempted, if_pos more, rest]

omit [Scalar R] in
theorem tries_overrun (body : Poll R) (exhausted : Nat → Fault → Poll R) (left attempt : Nat) (cell : Cell R)
    (going : cell.cancelled = false) (full : maxRetries < attempt) :
    step.tries body exhausted left attempt cell = (.panicked (some counterMessage), cell) := by
  cases left with
  | zero => rw [tries_zero, Step.attempt, going, if_neg Bool.false_ne_true, if_pos full]
  | succ left => rw [tries_succ, Step.attempt, going, if_neg Bool.false_ne_true, if_pos full]

section

variable {begins : Nat → Cell R → Prop} (fails : step.Fails handlers others begins)
  (silent : step.policy.onError.escalates = false) {goal : Progress R → Cell R → Prop}
  (overruns : ∀ progress cell, step.Overruns handlers others first progress cell → maxRetries ≤ step.policy.retries →
    goal progress cell)

include fails silent overruns

theorem attempt_bound (left attempt : Nat) (whole : left + attempt = step.policy.retries + 1) (reasons : List Fault)
    (before : reasons.length + 1 = attempt) (counts : reasons.length ≤ maxRetries) (cell : Cell R)
    (diary : step.Diary handlers others first (Incident.failures 1 reasons) none cell) (begun : begins attempt cell)
    (follows : attempt ≤ maxRetries → ∀ reason after,
      step.Diary handlers others first (Incident.failures 1 (reasons ++ [reason])) none after →
      (attempt ≤ step.policy.retries → begins (attempt + 1) after) →
      BoundFor handlers others goal (if attempt ≤ step.policy.retries then
        step.tries (step.dispatch handlers) (step.exhausted (step.dispatch handlers)) (step.policy.retries - attempt)
          (attempt + 1) after
      else (.fault reason, after))) :
    BoundFor handlers others goal
      (step.tries (step.dispatch handlers) (step.exhausted (step.dispatch handlers)) left attempt cell) := by
  obtain ⟨going, bound⟩ := fails attempt cell begun
  by_cases full : maxRetries < attempt
  · rw [tries_overrun _ _ left attempt cell going full]
    exact .reached (overruns _ _ ⟨reasons, diary, by omega, rfl⟩ (by omega))
  · rw [tries_reattempted _ left attempt whole cell going full]
    have dispatched := (diary.entry .running attempt).dispatched rfl
    refine (bound.told dispatched).reattempted attempt ?_
    rintro progress after ⟨⟨reason, rfl, ordinary, next⟩, told⟩
    have entered := told.entry (.error reason.message) attempt
    have history : (Incident.failures 1 (reasons ++ [reason]) : List (Incident R)) =
        Incident.failures 1 reasons ++ [.entry .running attempt] ++ (Progress.fault (R := R) reason).came ++
          [.entry (.error reason.message) attempt] := by
      rw [Incident.failures_append, Nat.add_comm 1, before]
      simp [Incident.failed, Progress.came]
    rw [← history] at entered
    have goes := follows (by omega) reason _ entered next
    simp only [Step.reattempted, settle, ordinary, if_neg Bool.false_ne_true, exhausted_silent silent] at goes ⊢
    by_cases more : attempt ≤ step.policy.retries
    · rw [if_pos more] at goes ⊢
      exact goes
    · rw [if_neg more] at goes ⊢
      exact goes

theorem tries_bound
    (gives : ∀ progress cell, step.GivesUp handlers others first step.policy.retries progress cell →
      step.policy.retries < maxRetries → goal progress cell)
    (left attempt : Nat) (whole : left + attempt = step.policy.retries + 1) (reasons : List Fault)
    (before : reasons.length + 1 = attempt) (counts : reasons.length ≤ maxRetries) (cell : Cell R)
    (diary : step.Diary handlers others first (Incident.failures 1 reasons) none cell) (begun : begins attempt cell) :
    BoundFor handlers others goal
      (step.tries (step.dispatch handlers) (step.exhausted (step.dispatch handlers)) left attempt cell) := by
  induction left generalizing attempt reasons cell with
  | zero =>
      refine attempt_bound fails silent overruns 0 attempt whole reasons before counts cell diary begun ?_
      intro counted reason after told _
      rw [if_neg (by omega)]
      exact .reached (gives _ _ ⟨reasons, reason, told, by omega, rfl⟩ (by omega))
  | succ left ih =>
      refine attempt_bound fails silent overruns (left + 1) attempt whole reasons before counts cell diary begun ?_
      intro counted reason after told next
      have rest : step.policy.retries - attempt = left := by omega
      rw [if_pos (by omega), rest]
      refine ih (attempt + 1) (by omega) (reasons ++ [reason]) ?_ ?_ after told (next (by omega))
      · rw [List.length_append, List.length_singleton, before]
      · rw [List.length_append, List.length_singleton, before]
        exact counted

theorem start_bound
    (gives : ∀ progress cell, step.GivesUp handlers others first step.policy.retries progress cell →
      step.policy.retries < maxRetries → goal progress cell)
    (begun : begins 1 first) : BoundFor handlers others goal (step.start handlers first) := by
  rw [start, attempted_silent silent]
  exact tries_bound fails silent overruns gives _ 1 rfl [] rfl (Nat.zero_le _) first .blank begun

end

omit [Scalar R] in
theorem retries_of_retried (base : Step R) (n : Int) (mode : ErrorMode) :
    ((base.withRetry n).onError mode).policy = ⟨min n.toNat maxRetries, base.policy.timeout, mode⟩ := by
  cases base <;> rfl

end Step

/-- A node that has been given a number of retries, and does not ask the host, makes its attempts in order, each counted
by one more than the one before, as long as each of them fails. With fewer retries than the counter can count it ends after
one attempt more than it has retries, by the fault of the last; with as many it breaks down over the attempt that cannot
be counted. In whatever turns that happens, and whatever others do between them, it does come to it. -/
theorem attempts_fit_their_counter (handlers : HandlerTable R) (others : Cell R → Cell R → Prop) (base : Step R) (n : Int)
    (mode : ErrorMode) (silent : mode.escalates = false) (begins : Nat → Cell R → Prop)
    (fails : ((base.withRetry n).onError mode).Fails handlers others begins) (first : Cell R) (begun : begins 1 first) :
    (((base.withRetry n).onError mode).policy.retries : Int) = max 0 (min n Step.maxRetries) ∧
      (n < Step.maxRetries →
        BoundFor handlers others
          (((base.withRetry n).onError mode).GivesUp handlers others first n.toNat)
          (((base.withRetry n).onError mode).start handlers first)) ∧
      (Step.maxRetries ≤ n →
        BoundFor handlers others (((base.withRetry n).onError mode).Overruns handlers others first)
          (((base.withRetry n).onError mode).start handlers first)) := by
  have policy := Step.retries_of_retried base n mode
  have quiet : ((base.withRetry n).onError mode).policy.onError.escalates = false := by rw [policy, silent]
  have retries : ((base.withRetry n).onError mode).policy.retries = min n.toNat Step.maxRetries := by rw [policy]
  have room : 0 < Step.maxRetries := by decide
  refine ⟨by omega, fun few => ?_, fun many => ?_⟩
  · refine Step.start_bound fails quiet (fun _ _ _ full => by omega) (fun progress cell gives _ => ?_) begun
    rwa [show n.toNat = ((base.withRetry n).onError mode).policy.retries by omega]
  · exact Step.start_bound fails quiet (fun _ _ overruns _ => overruns) (fun _ _ _ counted => by omega) begun

open Exact (Reading)

def jamming (n : Int) : Step Reading := ((Flow.throw "jam").withRetry n).onError .retry

def leftGoing (before after : Cell Reading) : Prop := after.cancelled = before.cancelled

def jammedStand : Cell Reading := Cell.new ⟨"stand", [], []⟩ (.simulation 1)

theorem jamming_fails (n : Int) : (jamming n).Fails .standard leftGoing fun _ cell => cell.cancelled = false := by
  intro attempt cell going
  have thrown : (jamming n).dispatch .standard (cell.trace (jamming n) .running attempt) =
      (.fault (.thrown "jam"), cell.trace (jamming n) .running attempt) := rfl
  rw [thrown]
  exact ⟨going, .reached ⟨_, rfl, rfl, fun _ => going⟩⟩

theorem attempts_fit_their_counter_of_a_jam :
    ErrorMode.retry.escalates = false ∧ ((jamming 2).Fails .standard leftGoing fun _ cell => cell.cancelled = false) ∧
      jammedStand.cancelled = false ∧ (2 : Int) < Step.maxRetries ∧
      BoundFor .standard leftGoing ((jamming 2).GivesUp .standard leftGoing jammedStand 2)
        ((jamming 2).start .standard jammedStand) := by
  have few : (2 : Int) < Step.maxRetries := by decide
  refine ⟨rfl, jamming_fails 2, rfl, few, ?_⟩
  exact (attempts_fit_their_counter .standard leftGoing (Flow.throw "jam") 2 .retry rfl _ (jamming_fails 2) jammedStand
    rfl).2.1 few

-- With all the retries that a counter can tell, the node does not end by its last fault.
theorem last_attempt_overruns_its_counter :
    ((jamming 4294967295).Fails .standard leftGoing fun _ cell => cell.cancelled = false) ∧
      jammedStand.cancelled = false ∧ (jamming 4294967295).policy.retries = 4294967295 ∧
      (jamming 4294967295).policy.onError = .retry ∧
      ¬ BoundFor .standard leftGoing ((jamming 4294967295).GivesUp .standard leftGoing jammedStand 4294967295)
        ((jamming 4294967295).start .standard jammedStand) := by
  have retries : (jamming 4294967295).policy.retries = Step.maxRetries := rfl
  refine ⟨jamming_fails _, rfl, rfl, rfl, fun claimed => ?_⟩
  have overruns : BoundFor .standard leftGoing ((jamming 4294967295).Overruns .standard leftGoing jammedStand)
      ((jamming 4294967295).start .standard jammedStand) :=
    Step.start_bound (jamming_fails 4294967295) rfl (fun _ _ ends _ => ends)
      (fun _ _ _ counted => absurd retries (Nat.ne_of_lt counted)) rfl
  obtain ⟨progress, cell, ⟨_, -, -, broken⟩, ⟨_, _, -, -, fault⟩⟩ := overruns.meets claimed (fun cell => ⟨cell, rfl⟩)
    (fun _ _ ⟨_, _, _, pending⟩ => nomatch pending) (fun _ _ ⟨_, _, _, _, pending⟩ => nomatch pending)
  rw [broken] at fault
  cases fault

end Workcell

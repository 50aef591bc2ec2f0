import Workcell.Proofs.Action.Basis
import Workcell.Proofs.Completion.Ends
import Workcell.Proofs.Fractions
import Workcell.Proofs.Retrying.Protocol

/-!
Every execution of a node follows its protocol: by what it dispatches, whatever that comes to and in however many turns,
and by what the host answers. Only a run that has been cancelled cuts the protocol short, before an attempt.

The induction over a turn is on the answers that the host has left and on the attempts that are left in the round; what
carries it is the diary up to the attempt that is about to begin.
-/

set_option autoImplicit false

namespace Workcell

variable {R : Type}

def Cell.UsesUp (before after : Cell R) : Prop := after.hook.script.length ≤ before.hook.script.length

def Policy.Opens (policy : Policy) (history : List (Incident R)) (attempt : Nat) : Prop :=
  ∀ outcomes answers,
    policy.protocol (history.filterMap Incident.outcome? ++ outcomes) (history.filterMap Incident.answer? ++ answers) 1 =
      (history ++ (policy.protocol outcomes answers attempt).1, (policy.protocol outcomes answers attempt).2)

def Policy.Closes (policy : Policy) (history : List (Incident R)) (result : Except Fault (Value R)) : Prop :=
  policy.protocol (history.filterMap Incident.outcome?) (history.filterMap Incident.answer?) 1 = (history, .ended result)

def Progress.ofResult : Except Fault (Value R) → Progress R
  | .ok value => .done value
  | .error reason => .fault reason

namespace Policy

variable {policy : Policy} {history : List (Incident R)} {attempt : Nat} {reason : Fault}

theorem opens_first (policy : Policy) : policy.Opens ([] : List (Incident R)) 1 := fun _ _ => rfl

theorem Opens.again (opens : policy.Opens history attempt) (going : reason.isCancellation = false)
    (more : attempt ≤ policy.retries) : policy.Opens (history ++ Incident.failed attempt reason) (attempt + 1) := by
  intro outcomes answers
  have before := opens (.error reason :: outcomes) answers
  simp only [protocol, going, if_neg Bool.false_ne_true, if_pos more] at before
  simpa [Incident.failed, List.filterMap_cons, Incident.outcome?, Incident.answer?] using before

theorem Opens.completed (opens : policy.Opens history attempt) (value : Value R) :
    policy.Closes (history ++ [.entry .running attempt, .came (.ok value), .entry .completed attempt]) (.ok value) := by
  have before := opens [.ok value] []
  simpa [Closes, protocol, List.filterMap_cons, Incident.outcome?, Incident.answer?] using before

theorem Opens.cut (opens : policy.Opens history attempt) (cut : reason.isCancellation = true) :
    policy.Closes (history ++ Incident.failed attempt reason) (.error reason) := by
  have before := opens [.error reason] []
  simpa [Closes, protocol, cut, Incident.failed, List.filterMap_cons, Incident.outcome?, Incident.answer?] using before

variable (opens : policy.Opens history attempt) (going : reason.isCancellation = false)
  (last : ¬ attempt ≤ policy.retries)
include opens going last

theorem Opens.given_up (silent : policy.onError.escalates = false) :
    policy.Closes (history ++ Incident.failed attempt reason) (.error reason) := by
  have before := opens [.error reason] []
  simpa [Closes, protocol, going, last, silent, Incident.failed, List.filterMap_cons, Incident.outcome?,
    Incident.answer?] using before

theorem Opens.propagated (asks : policy.onError.escalates = true) :
    policy.Closes (history ++ Incident.failed attempt reason ++ [.asked reason .propagate]) (.error reason) := by
  have before := opens [.error reason] [.propagate]
  simpa [Closes, protocol, going, last, asks, Incident.failed, List.filterMap_cons, Incident.outcome?,
    Incident.answer?] using before

theorem Opens.substituted (asks : policy.onError.escalates = true) (value : Value R) :
    policy.Closes (history ++ Incident.failed attempt reason ++
      [.asked reason (.substitute value), .entry .completed (policy.retries + 1)]) (.ok value) := by
  have before := opens [.error reason] [.substitute value]
  simpa [Closes, protocol, going, last, asks, Incident.failed, List.filterMap_cons, Incident.outcome?,
    Incident.answer?] using before

theorem Opens.rerun (asks : policy.onError.escalates = true) :
    policy.Opens (history ++ Incident.failed attempt reason ++ [.asked reason .retry]) 1 := by
  intro outcomes answers
  have before := opens (.error reason :: outcomes) (.retry :: answers)
  simp only [protocol, going, if_neg Bool.false_ne_true, if_neg last, asks, if_true] at before
  simpa [Incident.failed, List.filterMap_cons, Incident.outcome?, Incident.answer?] using before

end Policy

variable [Scalar R] {handlers : HandlerTable R} {others : Cell R → Cell R → Prop} {step : Step R} {first : Cell R}

namespace Step

-- What a turn of a node comes to: its protocol is over, or an attempt at it is suspended or has broken down, or the
-- run has been cancelled and no attempt is begun.
inductive Reached (handlers : HandlerTable R) (others : Cell R → Cell R → Prop) (step : Step R) (first : Cell R) :
    Progress R × Cell R → Prop where
  | ended {history cell result} (diary : step.Diary handlers others first history none cell)
      (closes : step.policy.Closes history result) : Reached handlers others step first (.ofResult result, cell)
  | suspended {history attempt run cell}
      (diary : step.Diary handlers others first (history ++ [.entry .running attempt]) (some run) cell)
      (opens : step.policy.Opens history attempt) (few : attempt ≤ step.policy.retries + 1) :
      Reached handlers others step first (.pending (.attempt step attempt run), cell)
  | broken {history attempt message cell}
      (diary : step.Diary handlers others first (history ++ [.entry .running attempt]) none cell)
      (opens : step.policy.Opens history attempt) : Reached handlers others step first (.panicked message, cell)
  | cut {cell} (cancelled : cell.cancelled = true) : Reached handlers others step first (.fault .cancelled, cell)

def Leads (handlers : HandlerTable R) (others : Cell R → Cell R → Prop) (step : Step R) (first : Cell R)
    (answers attempt : Nat) (poll : Poll R) : Prop :=
  ∀ history cell, step.Diary handlers others first history none cell → step.policy.Opens history attempt →
    cell.hook.script.length ≤ answers → Reached handlers others step first (poll cell)

def Concludes (handlers : HandlerTable R) (others : Cell R → Cell R → Prop) (step : Step R) (first : Cell R)
    (answers attempt : Nat) (conclude : Fault → Poll R) : Prop :=
  ∀ history cell reason, step.Diary handlers others first (history ++ Incident.failed attempt reason) none cell →
    step.policy.Opens history attempt → reason.isCancellation = false → attempt = step.policy.retries + 1 →
    cell.hook.script.length ≤ answers → Reached handlers others step first (conclude reason cell)

theorem settle_reached (answers attempt : Nat) (again : Option (Poll R)) (exhausted : Fault → Poll R)
    (further : attempt ≤ step.policy.retries →
      ∃ poll, again = some poll ∧ Leads handlers others step first answers (attempt + 1) poll)
    (last : ¬ attempt ≤ step.policy.retries → again = none)
    (concludes : Concludes handlers others step first answers attempt exhausted) (few : attempt ≤ step.policy.retries + 1)
    (history : List (Incident R)) (opens : step.policy.Opens history attempt) (progress : Progress R) (cell : Cell R)
    (diary : step.Diary handlers others first (history ++ [.entry .running attempt] ++ progress.came) progress.inside cell)
    (left : cell.hook.script.length ≤ answers) :
    Reached handlers others step first (step.settle attempt again exhausted progress cell) := by
  cases progress with
  | done value =>
      have told := diary.entry .completed attempt
      rw [List.append_assoc, List.append_assoc] at told
      exact .ended told (opens.completed value)
  | fault reason =>
      have told : step.Diary handlers others first (history ++ Incident.failed attempt reason) none
          (cell.trace step (.error reason.message) attempt) := by
        have entered := diary.entry (.error reason.message) attempt
        rwa [List.append_assoc, List.append_assoc] at entered
      by_cases cut : reason.isCancellation = true
      · simp only [settle, if_pos cut]
        exact .ended told (opens.cut cut)
      · have going : reason.isCancellation = false := by simpa using cut
        simp only [settle, if_neg cut]
        by_cases more : attempt ≤ step.policy.retries
        · obtain ⟨poll, rfl, leads⟩ := further more
          exact leads _ _ told (opens.again going more) left
        · rw [last more]
          exact concludes history _ reason told opens going (by omega) left
  | panicked message => exact .broken (List.append_nil (history ++ [_]) ▸ diary) opens
  | pending run => exact .suspended (List.append_nil (history ++ [_]) ▸ diary) opens few

variable {body : Poll R}

theorem attempt_reached (counts : step.policy.retries < maxRetries)
    (uses : ∀ cell : Cell R, cell.UsesUp (step.dispatch handlers cell).2)
    (answers attempt : Nat) (again : Option (Poll R)) (exhausted : Fault → Poll R)
    (further : attempt ≤ step.policy.retries →
      ∃ poll, again = some poll ∧ Leads handlers others step first answers (attempt + 1) poll)
    (last : ¬ attempt ≤ step.policy.retries → again = none)
    (concludes : Concludes handlers others step first answers attempt exhausted)
    (few : attempt ≤ step.policy.retries + 1) :
    Leads handlers others step first answers attempt
      (step.attempt (step.dispatch handlers) attempt again exhausted) := by
  intro history cell diary opens left
  unfold Step.attempt
  by_cases cancelled : cell.cancelled = true
  · rw [if_pos cancelled]
    exact .cut cancelled
  · have counted : ¬ maxRetries < attempt := by omega
    rw [if_neg cancelled, if_neg counted]
    have begun := (diary.entry .running attempt).dispatched rfl
    exact settle_reached answers attempt again exhausted further last concludes few history opens _ _ begun
      (Nat.le_trans (uses _) left)

theorem tries_reached (counts : step.policy.retries < maxRetries)
    (uses : ∀ cell : Cell R, cell.UsesUp (step.dispatch handlers cell).2) (answers : Nat) (exhausted : Nat → Fault → Poll R)
    (concludes : ∀ attempt, Concludes handlers others step first answers attempt (exhausted attempt)) (left attempt : Nat)
    (whole : left + attempt = step.policy.retries + 1) :
    Leads handlers others step first answers attempt (step.tries (step.dispatch handlers) exhausted left attempt) := by
  induction left generalizing attempt with
  | zero =>
      exact attempt_reached counts uses answers attempt none _ (fun more => by omega) (fun _ => rfl) (concludes attempt)
        (by omega)
  | succ left ih =>
      exact attempt_reached counts uses answers attempt _ _ (fun _ => ⟨_, rfl, ih (attempt + 1) (by omega)⟩)
        (fun last => by omega) (concludes attempt) (by omega)

-- Only the script of the host asks for another round, and that uses an answer up.
theorem escalate_reached (attempt : Nat) (reason : Fault) (again : Option (Poll R)) (history : List (Incident R))
    (cell : Cell R) (diary : step.Diary handlers others first (history ++ Incident.failed attempt reason) none cell)
    (opens : step.policy.Opens history attempt) (going : reason.isCancellation = false)
    (last : attempt = step.policy.retries + 1)
    (further : ∀ answers, cell.hook.script.length = answers + 1 →
      ∃ poll, again = some poll ∧ Leads handlers others step first answers 1 poll) :
    Reached handlers others step first (step.escalate again attempt reason cell) := by
  have spent : ¬ attempt ≤ step.policy.retries := by omega
  unfold Step.escalate
  by_cases asks : step.policy.onError.escalates = true
  · rw [if_pos asks]
    rcases given : cell.appeal step reason with ⟨answer, after⟩
    have told := diary.asked reason given
    cases answer with
    | propagate => exact .ended told (opens.propagated going spent asks)
    | substitute value =>
        have entered := told.entry .completed attempt
        rw [List.append_assoc (history ++ _), last] at entered
        have closes := opens.substituted going spent asks value
        rw [last] at closes ⊢
        exact .ended entered closes
    | retry =>
        have scripted : ∃ answers, cell.hook.script.length = answers + 1 ∧ after.hook.script.length ≤ answers := by
          unfold Cell.appeal Hook.answer at given
          cases script : cell.hook.script with
          | nil =>
              rw [script] at given
              cases final : cell.hook.final with
              | none => simp [final] at given
              | some value => simp [final] at given
          | cons answer rest =>
              rw [script] at given
              refine ⟨rest.length, rfl, ?_⟩
              exact (Prod.mk.inj given).2 ▸ Nat.le_refl _
        obtain ⟨answers, script, less⟩ := scripted
        obtain ⟨poll, rfl, leads⟩ := further answers script
        exact leads _ _ told (opens.rerun going spent asks) less
  · rw [if_neg asks]
    exact .ended diary (opens.given_up going spent (by simpa using asks))

theorem rounds_reached (counts : step.policy.retries < maxRetries)
    (uses : ∀ cell : Cell R, cell.UsesUp (step.dispatch handlers cell).2) (answers : Nat) :
    Leads handlers others step first answers 1 (step.rounds (step.dispatch handlers) answers) := by
  induction answers with
  | zero =>
      refine tries_reached counts uses 0 _ (fun attempt history cell reason diary opens going last left => ?_) _ 1 rfl
      exact escalate_reached attempt reason none history cell diary opens going last fun answers script => by omega
  | succ answers ih =>
      refine tries_reached counts uses _ _ (fun attempt history cell reason diary opens going last left => ?_) _ 1 rfl
      refine escalate_reached attempt reason _ history cell diary opens going last fun fewer script => ⟨_, rfl, ?_⟩
      intro history cell diary opens less
      exact ih history cell diary opens (by omega)

theorem start_reached (counts : step.policy.retries < maxRetries)
    (uses : ∀ cell : Cell R, cell.UsesUp (step.dispatch handlers cell).2) :
    Reached handlers others step first (step.start handlers first) :=
  rounds_reached counts uses _ [] first .blank (Policy.opens_first step.policy) (Nat.le_refl _)

theorem reattempted_reached (counts : step.policy.retries < maxRetries)
    (uses : ∀ cell : Cell R, cell.UsesUp (step.dispatch handlers cell).2) (attempt : Nat)
    (few : attempt ≤ step.policy.retries + 1) (history : List (Incident R)) (opens : step.policy.Opens history attempt)
    (progress : Progress R) (cell : Cell R)
    (diary : step.Diary handlers others first (history ++ [.entry .running attempt] ++ progress.came) progress.inside cell) :
    Reached handlers others step first (step.reattempted (step.dispatch handlers) attempt progress cell) := by
  have concludes : ∀ attempt,
      Concludes handlers others step first cell.hook.script.length attempt
        (step.exhausted (step.dispatch handlers) attempt) := by
    intro attempt history cell reason diary opens going last left
    refine escalate_reached attempt reason _ history cell diary opens going last fun answers script => ?_
    simp only [script]
    exact ⟨_, rfl, rounds_reached counts uses answers⟩
  refine settle_reached cell.hook.script.length attempt _ _ (fun more => ⟨_, if_pos more, ?_⟩) (fun last => if_neg last)
    (concludes attempt) few history opens progress cell diary (Nat.le_refl _)
  exact tries_reached counts uses _ _ concludes _ _ (by omega)

end Step

theorem Cell.UsesUp.placing {R : Type} : Cell.Placing (R := R) Cell.UsesUp where
  refl _ := Nat.le_refl _
  trans _ _ _ before after := Nat.le_trans after before
  putAxis cell handle before after := by
    unfold Cell.putAxis
    split
    · exact Nat.le_refl _
    · exact Nat.le_refl _
  putActuator cell handle before after := by
    unfold Cell.putActuator
    split
    · exact Nat.le_refl _
    · exact Nat.le_refl _
  effect _ _ := Nat.le_refl _

theorem Cell.UsesUp.basis : Cell.Basis (R := R) Cell.UsesUp where
  refl _ := Nat.le_refl _
  trans _ _ _ before after := Nat.le_trans after before
  timer _ _ := Nat.le_refl _
  assign _ _ _ := Nat.le_refl _
  ids _ _ := Nat.le_refl _
  put _ _ _ := Nat.le_refl _
  take _ _ := Nat.le_refl _
  event _ _ _ := Nat.le_refl _
  addAxis _ _ _ _ _ _ := Nat.le_refl _
  addActuator _ _ _ _ _ _ := Nat.le_refl _
  stopAxis := placing.stop_axis
  stopActuator := placing.stop_actuator

-- Handlers that give the host no answers.
def HandlerTable.Unprompting (handlers : HandlerTable R) : Prop :=
  ∀ cell call handler, handlers.resolve cell call = .ok handler → Act.Within Cell.UsesUp (handler call)

theorem standard_unprompting : (HandlerTable.standard (R := R)).Unprompting := fun cell call handler resolved =>
  Action.standard_within Cell.UsesUp.placing.command_axis Cell.UsesUp.placing.fire_actuator Cell.UsesUp.basis cell
  call handler
    resolved

omit [Scalar R] in
theorem Hook.answer_uses (hook : Hook R) : hook.answer.2.script.length ≤ hook.script.length := by
  unfold Hook.answer
  cases script : hook.script with
  | nil => exact Nat.le_of_eq (congrArg List.length script)
  | cons answer rest => exact Nat.le_succ _

theorem answers_upkeep (unprompting : handlers.Unprompting) (answers : Nat) :
    Upkeep handlers (fun _ => True) (fun _ => True) fun _ cell => cell.hook.script.length ≤ answers where
  perm _ held := held
  trace held _ _ _ := held
  appeal {_ cell} held _ _ := Nat.le_trans cell.hook.answer_uses held
  issue held := held
  again held _ := held
  rest held _ := held
  cancelled _ _ := trivial
  refused _ _ _ := trivial
  act := by
    intro _ cell call handler held _ resolved
    have after := Nat.le_trans (unprompting cell call handler resolved cell) held
    rcases result : handler call cell with ⟨outcome, next⟩
    rw [result] at after
    cases outcome with
    | ok reply => exact after
    | error failure =>
        cases failure with
        | fault fault => exact ⟨after, trivial⟩
        | panic message => exact after
  look {_ cell wait} held _ := Nat.le_trans (Cell.UsesUp.basis.look cell wait) held
  abandon {_ cell wait} held := Nat.le_trans (Cell.UsesUp.basis.abandon wait cell) held

omit [Scalar R] in
theorem uses_of_after (answers : Nat) (waits : List (Wait R)) (turn : Progress R × Cell R)
    (after : Upkeep.After (fun _ => True) (fun _ => True) (fun _ cell => cell.hook.script.length ≤ answers) waits turn) :
    turn.2.hook.script.length ≤ answers := by
  obtain ⟨progress, cell⟩ := turn
  cases progress with
  | done value => exact after
  | fault reason => exact after.1
  | panicked message => exact after
  | pending run => exact after.1

namespace Step

theorem dispatch_uses (unprompting : handlers.Unprompting) (step : Step R) (cell : Cell R) :
    cell.UsesUp (step.dispatch handlers cell).2 :=
  uses_of_after _ [] _ (Upkeep.dispatch_keeps (answers_upkeep unprompting _) step (every_of_all _ (fun _ => trivial) step) []
    cell (Nat.le_refl _))

theorem Reached.held {run : Run R} {cell : Cell R} (reached : Reached handlers others step first (.pending run, cell)) :
    ∃ history attempt inside, run = .attempt step attempt inside ∧
      step.Diary handlers others first (history ++ [.entry .running attempt]) (some inside) cell ∧
      step.policy.Opens history attempt ∧ attempt ≤ step.policy.retries + 1 := by
  rcases same : ((.pending run, cell) : Progress R × Cell R) with ⟨progress, after⟩
  rw [same] at reached
  cases reached with
  | suspended diary opens few =>
      cases same
      exact ⟨_, _, _, rfl, diary, opens, few⟩
  | ended diary closes =>
      rename_i result
      cases result with
      | ok value => cases same
      | error reason => cases same
  | broken => cases same
  | cut => cases same

theorem life_reached (unprompting : handlers.Unprompting) (counts : step.policy.retries < maxRetries)
    (woken : List Nat) (progress : Progress R) (cell : Cell R)
    (life : Life handlers others (.fresh step) first woken progress cell) :
    Reached handlers others step first (progress, cell) := by
  have uses := dispatch_uses unprompting step
  induction life with
  | first keys turn => exact turn ▸ start_reached counts uses
  | next keys earlier changed turn ih =>
      rename_i woken run before between progress after
      obtain ⟨history, attempt, inside, rfl, diary, opens, few⟩ := ih.held
      have turned : (progress, after) = step.reattempted (step.dispatch handlers) attempt
          ((inside.wake keys).resume handlers between).1 ((inside.wake keys).resume handlers between).2 := by
        rw [← turn, Run.wake_attempt]
        rfl
      rw [turned]
      exact reattempted_reached counts uses attempt few history opens _ _ (diary.resumed changed keys rfl)

end Step

/-- Every execution of a node, in however many turns and whatever others do in between, that is not cut short by a
cancellation tells its protocol: the attempts of each round are counted from the first, each with its entry before what
it dispatches and its entry after what that has come to; another attempt follows a fault exactly while the policy has one
left, and the host is asked exactly when it has none, if the policy escalates. A fault of a cancellation ends it all. -/
theorem node_follows_its_protocol (handlers : HandlerTable R) (unprompting : handlers.Unprompting)
    (others : Cell R → Cell R → Prop) (step : Step R) (counts : step.policy.retries < Step.maxRetries) (first : Cell R)
    (woken : List Nat) (progress : Progress R) (cell : Cell R)
    (life : Life handlers others (.fresh step) first woken progress cell) (going : cell.cancelled = false) :
    ∃ history inside standing, step.Diary handlers others first history inside cell ∧
      step.policy.protocol (history.filterMap Incident.outcome?) (history.filterMap Incident.answer?) 1 =
        (history, standing) ∧
      standing.Shows step inside progress := by
  have reached := Step.life_reached unprompting counts woken progress cell life
  rcases same : (progress, cell) with ⟨shown, after⟩
  rw [same] at reached
  cases reached with
  | ended diary closes =>
      rename_i history result
      cases result with
      | ok value =>
          cases same
          exact ⟨history, none, _, diary, closes, rfl, rfl⟩
      | error reason =>
          cases same
          exact ⟨history, none, _, diary, closes, rfl, rfl⟩
  | suspended diary opens few =>
      rename_i history attempt run
      cases same
      have told := opens [] []
      refine ⟨_, _, .trying attempt, diary, ?_, Or.inl ⟨run, rfl, rfl⟩⟩
      simpa [Policy.protocol, List.filterMap_cons, Incident.outcome?, Incident.answer?] using told
  | broken diary opens =>
      rename_i history attempt message
      cases same
      have told := opens [] []
      refine ⟨_, _, .trying attempt, diary, ?_, Or.inr ⟨rfl, message, rfl⟩⟩
      simpa [Policy.protocol, List.filterMap_cons, Incident.outcome?, Incident.answer?] using told
  | cut cancelled =>
      cases same
      rw [going] at cancelled
      cases cancelled

open Exact (Reading)

def blindLook : Step Reading := .action ⟨"look", ⟨1, none, .skip⟩⟩ "nowhere" .readAnalog []

def lenientCell : Cell Reading :=
  { Cell.new ⟨"stand", [], []⟩ (.simulation 1) with hook := ⟨[.retry, .substitute .unit], none⟩ }

theorem blind_look_follows_its_protocol :
    (HandlerTable.standard (R := Reading)).Unprompting ∧ blindLook.policy.retries < Step.maxRetries ∧
      ∃ cell, Life .standard (fun _ _ => False) (.fresh blindLook) lenientCell [] (.done .unit) cell ∧
        cell.cancelled = false ∧
        ∃ history inside standing, blindLook.Diary .standard (fun _ _ => False) lenientCell history inside cell ∧
          blindLook.policy.protocol (history.filterMap Incident.outcome?) (history.filterMap Incident.answer?) 1 =
            (history, standing) ∧
          standing.Shows blindLook inside (.done .unit) := by
  have counts : blindLook.policy.retries < Step.maxRetries := by decide
  have life : Life .standard (fun _ _ => False) (.fresh blindLook) lenientCell [] (.done .unit)
      (blindLook.start .standard lenientCell).2 := .first [] rfl
  have going : (blindLook.start .standard lenientCell).2.cancelled = false := rfl
  exact ⟨standard_unprompting, counts, _, life, going,
    node_follows_its_protocol .standard standard_unprompting _ blindLook counts lenientCell [] _ _ life going⟩

end Workcell

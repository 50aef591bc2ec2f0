import Workcell.Proofs.Cancellation.Places
import Workcell.Run.Resume

/-!
A turn of a run that has been cancelled: every wait that it reaches is given up, every attempt that held the wait
fails, and nothing else is done. What sleeps stays; everything else comes down.
-/

set_option autoImplicit false

namespace Workcell

variable {R : Type}

-- What a run does to a cell while it comes down: devices stop, attempts fail as cancelled, turns are asked for.
inductive Cell.Unwinding (before : Cell R) : Cell R → Prop where
  | same : Unwinding before before
  | axis {after} (handle : Nat) (earlier : Unwinding before after) : Unwinding before (after.stopAxis handle)
  | actuator {after} (handle : Nat) (earlier : Unwinding before after) : Unwinding before (after.stopActuator handle)
  | failed {after} (step : Step R) (number : Nat) (earlier : Unwinding before after) :
      Unwinding before (after.trace step (.error Fault.cancelled.message) number)
  | again {after} (key : Nat) (earlier : Unwinding before after) : Unwinding before (after.effect (.again key))

namespace Cell.Unwinding

theorem trans {first second third : Cell R} (before : Unwinding first second) (after : Unwinding second third) :
    Unwinding first third := by
  induction after with
  | same => exact before
  | axis handle _ ih => exact ih.axis handle
  | actuator handle _ ih => exact ih.actuator handle
  | failed step number _ ih => exact ih.failed step number
  | again key _ ih => exact ih.again key

structure Spared (before after : Cell R) : Prop where
  kept : ∃ axes actuators traces outbox,
    after = { before with axes := axes, actuators := actuators, traces := traces, outbox := outbox }
  traces : ∃ news, after.traces.sent = before.traces.sent ++ news ∧
    ∀ trace ∈ news, trace.status = .error Fault.cancelled.message

theorem stop_axis_spares (handle : Nat) (before after : Cell R) (spared : Spared before after) :
    Spared before (after.stopAxis handle) := by
  obtain ⟨⟨axes, actuators, traces, outbox, rfl⟩, failures⟩ := spared
  unfold Cell.stopAxis Cell.putAxis
  split
  · dsimp only
    split
    · exact ⟨⟨_, _, _, _, rfl⟩, failures⟩
    · exact ⟨⟨_, _, _, _, rfl⟩, failures⟩
  · exact ⟨⟨_, _, _, _, rfl⟩, failures⟩

theorem stop_actuator_spares (handle : Nat) (before after : Cell R) (spared : Spared before after) :
    Spared before (after.stopActuator handle) := by
  obtain ⟨⟨axes, actuators, traces, outbox, rfl⟩, failures⟩ := spared
  unfold Cell.stopActuator Cell.putActuator
  split
  · dsimp only
    split
    · exact ⟨⟨_, _, _, _, rfl⟩, failures⟩
    · exact ⟨⟨_, _, _, _, rfl⟩, failures⟩
  · exact ⟨⟨_, _, _, _, rfl⟩, failures⟩

theorem spares {before after : Cell R} (unwinding : Unwinding before after) : Spared before after := by
  induction unwinding with
  | same => exact ⟨⟨_, _, _, _, rfl⟩, ⟨[], by simp⟩⟩
  | axis handle _ ih => exact stop_axis_spares handle _ _ ih
  | actuator handle _ ih => exact stop_actuator_spares handle _ _ ih
  | failed step number _ ih =>
      obtain ⟨⟨axes, actuators, traces, outbox, rfl⟩, news, sent, unwound⟩ := ih
      refine ⟨⟨_, _, _, _, rfl⟩, news ++ [⟨step.name, step.device, .error Fault.cancelled.message, number⟩], ?_, ?_⟩
      · have before : traces.sent = before.traces.sent ++ news := sent
        simp [Cell.trace, before]
      · intro trace member
        rcases List.mem_append.mp member with old | new
        · exact unwound trace old
        · rw [List.mem_singleton.mp new]
  | again key _ ih =>
      obtain ⟨⟨axes, actuators, traces, outbox, rfl⟩, failures⟩ := ih
      exact ⟨⟨_, _, _, _, rfl⟩, failures⟩

theorem cancelled {before after : Cell R} (unwinding : Unwinding before after) :
    after.cancelled = before.cancelled := by
  obtain ⟨⟨axes, actuators, traces, outbox, rfl⟩, -⟩ := unwinding.spares
  rfl

theorem abandon {before after : Cell R} (wait : Wait R) (unwinding : Unwinding before after) :
    Unwinding before (wait.abandon after) := by
  cases wait with
  | delay timer => exact unwinding
  | idle handle timer => exact unwinding.axis handle
  | settled handle on timer => exact unwinding.actuator handle
  | probe handle threshold deadline timer => exact unwinding.axis handle

mutual
theorem abandon_run {before after : Cell R} (run : Run R) (unwinding : Unwinding before after) :
    Unwinding before (run.abandon after) := by
  cases run with
  | waiting key wait => exact unwinding.abandon wait
  | attempt step number inside => exact abandon_run inside unwinding
  | bound run next select => exact abandon_run run unwinding
  | mapped run transform => exact abandon_run run unwinding
  | joined key woken branches => exact abandon_all branches unwinding
  | repeated run inner left => exact abandon_run run unwinding
  | resting key inner => exact unwinding

theorem abandon_branch {before after : Cell R} (branch : Branch R) (unwinding : Unwinding before after) :
    Unwinding before (branch.abandon after) := by
  cases branch with
  | running run => exact abandon_run run unwinding
  | fresh step => exact unwinding
  | ended value => exact unwinding
  | failed fault => exact unwinding

theorem abandon_all {before after : Cell R} (branches : List (Branch R)) (unwinding : Unwinding before after) :
    Unwinding before (Run.abandonAll branches after) := by
  cases branches with
  | nil => exact unwinding
  | cons branch rest => exact abandon_all rest (abandon_branch branch unwinding)
end

end Cell.Unwinding

end Workcell

import Workcell.Proofs.Action.Intact
import Workcell.Proofs.Arriving.Strokes
import Workcell.Proofs.Arriving.Timely
import Workcell.Proofs.Awaiting.Vigil
import Workcell.Proofs.Completion.Actions

/-!
First turns of actions that wait: the device is looked up and commanded, and then it is waited for.
-/

set_option autoImplicit false

namespace Workcell

variable {R : Type} [Scalar R]

omit [Scalar R] in
theorem Step.attempted_once (step : Step R) (body : Poll R) (cell : Cell R) (uncut : cell.cancelled = false) :
    ∃ again exhausted, step.attempted body cell =
      step.settle 1 again exhausted (body (cell.trace step .running 1)).1 (body (cell.trace step .running 1)).2 := by
  have first : ∀ again exhausted, step.attempt body 1 again exhausted cell =
      step.settle 1 again exhausted (body (cell.trace step .running 1)).1 (body (cell.trace step .running 1)).2 := by
    intro again exhausted
    rw [attempt, if_neg (by simp [uncut]), if_neg (by decide)]
  have tries : ∀ exhausted left, ∃ again, step.tries body exhausted left 1 cell =
      step.settle 1 again (exhausted 1) (body (cell.trace step .running 1)).1 (body (cell.trace step .running 1)).2 := by
    intro exhausted left
    cases left with
    | zero => exact ⟨_, first _ _⟩
    | succ left => exact ⟨_, first _ _⟩
  rw [attempted]
  cases cell.hook.script.length with
  | zero =>
      obtain ⟨again, settles⟩ := tries (step.escalate none) step.policy.retries
      exact ⟨again, _, settles⟩
  | succ answers =>
      obtain ⟨again, settles⟩ := tries (step.escalate (some (step.rounds body answers))) step.policy.retries
      exact ⟨again, _, settles⟩

omit [Scalar R] in
theorem Step.start_action (label : Label) (device : String) (operation : Operation) (args : List (Arg R))
    (table : HandlerTable R) (cell after : Cell R) (handler : Handler R) (reply : Reply R) (uncut : cell.cancelled = false)
    (resolved : table.resolve cell ⟨device, operation, args, label.policy.timeout⟩ = .ok handler)
    (worked : handler ⟨device, operation, args, label.policy.timeout⟩
      (cell.trace (.action label device operation args) .running 1) = (.ok reply, after)) :
    (Step.action label device operation args).start table cell = match reply with
      | .value value => (.done value, after.trace (.action label device operation args) .completed 1)
      | .waiting wait => (.pending (.attempt (.action label device operation args) 1 (.waiting after.issued wait)),
          { after with issued := after.issued + 1 }) := by
  have traced : table.resolve (cell.trace (.action label device operation args) .running 1)
      ⟨device, operation, args, label.policy.timeout⟩ = .ok handler := resolved
  obtain ⟨again, exhausted, settles⟩ := Step.attempted_once (.action label device operation args)
    ((Step.action label device operation args).dispatch table) cell uncut
  rw [start, settles, dispatch, Poll.perform, traced]
  cases reply with
  | value value =>
      simp only [Poll.ofAct, worked]
      rfl
  | waiting wait =>
      simp only [Poll.ofAct, worked]
      rfl

omit [Scalar R] in
theorem Step.start_broken (label : Label) (device : String) (operation : Operation) (args : List (Arg R))
    (table : HandlerTable R) (cell after : Cell R) (handler : Handler R) (message : Option String)
    (uncut : cell.cancelled = false)
    (resolved : table.resolve cell ⟨device, operation, args, label.policy.timeout⟩ = .ok handler)
    (worked : handler ⟨device, operation, args, label.policy.timeout⟩
      (cell.trace (.action label device operation args) .running 1) = (.error (.panic message), after)) :
    (Step.action label device operation args).start table cell = (.panicked message, after) := by
  have traced : table.resolve (cell.trace (.action label device operation args) .running 1)
      ⟨device, operation, args, label.policy.timeout⟩ = .ok handler := resolved
  obtain ⟨again, exhausted, settles⟩ := Step.attempted_once (.action label device operation args)
    ((Step.action label device operation args).dispatch table) cell uncut
  rw [start, settles, dispatch, Poll.perform, traced]
  simp only [Poll.ofAct, worked]
  rfl

structure Cell.FindsAxis (id : String) (cell : Cell R) (handle : Nat) (axis : Axis R) (axes : Bank (Axis R)) : Prop where
  finds : ∀ traces, findAxis id { cell with traces := traces } =
    (.ok (handle, axis), { cell with traces := traces, axes := axes })
  there : axes.get? handle = some axis
  known : ∀ other ∈ axes.slots, other ∈ cell.axes.slots ∨ other = axis

omit [Scalar R] in
theorem Bank.get_added {D : Type} (bank : Bank D) (id : String) (device : D) :
    (bank.add id device).get? bank.slots.length = some device := by
  simp [get?, add]

theorem Cell.finds_axis (id : String) (cell found : Cell R) (handle : Nat) (axis : Axis R)
    (finds : findAxis id cell = (.ok (handle, axis), found)) : ∃ axes, cell.FindsAxis id handle axis axes := by
  unfold findAxis at finds
  rw [Act.get_bind_apply] at finds
  cases registered : cell.axes.find? id with
  | some entry =>
      simp only [registered] at finds
      cases finds
      obtain ⟨slot, -, present⟩ := Option.bind_eq_some_iff.mp registered
      obtain ⟨same, there, isFound⟩ := Option.map_eq_some_iff.mp present
      cases isFound
      refine ⟨cell.axes, fun traces => ?_, there, fun other member => Or.inl member⟩
      rw [findAxis, Act.get_bind_apply]
      simp only [registered]
      rfl
  | none =>
      cases declared : cell.machine.axis? id with
      | none =>
          simp only [registered, declared] at finds
          cases finds
      | some spec =>
          simp only [registered, declared] at finds
          unfold makeAxis at finds
          rw [Act.get_bind_apply] at finds
          cases created : cell.driver.createAxis spec with
          | error reason =>
              simp only [created] at finds
              cases finds
          | ok made =>
              cases made with
              | none =>
                  simp only [created] at finds
                  cases finds
              | some made =>
                  simp only [created] at finds
                  cases finds
                  refine ⟨cell.axes.add spec.id axis, fun traces => ?_, cell.axes.get_added spec.id axis,
                    fun other member => ?_⟩
                  · rw [findAxis, Act.get_bind_apply]
                    simp only [registered, declared]
                    rw [makeAxis, Act.get_bind_apply]
                    simp only [created]
                    rfl
                  · exact (List.mem_append.mp member).imp_right List.mem_singleton.mp

structure Cell.FindsActuator (id : String) (cell : Cell R) (handle : Nat) (actuator : Actuator R)
    (actuators : Bank (Actuator R)) : Prop where
  finds : ∀ traces, findActuator id { cell with traces := traces } =
    (.ok (handle, actuator), { cell with traces := traces, actuators := actuators })
  there : actuators.get? handle = some actuator
  known : ∀ other ∈ actuators.slots, other ∈ cell.actuators.slots ∨ other = actuator
  same : ∀ other, cell.actuators.get? handle = some other → actuators.get? handle = some other

theorem Cell.finds_actuator (id : String) (cell found : Cell R) (handle : Nat) (actuator : Actuator R)
    (finds : findActuator id cell = (.ok (handle, actuator), found)) :
    ∃ actuators, cell.FindsActuator id handle actuator actuators := by
  unfold findActuator at finds
  rw [Act.get_bind_apply] at finds
  cases registered : cell.actuators.find? id with
  | some entry =>
      simp only [registered] at finds
      cases finds
      obtain ⟨slot, -, present⟩ := Option.bind_eq_some_iff.mp registered
      obtain ⟨same, there, isFound⟩ := Option.map_eq_some_iff.mp present
      cases isFound
      refine ⟨cell.actuators, fun traces => ?_, there, fun other member => Or.inl member, fun _ present => present⟩
      rw [findActuator, Act.get_bind_apply]
      simp only [registered]
      rfl
  | none =>
      cases declared : cell.machine.actuator? id with
      | none =>
          simp only [registered, declared] at finds
          cases finds
      | some spec =>
          simp only [registered, declared] at finds
          unfold makeActuator at finds
          rw [Act.get_bind_apply] at finds
          cases created : cell.driver.createActuator (R := R) spec with
          | error reason =>
              simp only [created] at finds
              cases finds
          | ok made =>
              simp only [created] at finds
              cases finds
              refine ⟨cell.actuators.add spec.id actuator, fun traces => ?_, cell.actuators.get_added spec.id actuator,
                fun other member => ?_, fun other present => ?_⟩
              · rw [findActuator, Act.get_bind_apply]
                simp only [registered, declared]
                rw [makeActuator, Act.get_bind_apply]
                simp only [created]
                rfl
              · exact (List.mem_append.mp member).imp_right List.mem_singleton.mp
              · exact absurd (List.getElem?_eq_some_iff.mp present).1 (Nat.lt_irrefl _)

namespace Cell

omit [Scalar R]

variable {cell : Cell R} {handle : Nat}

theorem alarm_set (span : Duration) (due : Nat) (ends : Duration.due cell.now span = due) (ahead : cell.now < due) :
    cell.alarm span = (some ⟨due, cell.issued⟩, { cell with issued := cell.issued + 1 }) := by
  simp only [alarm, ends, if_neg (Nat.not_le_of_lt ahead), timer]

theorem alarm_over (span : Duration) (due : Nat) (ends : Duration.due cell.now span = due) (finished : due ≤ cell.now) :
    cell.alarm span = (none, cell) := by
  simp only [alarm, ends, if_pos finished]

theorem stopped_axis (axis : Axis R) (there : cell.axes.get? handle = some axis) :
    (cell.stopAxis handle).axes.get? handle = some axis.stop := by
  have put : (cell.axes.set handle axis.stop).get? handle = some axis.stop := Bank.get_set there _
  simp only [stopAxis, there, putAxis]
  split
  · exact put
  · exact put

theorem stopped_actuator (actuator : Actuator R) (there : cell.actuators.get? handle = some actuator) :
    (cell.stopActuator handle).actuators.get? handle = some actuator.stop := by
  have put : (cell.actuators.set handle actuator.stop).get? handle = some actuator.stop := Bank.get_set there _
  simp only [stopActuator, there, putActuator]
  split
  · exact put
  · exact put

end Cell

omit [Scalar R] in
theorem Axis.stop_position (axis : Axis R) : axis.stop.state.position = axis.state.position := by
  unfold stop
  split
  · rfl
  · rfl

namespace Vigil

def idle (handle : Nat) : Vigil R (Axis R) where
  seen cell := cell.axes.get? handle
  signal := .axis handle
  await bound cell := cell.awaitIdle handle bound
  wait timer := .idle handle timer
  met axis := !axis.state.moving
  stopped := Axis.stop
  value axis := .number axis.state.position

def settled (handle : Nat) (on : Bool) : Vigil R (Actuator R) where
  seen cell := cell.actuators.get? handle
  signal := .actuator handle
  await bound cell := cell.awaitSettled handle on bound
  wait timer := .settled handle on timer
  met actuator := actuator.state.settledAt on
  stopped := Actuator.stop
  value actuator := .bool (actuator.state.settledAt true)

theorem idle_lawful (handle : Nat) : (idle handle : Vigil R (Axis R)).Lawful where
  own _ _ := rfl
  traced _ _ := rfl
  issued _ _ := rfl
  clocked _ _ := rfl
  timer _ := rfl
  listens timer := List.mem_cons_of_mem _ (List.mem_singleton.mpr rfl)
  stands cell axis bound there met := by
    have known : cell.axes.get? handle = some axis := there
    have still : ¬ cell.moving handle = true := by simpa [idle, Cell.moving, known] using met
    have position : cell.position handle = .number axis.state.position := by simp only [Cell.position, known]
    show cell.awaitIdle handle bound = _
    rw [Cell.awaitIdle, if_neg still, Cell.lookIdle, if_neg still, position]
    rfl
  lapses cell axis bound there unmet finished := by
    have known : cell.axes.get? handle = some axis := there
    have moves : cell.moving handle = true := by simpa [idle, Cell.moving, known] using unmet
    refine ⟨cell.stopAxis handle, ?_, Cell.stopped_axis axis known⟩
    have await : cell.awaitIdle handle bound = (.value (cell.position handle), cell.stopAxis handle) := by
      rw [Cell.awaitIdle, if_pos moves, Cell.alarm_over bound _ rfl finished]
      simp only [Cell.lookIdle, if_pos moves]
    have position : cell.position handle = .number axis.stop.state.position := by
      simp only [Cell.position, known, Axis.stop_position]
    exact await.trans (by rw [position]; rfl)
  begins cell axis bound there unmet ahead := by
    have known : cell.axes.get? handle = some axis := there
    have moves : cell.moving handle = true := by simpa [idle, Cell.moving, known] using unmet
    have movesStill : ({ cell with issued := cell.issued + 1 } : Cell R).moving handle = true := moves
    show cell.awaitIdle handle bound = _
    generalize ends : Duration.due cell.now bound = due at ahead
    have early : ¬ ({ cell with issued := cell.issued + 1 } : Cell R).reached ⟨due, cell.issued⟩ = true := by
      simpa [Cell.reached] using ahead
    rw [Cell.awaitIdle, if_pos moves, Cell.alarm_set bound due ends ahead]
    simp only [Cell.lookIdle, if_pos movesStill, if_neg early]
    rfl
  comes cell axis timer there met := by
    have known : cell.axes.get? handle = some axis := there
    have still : cell.moving handle = false := by simpa [idle, Cell.moving, known] using met
    simp [idle, Cell.look, Cell.lookIdle, still, Cell.position, known]
  passes cell axis timer there unmet finished := by
    have known : cell.axes.get? handle = some axis := there
    have moves : cell.moving handle = true := by simpa [idle, Cell.moving, known] using unmet
    refine ⟨cell.stopAxis handle, ?_, Cell.stopped_axis axis known⟩
    simp [idle, Cell.look, Cell.lookIdle, Cell.reached, moves, finished, Cell.position, known, Axis.stop_position]
  stays cell axis timer there unmet ahead := by
    have known : cell.axes.get? handle = some axis := there
    have moves : cell.moving handle = true := by simpa [idle, Cell.moving, known] using unmet
    simp [idle, Cell.look, Cell.lookIdle, Cell.reached, moves, Nat.not_le_of_lt ahead]

theorem settled_lawful (handle : Nat) (on : Bool) : (settled handle on : Vigil R (Actuator R)).Lawful where
  own _ _ := rfl
  traced _ _ := rfl
  issued _ _ := rfl
  clocked _ _ := rfl
  timer _ := rfl
  listens timer := List.mem_cons_of_mem _ (List.mem_singleton.mpr rfl)
  stands cell actuator bound there met := by
    have known : cell.actuators.get? handle = some actuator := there
    have rests : cell.settledAt handle on = true := by simpa [settled, Cell.settledAt, known] using met
    have value : cell.settledOn handle = .bool (actuator.state.settledAt true) := by simp only [Cell.settledOn, known]
    show cell.awaitSettled handle on bound = _
    rw [Cell.awaitSettled, if_pos rests, Cell.lookSettled, if_pos rests, value]
    rfl
  lapses cell actuator bound there unmet finished := by
    have known : cell.actuators.get? handle = some actuator := there
    have rests : cell.settledAt handle on = false := by simpa [settled, Cell.settledAt, known] using unmet
    refine ⟨cell.stopActuator handle, ?_, Cell.stopped_actuator actuator known⟩
    have unsettled : ¬ cell.settledAt handle on = true := by simp [rests]
    have await : cell.awaitSettled handle on bound =
        (.value ((cell.stopActuator handle).settledOn handle), cell.stopActuator handle) := by
      rw [Cell.awaitSettled, if_neg unsettled, Cell.alarm_over bound _ rfl finished]
      simp only [Cell.lookSettled, if_neg unsettled]
    have value : (cell.stopActuator handle).settledOn handle = .bool (actuator.stop.state.settledAt true) := by
      simp only [Cell.settledOn, Cell.stopped_actuator actuator known]
    exact await.trans (by rw [value]; rfl)
  begins cell actuator bound there unmet ahead := by
    have known : cell.actuators.get? handle = some actuator := there
    have rests : cell.settledAt handle on = false := by simpa [settled, Cell.settledAt, known] using unmet
    have unsettled : ¬ cell.settledAt handle on = true := by simp [rests]
    have unsettledStill : ¬ ({ cell with issued := cell.issued + 1 } : Cell R).settledAt handle on = true := unsettled
    show cell.awaitSettled handle on bound = _
    generalize ends : Duration.due cell.now bound = due at ahead
    have early : ¬ ({ cell with issued := cell.issued + 1 } : Cell R).reached ⟨due, cell.issued⟩ = true := by
      simpa [Cell.reached] using ahead
    rw [Cell.awaitSettled, if_neg unsettled, Cell.alarm_set bound due ends ahead]
    simp only [Cell.lookSettled, if_neg unsettledStill, if_neg early]
    rfl
  comes cell actuator timer there met := by
    have known : cell.actuators.get? handle = some actuator := there
    have rests : cell.settledAt handle on = true := by simpa [settled, Cell.settledAt, known] using met
    simp [settled, Cell.look, Cell.lookSettled, rests, Cell.settledOn, known]
  passes cell actuator timer there unmet finished := by
    have known : cell.actuators.get? handle = some actuator := there
    have rests : cell.settledAt handle on = false := by simpa [settled, Cell.settledAt, known] using unmet
    refine ⟨cell.stopActuator handle, ?_, Cell.stopped_actuator actuator known⟩
    simp [settled, Cell.look, Cell.lookSettled, Cell.reached, rests, finished, Cell.settledOn,
      Cell.stopped_actuator actuator known]
  stays cell actuator timer there unmet ahead := by
    have known : cell.actuators.get? handle = some actuator := there
    have rests : cell.settledAt handle on = false := by simpa [settled, Cell.settledAt, known] using unmet
    simp [settled, Cell.look, Cell.lookSettled, Cell.reached, rests, Nat.not_le_of_lt ahead]

end Vigil

end Workcell

import Workcell.Proofs.Action.Basis
import Workcell.Proofs.Twin.Law

/-!
Traces and the questions put to the host are records: nobody who works on a cell reads them, and nobody but the
attempts at steps writes them. So cells that differ in their records only are twins. How the records compare is left
open: renamed steps leave other names in them, and of some traces nobody asks.
-/

set_option autoImplicit false

namespace Workcell

variable {R : Type}

def Cell.veil (traces : Stream Trace) (appeals : List Appeal) (cell : Cell R) : Cell R :=
  { cell with traces := traces, appeals := appeals }

namespace Act

variable {A B : Type}

-- Work that neither reads the records nor writes them.
def Blind (act : Act R A) : Prop :=
  ∀ traces appeals cell, act (cell.veil traces appeals) = ((act cell).1, (act cell).2.veil traces appeals)

theorem blind_pure (a : A) : Blind (pure a : Act R A) := fun _ _ _ => rfl

theorem blind_fail (fault : Fault) : Blind (fail fault : Act R A) := fun _ _ _ => rfl

theorem blind_panic (message : String) : Blind (panic message : Act R A) := fun _ _ _ => rfl

theorem blind_of_except (result : Except Fault A) : Blind (ofExcept result : Act R A) := by
  cases result with
  | ok a => exact blind_pure a
  | error fault => exact blind_fail fault

theorem blind_bind (act : Act R A) (next : A → Act R B) (first : Blind act) (second : ∀ a, Blind (next a)) :
    Blind (act >>= next) := by
  intro traces appeals cell
  rw [bind_apply, bind_apply, first traces appeals cell]
  rcases act cell with ⟨outcome, after⟩
  cases outcome with
  | ok a => exact second a traces appeals after
  | error failure => rfl

-- Reading the cell is blind where what follows makes nothing of its records.
theorem blind_get_bind (next : Cell R → Act R A) (same : ∀ cell traces appeals, next (cell.veil traces appeals) = next cell)
    (blind : ∀ cell, Blind (next cell)) : Blind ((get : Act R (Cell R)) >>= next) := by
  intro traces appeals cell
  rw [get_bind_apply, get_bind_apply, same]
  exact blind cell traces appeals cell

theorem blind_change (f : Cell R → A × Cell R)
    (blind : ∀ cell traces appeals, f (cell.veil traces appeals) = ((f cell).1, (f cell).2.veil traces appeals)) :
    Blind (change fun cell => f cell) := by
  intro traces appeals cell
  simp only [change, blind]

theorem blind_tell (f : Cell R → Cell R)
    (blind : ∀ cell traces appeals, f (cell.veil traces appeals) = (f cell).veil traces appeals) : Blind (tell f) :=
  blind_change _ fun cell traces appeals => by rw [blind]

end Act

namespace Cell

variable (cell : Cell R) (traces : Stream Trace) (appeals : List Appeal)

theorem put_axis_veil (handle : Nat) (before after : Axis R) :
    (cell.veil traces appeals).putAxis handle before after = (cell.putAxis handle before after).veil traces appeals := by
  by_cases shown : after.published = before.published
  · simp only [putAxis, if_pos shown]
    rfl
  · simp only [putAxis, if_neg shown]
    rfl

theorem put_actuator_veil (handle : Nat) (before after : Actuator R) :
    (cell.veil traces appeals).putActuator handle before after =
      (cell.putActuator handle before after).veil traces appeals := by
  by_cases shown : after.published = before.published
  · simp only [putActuator, if_pos shown]
    rfl
  · simp only [putActuator, if_neg shown]
    rfl

theorem stop_axis_veil (handle : Nat) :
    (cell.veil traces appeals).stopAxis handle = (cell.stopAxis handle).veil traces appeals := by
  have bank : (cell.veil traces appeals).axes = cell.axes := rfl
  rw [stopAxis, stopAxis, bank]
  cases cell.axes.get? handle with
  | some axis => exact put_axis_veil cell traces appeals handle axis axis.stop
  | none => rfl

theorem stop_actuator_veil (handle : Nat) :
    (cell.veil traces appeals).stopActuator handle = (cell.stopActuator handle).veil traces appeals := by
  have bank : (cell.veil traces appeals).actuators = cell.actuators := rfl
  rw [stopActuator, stopActuator, bank]
  cases cell.actuators.get? handle with
  | some actuator => exact put_actuator_veil cell traces appeals handle actuator actuator.stop
  | none => rfl

theorem abandon_veil (wait : Wait R) :
    wait.abandon (cell.veil traces appeals) = (wait.abandon cell).veil traces appeals := by
  cases wait with
  | delay timer => rfl
  | idle axis timer => exact cell.stop_axis_veil traces appeals axis
  | settled actuator on timer => exact cell.stop_actuator_veil traces appeals actuator
  | probe axis threshold deadline timer => exact cell.stop_axis_veil traces appeals axis

theorem alarm_veil (span : Duration) :
    (cell.veil traces appeals).alarm span = ((cell.alarm span).1, (cell.alarm span).2.veil traces appeals) := by
  have clock : (cell.veil traces appeals).now = cell.now := rfl
  by_cases isOver : Duration.due cell.now span ≤ cell.now
  · simp only [alarm, clock, if_pos isOver]
  · simp only [alarm, clock, if_neg isOver]
    rfl

theorem look_idle_veil (axis : Nat) (timer : Option Timer) :
    (cell.veil traces appeals).lookIdle axis timer =
      ((cell.lookIdle axis timer).1, (cell.lookIdle axis timer).2.veil traces appeals) := by
  have moves : (cell.veil traces appeals).moving axis = cell.moving axis := rfl
  have stops := cell.stop_axis_veil traces appeals axis
  simp only [lookIdle, moves]
  by_cases moving : cell.moving axis = true
  · simp only [if_pos moving]
    cases timer with
    | none => simp only [stops]; rfl
    | some timer =>
        have reaches : (cell.veil traces appeals).reached timer = cell.reached timer := rfl
        simp only [reaches]
        by_cases reached : cell.reached timer = true
        · simp only [if_pos reached, stops]
          rfl
        · simp only [if_neg reached]
  · simp only [if_neg moving]
    rfl

theorem look_settled_veil (actuator : Nat) (on : Bool) (timer : Option Timer) :
    (cell.veil traces appeals).lookSettled actuator on timer =
      ((cell.lookSettled actuator on timer).1, (cell.lookSettled actuator on timer).2.veil traces appeals) := by
  have settles : (cell.veil traces appeals).settledAt actuator on = cell.settledAt actuator on := rfl
  have stops := cell.stop_actuator_veil traces appeals actuator
  simp only [lookSettled, settles]
  by_cases settled : cell.settledAt actuator on = true
  · simp only [if_pos settled]
    rfl
  · simp only [if_neg settled]
    cases timer with
    | none => simp only [stops]; rfl
    | some timer =>
        have reaches : (cell.veil traces appeals).reached timer = cell.reached timer := rfl
        simp only [reaches]
        by_cases reached : cell.reached timer = true
        · simp only [if_pos reached, stops]
          rfl
        · simp only [if_neg reached]

theorem await_delay_veil (span : Duration) :
    (cell.veil traces appeals).awaitDelay span =
      ((cell.awaitDelay span).1, (cell.awaitDelay span).2.veil traces appeals) := by
  rw [await_delay_eq, await_delay_eq, alarm_veil]
  rcases cell.alarm span with ⟨timer, after⟩
  cases timer with
  | none => rfl
  | some timer => rfl

theorem await_idle_veil (axis : Nat) (bound : Duration) :
    (cell.veil traces appeals).awaitIdle axis bound =
      ((cell.awaitIdle axis bound).1, (cell.awaitIdle axis bound).2.veil traces appeals) := by
  have moves : (cell.veil traces appeals).moving axis = cell.moving axis := rfl
  have rung := cell.alarm_veil traces appeals bound
  unfold awaitIdle
  rw [moves, rung]
  -- The clock is kept out of sight, lest its arithmetic be reduced.
  generalize cell.alarm bound = alarm
  obtain ⟨timer, after⟩ := alarm
  by_cases moving : cell.moving axis = true
  · rw [if_pos moving, if_pos moving]
    exact after.look_idle_veil traces appeals axis timer
  · rw [if_neg moving, if_neg moving]
    exact cell.look_idle_veil traces appeals axis none

theorem await_settled_veil (actuator : Nat) (on : Bool) (bound : Duration) :
    (cell.veil traces appeals).awaitSettled actuator on bound =
      ((cell.awaitSettled actuator on bound).1, (cell.awaitSettled actuator on bound).2.veil traces appeals) := by
  have settles : (cell.veil traces appeals).settledAt actuator on = cell.settledAt actuator on := rfl
  have rung := cell.alarm_veil traces appeals bound
  unfold awaitSettled
  rw [settles, rung]
  generalize cell.alarm bound = alarm
  obtain ⟨timer, after⟩ := alarm
  by_cases settled : cell.settledAt actuator on = true
  · rw [if_pos settled, if_pos settled]
    exact cell.look_settled_veil traces appeals actuator on none
  · rw [if_neg settled, if_neg settled]
    exact after.look_settled_veil traces appeals actuator on timer

variable [Scalar R]

theorem look_probe_veil (axis : Nat) (threshold : R) (deadline : Duration) :
    (cell.veil traces appeals).lookProbe axis threshold deadline =
      ((cell.lookProbe axis threshold deadline).1, (cell.lookProbe axis threshold deadline).2.veil traces appeals) := by
  have stops := cell.stop_axis_veil traces appeals axis
  unfold lookProbe
  by_cases reached : threshold ≤ cell.process axis
  · rw [if_pos (show threshold ≤ (cell.veil traces appeals).process axis from reached), if_pos reached, stops]
    rfl
  · rw [if_neg (show ¬ threshold ≤ (cell.veil traces appeals).process axis from reached), if_neg reached]
    by_cases still : (!cell.moving axis) = true
    · rw [if_pos (show (!(cell.veil traces appeals).moving axis) = true from still), if_pos still]
      rfl
    · rw [if_neg (show ¬ (!(cell.veil traces appeals).moving axis) = true from still), if_neg still]
      by_cases late : deadline ≤ cell.instant
      · rw [if_pos (show deadline ≤ (cell.veil traces appeals).instant from late), if_pos late, stops]
        rfl
      · rw [if_neg (show ¬ deadline ≤ (cell.veil traces appeals).instant from late), if_neg late]
        rfl

theorem look_veil (wait : Wait R) :
    (cell.veil traces appeals).look wait = ((cell.look wait).1, (cell.look wait).2.veil traces appeals) := by
  have reaches : ∀ timer, (cell.veil traces appeals).reached timer = cell.reached timer := fun _ => rfl
  cases wait with
  | delay timer =>
      simp only [look, reaches]
      by_cases reached : cell.reached timer = true
      · simp only [if_pos reached]
      · simp only [if_neg reached]
  | idle axis timer => exact cell.look_idle_veil traces appeals axis (some timer)
  | settled actuator on timer => exact cell.look_settled_veil traces appeals actuator on (some timer)
  | probe axis threshold deadline timer =>
      simp only [look, reaches]
      by_cases reached : cell.reached timer = true
      · simp only [if_pos reached]
        exact cell.look_probe_veil traces appeals axis threshold deadline
      · simp only [if_neg reached]

end Cell

namespace Action

variable [Scalar R]

open Act

theorem make_axis_blind (spec : AxisSpec R) : Blind (makeAxis spec) := by
  intro traces appeals cell
  have driver : (cell.veil traces appeals).driver = cell.driver := rfl
  rw [makeAxis, get_bind_apply, get_bind_apply, driver]
  cases cell.driver.createAxis spec with
  | error error => rfl
  | ok axis => cases axis <;> rfl

theorem make_actuator_blind (spec : ActuatorSpec) : Blind (R := R) (makeActuator spec) := by
  intro traces appeals cell
  have driver : (cell.veil traces appeals).driver = cell.driver := rfl
  rw [makeActuator, get_bind_apply, get_bind_apply, driver]
  cases cell.driver.createActuator (R := R) spec <;> rfl

theorem find_axis_blind (id : String) : Blind (R := R) (findAxis id) := by
  refine blind_get_bind _ (fun _ _ _ => rfl) fun cell => ?_
  split
  · exact blind_pure _
  · split
    · exact make_axis_blind _
    · exact blind_fail _

theorem find_actuator_blind (id : String) : Blind (R := R) (findActuator id) := by
  refine blind_get_bind _ (fun _ _ _ => rfl) fun cell => ?_
  split
  · exact blind_pure _
  · split
    · exact make_actuator_blind _
    · exact blind_fail _

theorem command_axis_blind (handle : Nat) (axis : Axis R) (target : R) (speed : Option R) (homing : Bool) :
    Blind (commandAxis handle axis target speed homing) := by
  intro traces appeals cell
  have alive : (cell.veil traces appeals).live = cell.live := rfl
  rw [commandAxis, get_bind_apply, get_bind_apply, alive]
  by_cases live : cell.live = true
  · rw [if_pos live, if_pos live]
    rcases axis.command target speed homing with ⟨reached, motion, moved⟩
    have put := cell.put_axis_veil traces appeals handle axis moved
    cases motion with
    | none => simp only [put]; rfl
    | some motion => simp only [put]; rfl
  · rw [if_neg live, if_neg live]
    rfl

theorem fire_actuator_blind (handle : Nat) (actuator : Actuator R) (on : Bool) :
    Blind (fireActuator handle actuator on) := by
  intro traces appeals cell
  have alive : (cell.veil traces appeals).live = cell.live := rfl
  rw [fireActuator, get_bind_apply, get_bind_apply, alive]
  rcases actuator.fire on with ⟨stroke, fired⟩
  have put := cell.put_actuator_veil traces appeals handle actuator fired
  cases stroke with
  | none => simp only [put]; rfl
  | some stroke =>
      by_cases live : cell.live = true
      · simp only [if_pos live, put]
        rfl
      · simp only [if_neg live]
        rfl

theorem move_axis_blind (handle : Nat) (axis : Axis R) (target : R) (speed : Option R) :
    Blind (moveAxis handle axis target speed) := by
  unfold moveAxis
  split
  · exact blind_fail _
  · exact command_axis_blind handle axis target speed false

theorem move_blind (call : Call R) : Blind (Motion.command call) := by
  refine blind_bind _ _ (find_axis_blind call.device) fun found => ?_
  refine blind_bind _ _ (blind_of_except _) fun target => blind_bind _ _ (blind_of_except _) fun speed => ?_
  exact blind_bind _ _ (move_axis_blind found.1 found.2 target speed) fun _ => blind_pure _

omit [Scalar R] in
theorem await_idle_blind (call : Call R) (handle : Nat) : Blind (Motion.awaitIdle call handle) :=
  blind_change _ fun cell traces appeals => cell.await_idle_veil traces appeals handle (call.bound cell)

omit [Scalar R] in
theorem collapse_blind (handle : Nat) (message : String) : Blind (Motion.collapse (R := R) handle message) := by
  refine blind_bind _ _ (blind_tell _ fun cell traces appeals => ?_) fun _ => blind_panic message
  exact cell.stop_axis_veil traces appeals handle

theorem move_until_blind (call : Call R) : Blind (Motion.moveUntil call) := by
  refine blind_bind _ _ (find_axis_blind call.device) fun found => ?_
  refine blind_bind _ _ (blind_of_except _) fun target => blind_bind _ _ (blind_of_except _) fun threshold => ?_
  refine blind_bind _ _ (blind_of_except _) fun speed => ?_
  split
  · exact blind_of_except _
  · refine blind_bind _ _ (move_axis_blind found.1 found.2 target speed) fun _ => ?_
    refine blind_get_bind _ (fun _ _ _ => rfl) fun cell => ?_
    dsimp only
    split
    · exact collapse_blind found.1 _
    · split
      · exact collapse_blind found.1 _
      · exact blind_change _ fun cell traces appeals => cell.look_probe_veil traces appeals found.1 threshold _

theorem motion_blind (operation : Operation) (handler : Handler R) (member : (operation, handler) ∈ HandlerTable.motions)
    (call : Call R) : Blind (handler call) := by
  simp only [HandlerTable.motions, List.mem_cons, Prod.mk.injEq, List.not_mem_nil, or_false] at member
  rcases member with ⟨-, rfl⟩ | ⟨-, rfl⟩ | ⟨-, rfl⟩ | ⟨-, rfl⟩ | ⟨-, rfl⟩ | ⟨-, rfl⟩
  · exact blind_bind _ _ (move_blind call) fun _ => blind_pure _
  · exact blind_bind _ _ (move_blind call) fun commanded => await_idle_blind call commanded.1
  · exact move_until_blind call
  · refine blind_bind _ _ (find_axis_blind call.device) fun found => ?_
    exact blind_bind _ _ (command_axis_blind found.1 found.2 _ none true) fun _ => await_idle_blind call found.1
  · refine blind_bind _ _ (find_axis_blind call.device) fun found => ?_
    refine blind_bind _ _ (blind_tell _ fun cell traces appeals => ?_) fun _ => blind_pure _
    exact cell.stop_axis_veil traces appeals found.1
  · exact blind_bind _ _ (find_axis_blind call.device) fun _ => blind_pure _

theorem switch_blind (call : Call R) : Blind (Switching.command call) := by
  refine blind_bind _ _ (find_actuator_blind call.device) fun found => ?_
  refine blind_bind _ _ (blind_of_except _) fun on => ?_
  exact blind_bind _ _ (fire_actuator_blind found.1 found.2 on) fun _ => blind_pure _

omit [Scalar R] in
theorem await_settled_blind (call : Call R) (handle : Nat) (on : Bool) :
    Blind (Switching.awaitSettled call handle on) :=
  blind_change _ fun cell traces appeals => cell.await_settled_veil traces appeals handle on (call.bound cell)

theorem switching_blind (operation : Operation) (handler : Handler R)
    (member : (operation, handler) ∈ HandlerTable.switchings) (call : Call R) : Blind (handler call) := by
  simp only [HandlerTable.switchings, List.mem_cons, Prod.mk.injEq, List.not_mem_nil, or_false] at member
  rcases member with ⟨-, rfl⟩ | ⟨-, rfl⟩ | ⟨-, rfl⟩ | ⟨-, rfl⟩ | ⟨-, rfl⟩
  · exact blind_bind _ _ (switch_blind call) fun _ => blind_pure _
  · exact blind_bind _ _ (switch_blind call) fun commanded => await_settled_blind call commanded.1 commanded.2
  · refine blind_bind _ _ (find_actuator_blind call.device) fun found => ?_
    exact blind_bind _ _ (blind_of_except _) fun on => await_settled_blind call found.1 on
  · refine blind_bind _ _ (find_actuator_blind call.device) fun found => blind_change _ fun cell traces appeals => ?_
    simp only [cell.stop_actuator_veil traces appeals found.1]
    rfl
  · exact blind_bind _ _ (find_actuator_blind call.device) fun _ => blind_pure _

theorem delay_blind (call : Call R) : Blind (Control.delay call) := by
  refine blind_bind _ _ (blind_of_except _) fun span => ?_
  exact blind_change (Cell.awaitDelay span) fun cell traces appeals => cell.await_delay_veil traces appeals span

theorem control_blind (operation : Operation) (handler : Handler R) (member : (operation, handler) ∈ controls)
    (call : Call R) : Blind (handler call) := by
  simp only [controls, List.mem_cons, Prod.mk.injEq, List.not_mem_nil, or_false] at member
  rcases member with ⟨-, rfl⟩ | ⟨-, rfl⟩ | ⟨-, rfl⟩ | ⟨-, rfl⟩ | ⟨-, rfl⟩ | ⟨-, rfl⟩
  · exact delay_blind call
  · exact blind_bind _ _ (blind_of_except _) fun message => blind_fail _
  · exact blind_pure _
  · refine blind_bind _ _ (blind_of_except _) fun name => blind_get_bind _ (fun _ _ _ => rfl) fun cell => ?_
    split
    · exact blind_pure _
    · split
      · exact blind_bind _ _ (blind_of_except _) fun _ => blind_pure _
      · exact blind_of_except _
  · exact blind_bind _ _ (blind_of_except _) fun _ => blind_pure _
  · refine blind_bind _ _ (blind_of_except _) fun name => blind_bind _ _ (blind_of_except _) fun value => ?_
    exact blind_bind _ _ (blind_tell _ fun _ _ _ => rfl) fun _ => blind_pure _

omit [Scalar R] in
theorem take_blind (station : String) : Blind (Stock.take (R := R) station) := by
  refine blind_bind _ _ (blind_change _ fun _ _ _ => rfl) fun material => ?_
  cases material with
  | some material => exact blind_pure _
  | none => exact blind_fail _

theorem stock_blind (operation : Operation) (handler : Handler R) (member : (operation, handler) ∈ stocks)
    (call : Call R) : Blind (handler call) := by
  simp only [stocks, List.mem_cons, Prod.mk.injEq, List.not_mem_nil, or_false] at member
  rcases member with ⟨-, rfl⟩ | ⟨-, rfl⟩ | ⟨-, rfl⟩ | ⟨-, rfl⟩ | ⟨-, rfl⟩ | ⟨-, rfl⟩ | ⟨-, rfl⟩
  · refine blind_bind _ _ (blind_of_except _) fun station => blind_bind _ _ (blind_of_except _) fun className => ?_
    refine blind_bind _ _ (blind_change _ fun _ _ _ => rfl) fun id => ?_
    exact blind_bind _ _ (blind_tell _ fun _ _ _ => rfl) fun _ => blind_pure _
  · refine blind_bind _ _ (blind_of_except _) fun station => blind_bind _ _ (blind_of_except _) fun className => ?_
    refine blind_get_bind _ (fun _ _ _ => rfl) fun cell => ?_
    split
    · exact blind_fail _
    · exact blind_bind _ _ (blind_tell _ fun _ _ _ => rfl) fun _ => blind_pure _
  · refine blind_bind _ _ (blind_of_except _) fun station => blind_bind _ _ (take_blind station) fun material => ?_
    exact blind_bind _ _ (blind_tell _ fun _ _ _ => rfl) fun _ => blind_pure _
  · refine blind_bind _ _ (blind_of_except _) fun station => blind_bind _ _ (blind_of_except _) fun id => ?_
    refine blind_bind _ _ (blind_of_except _) fun className => ?_
    exact blind_bind _ _ (blind_tell _ fun _ _ _ => rfl) fun _ => blind_pure _
  · refine blind_bind _ _ (blind_of_except _) fun station => ?_
    refine blind_bind _ _ (blind_change _ fun _ _ _ => rfl) fun material => ?_
    cases material with
    | some material => exact blind_pure _
    | none => exact blind_pure _
  · refine blind_bind _ _ (blind_of_except _) fun holder => blind_bind _ _ (blind_of_except _) fun source => ?_
    refine blind_bind _ _ (take_blind source) fun material => ?_
    exact blind_bind _ _ (blind_tell _ fun _ _ _ => rfl) fun _ => blind_pure _
  · refine blind_bind _ _ (blind_of_except _) fun holder => blind_bind _ _ (blind_of_except _) fun target => ?_
    refine blind_bind _ _ (take_blind holder) fun material => ?_
    exact blind_bind _ _ (blind_tell _ fun _ _ _ => rfl) fun _ => blind_pure _

end Action

def HandlerTable.Blind (handlers : HandlerTable R) : Prop :=
  ∀ cell call handler, handlers.resolve cell call = .ok handler → (handler call).Blind

theorem HandlerTable.standard_blind [Scalar R] : (standard (R := R)).Blind := by
  intro cell call handler resolved
  rcases standard_handler cell call handler resolved with motion | switching | service
  · exact Action.motion_blind call.operation handler motion call
  · exact Action.switching_blind call.operation handler switching call
  · rcases List.mem_append.mp (Action.services_split (R := R) ▸ service) with control | stock
    · exact Action.control_blind call.operation handler control call
    · exact Action.stock_blind call.operation handler stock call

abbrev Records := Stream Trace → List Appeal → Stream Trace → List Appeal → Prop

def Cell.Twinned (compare : Records) (cell copy : Cell R) : Prop :=
  ∃ traces appeals, copy = cell.veil traces appeals ∧ compare cell.traces cell.appeals traces appeals

theorem Cell.veil_own (cell : Cell R) : cell.veil cell.traces cell.appeals = cell := rfl

theorem Act.blind_keeps {A : Type} (act : Act R A) (blind : act.Blind) (cell : Cell R) :
    (act cell).2.traces = cell.traces ∧ (act cell).2.appeals = cell.appeals := by
  have own := blind cell.traces cell.appeals cell
  rw [Cell.veil_own] at own
  exact ⟨congrArg (fun result => result.2.traces) own, congrArg (fun result => result.2.appeals) own⟩

variable [Scalar R]

theorem Cell.look_keeps (cell : Cell R) (wait : Wait R) :
    (cell.look wait).2.traces = cell.traces ∧ (cell.look wait).2.appeals = cell.appeals :=
  Act.blind_keeps (Act.change fun cell => cell.look wait)
    (Act.blind_change _ fun cell traces appeals => cell.look_veil traces appeals wait) cell

-- Turns in cells with other records are turns in twins, if the records stay comparable by what attempts add.
theorem twinned_twins (handlers : HandlerTable R) (blind : handlers.Blind) (rename : String → String → String)
    (compare : Records)
    (traced : ∀ traces appeals traces' appeals', compare traces appeals traces' appeals' →
      ∀ (step : Step R) status number,
        compare (traces.push ⟨step.name, step.device, status, number⟩) appeals
          (traces'.push ⟨rename step.shape step.name, step.device, status, number⟩) appeals')
    (asked : ∀ traces appeals traces' appeals', compare traces appeals traces' appeals' →
      ∀ (step : Step R) (fault : Fault),
        compare traces (appeals ++ [⟨step.name, step.policy.onError, fault.code⟩]) traces'
          (appeals' ++ [⟨rename step.shape step.name, step.policy.onError, fault.code⟩])) :
    Twins handlers rename (Cell.Twinned compare) where
  cancelled := by
    rintro cell - ⟨traces, appeals, rfl, -⟩
    rfl
  hook := by
    rintro cell - ⟨traces, appeals, rfl, -⟩
    rfl
  trace := by
    rintro cell - ⟨traces, appeals, rfl, alike⟩ step status number
    refine ⟨_, appeals, ?_, traced _ _ _ _ alike step status number⟩
    simp [Cell.trace, Cell.veil]
  appeal := by
    rintro cell - ⟨traces, appeals, rfl, alike⟩ step fault
    refine ⟨traces, _, ?_, asked _ _ _ _ alike step fault⟩
    simp [Cell.appeal, Cell.veil]
  issue := by
    rintro cell - ⟨traces, appeals, rfl, alike⟩
    exact ⟨rfl, traces, appeals, rfl, alike⟩
  effect := by
    rintro cell - ⟨traces, appeals, rfl, alike⟩ asked
    exact ⟨traces, appeals, rfl, alike⟩
  resolve := by
    rintro cell - ⟨traces, appeals, rfl, -⟩ call
    rfl
  act := by
    rintro cell - ⟨traces, appeals, rfl, alike⟩ call handler resolved
    have blindly := blind cell call handler resolved
    -- Blind work leaves the records as they were, so they compare as before.
    obtain ⟨sameTraces, sameAppeals⟩ := Act.blind_keeps (handler call) blindly cell
    rw [blindly traces appeals cell]
    refine ⟨rfl, traces, appeals, rfl, ?_⟩
    rw [sameTraces, sameAppeals]
    exact alike
  look := by
    rintro cell - ⟨traces, appeals, rfl, alike⟩ wait
    obtain ⟨sameTraces, sameAppeals⟩ := cell.look_keeps wait
    rw [cell.look_veil traces appeals wait]
    refine ⟨rfl, traces, appeals, rfl, ?_⟩
    rw [sameTraces, sameAppeals]
    exact alike
  abandon := by
    rintro cell - ⟨traces, appeals, rfl, alike⟩ wait
    have blindly : (Act.tell fun cell : Cell R => wait.abandon cell).Blind :=
      Act.blind_tell _ fun cell traces appeals => cell.abandon_veil traces appeals wait
    obtain ⟨sameTraces, sameAppeals⟩ := Act.blind_keeps _ blindly cell
    refine ⟨traces, appeals, cell.abandon_veil traces appeals wait, ?_⟩
    rw [show (wait.abandon cell).traces = cell.traces from sameTraces,
      show (wait.abandon cell).appeals = cell.appeals from sameAppeals]
    exact alike

end Workcell

import Workcell.Proofs.Action.Basis
import Workcell.Proofs.Drift.Acts

/-!
Handlers that use the clock to wait and for nothing else: they do the same in a cell adrift. Those of the standard table
are of that sort, for calls whose own spans are plain.
-/

set_option autoImplicit false

namespace Workcell

variable {R : Type}

structure Call.Plain [Scalar R] (drift : Drift) (call : Call R) : Prop where
  bound : ∀ bound, call.timeout = some bound → drift.Plain bound
  delay : call.operation = .delay → ∀ span, Action.Control.span call = .ok span → drift.Plain span

namespace Act

variable {A B : Type} {drift : Drift}

def Carried (drift : Drift) (out : A → A) (act : Act R A) : Prop :=
  ∀ cell, drift.Fits cell → act (drift.cell cell) = ((act cell).1.map out, drift.cell (act cell).2) ∧ drift.Fits (act cell).2

theorem carried_pure (out : A → A) (a : A) (same : out a = a) : Carried drift out (pure a : Act R A) := by
  intro cell fits
  refine ⟨?_, fits⟩
  show (Except.ok a, drift.cell cell) = (Except.ok (out a), drift.cell cell)
  rw [same]

theorem carried_fail (out : A → A) (fault : Fault) : Carried drift out (fail fault : Act R A) := fun _ fits => ⟨rfl, fits⟩

theorem carried_panic (out : A → A) (message : String) : Carried drift out (panic message : Act R A) :=
  fun _ fits => ⟨rfl, fits⟩

theorem carried_of_except (result : Except Fault A) : Carried drift id (ofExcept result : Act R A) := by
  cases result with
  | ok a => exact carried_pure id a rfl
  | error fault => exact carried_fail id fault

-- What the first part yields in a cell that fits may be relied upon.
theorem carried_bind_of (good : A → Prop) (out : B → B) (act : Act R A) (next : A → Act R B) (first : Carried drift id act)
    (yields : ∀ cell a, drift.Fits cell → (act cell).1 = .ok a → good a)
    (second : ∀ a, good a → Carried drift out (next a)) : Carried drift out (act >>= next) := by
  intro cell fits
  obtain ⟨same, between⟩ := first cell fits
  have fine := yields cell
  rw [bind_apply, bind_apply, same]
  rcases result : act cell with ⟨outcome, after⟩
  rw [result] at between fine
  cases outcome with
  | ok a => exact second a (fine a fits rfl) after between
  | error failure => exact ⟨rfl, between⟩

theorem carried_bind (out : B → B) (act : Act R A) (next : A → Act R B) (first : Carried drift id act)
    (second : ∀ a, Carried drift out (next a)) : Carried drift out (act >>= next) :=
  carried_bind_of (fun _ => True) out act next first (fun _ _ _ _ => trivial) fun a _ => second a

-- What follows may make something of the clock, as long as it makes the same of one that is ahead.
theorem carried_get_bind (out : B → B) (next : Cell R → Act R B)
    (same : ∀ cell, drift.Fits cell → next (drift.cell cell) = next cell)
    (carried : ∀ cell, drift.Fits cell → Carried drift out (next cell)) :
    Carried drift out ((get : Act R (Cell R)) >>= next) := by
  intro cell fits
  rw [get_bind_apply, get_bind_apply, same cell fits]
  exact carried cell fits cell fits

theorem carried_change (out : A → A) (change : Cell R → A × Cell R)
    (carries : ∀ cell, drift.Fits cell → change (drift.cell cell) = (out (change cell).1, drift.cell (change cell).2) ∧
      drift.Fits (change cell).2) : Carried drift out (Act.change fun cell => change cell) := by
  intro cell fits
  obtain ⟨same, after⟩ := carries cell fits
  refine ⟨?_, after⟩
  simp only [Act.change, same]
  rfl

theorem carried_tell (change : Cell R → Cell R) (keeps : drift.Keeps change) : Carried drift id (tell change) :=
  carried_change id (fun cell => ((), change cell)) fun cell fits => by
    obtain ⟨same, after⟩ := keeps cell fits
    exact ⟨by rw [same], after⟩

end Act

namespace Action

variable [Scalar R] {drift : Drift}

open Act

theorem made_axis_plain (cell : Cell R) (fits : drift.Fits cell) (spec : AxisSpec R) (axis : Axis R)
    (made : cell.driver.createAxis spec = .ok (some axis)) : drift.Plain axis.tick := by
  cases driven : cell.driver with
  | absent =>
      rw [driven] at made
      cases made
  | simulation tick =>
      rw [driven] at made
      obtain ⟨bare, created, rfl⟩ := Option.map_eq_some_iff.mp (Except.ok.inj made)
      obtain ⟨home, -, rfl⟩ := Option.map_eq_some_iff.mp created
      exact fits.driver tick driven

theorem make_axis_carried (spec : AxisSpec R) : Carried drift id (makeAxis spec) := by
  intro cell fits
  have same : (drift.cell cell).driver = cell.driver := rfl
  rw [makeAxis, get_bind_apply, get_bind_apply, same]
  cases made : cell.driver.createAxis spec with
  | error error => exact ⟨rfl, fits⟩
  | ok axis =>
      cases axis with
      | none => exact ⟨rfl, fits⟩
      | some axis =>
          refine ⟨rfl, { fits with axes := fun other member => ?_ }⟩
          rcases List.mem_append.mp member with old | new
          · exact fits.axes other old
          · rw [List.mem_singleton.mp new]
            exact made_axis_plain cell fits spec axis made

theorem made_actuator_plain (cell : Cell R) (fits : drift.Fits cell) (spec : ActuatorSpec) (actuator : Actuator R)
    (made : cell.driver.createActuator spec = .ok actuator) : drift.Plain actuator.tick := by
  cases driven : cell.driver with
  | absent =>
      rw [driven] at made
      cases made
  | simulation tick =>
      rw [driven] at made
      cases made
      exact fits.driver tick driven

theorem make_actuator_carried (spec : ActuatorSpec) : Carried (R := R) drift id (makeActuator spec) := by
  intro cell fits
  have same : (drift.cell cell).driver = cell.driver := rfl
  rw [makeActuator, get_bind_apply, get_bind_apply, same]
  cases made : cell.driver.createActuator (R := R) spec with
  | error error => exact ⟨rfl, fits⟩
  | ok actuator =>
      refine ⟨rfl, { fits with actuators := fun other member => ?_ }⟩
      rcases List.mem_append.mp member with old | new
      · exact fits.actuators other old
      · rw [List.mem_singleton.mp new]
        exact made_actuator_plain cell fits spec actuator made

theorem find_axis_carried (device : String) : Carried (R := R) drift id (findAxis device) := by
  refine carried_get_bind _ _ (fun _ _ => rfl) fun cell _ => ?_
  split
  · exact carried_pure _ _ rfl
  · split
    · exact make_axis_carried _
    · exact carried_fail _ _

theorem find_actuator_carried (device : String) : Carried (R := R) drift id (findActuator device) := by
  refine carried_get_bind _ _ (fun _ _ => rfl) fun cell _ => ?_
  split
  · exact carried_pure _ _ rfl
  · split
    · exact make_actuator_carried _
    · exact carried_fail _ _

theorem found_axis_plain (device : String) (cell : Cell R) (found : Nat × Axis R) (fits : drift.Fits cell)
    (finds : (findAxis device cell).1 = .ok found) : drift.Plain found.2.tick := by
  rw [findAxis, get_bind_apply] at finds
  cases known : cell.axes.find? device with
  | some entry =>
      rw [known] at finds
      cases finds
      obtain ⟨handle, -, there⟩ := Option.bind_eq_some_iff.mp known
      obtain ⟨axis, present, rfl⟩ := Option.map_eq_some_iff.mp there
      exact fits.axes axis (List.mem_of_getElem? present)
  | none =>
      rw [known] at finds
      cases declared : cell.machine.axis? device with
      | none =>
          rw [declared] at finds
          cases finds
      | some spec =>
          rw [declared] at finds
          simp only [makeAxis, get_bind_apply] at finds
          cases made : cell.driver.createAxis spec with
          | error error =>
              rw [made] at finds
              cases finds
          | ok axis =>
              rw [made] at finds
              cases axis with
              | none => cases finds
              | some axis =>
                  cases finds
                  exact made_axis_plain cell fits spec axis made

theorem found_actuator_plain (device : String) (cell : Cell R) (found : Nat × Actuator R) (fits : drift.Fits cell)
    (finds : (findActuator device cell).1 = .ok found) : drift.Plain found.2.tick := by
  rw [findActuator, get_bind_apply] at finds
  cases known : cell.actuators.find? device with
  | some entry =>
      rw [known] at finds
      cases finds
      obtain ⟨handle, -, there⟩ := Option.bind_eq_some_iff.mp known
      obtain ⟨actuator, present, rfl⟩ := Option.map_eq_some_iff.mp there
      exact fits.actuators actuator (List.mem_of_getElem? present)
  | none =>
      rw [known] at finds
      cases declared : cell.machine.actuator? device with
      | none =>
          rw [declared] at finds
          cases finds
      | some spec =>
          rw [declared] at finds
          simp only [makeActuator, get_bind_apply] at finds
          cases made : cell.driver.createActuator (R := R) spec with
          | error error =>
              rw [made] at finds
              cases finds
          | ok actuator =>
              rw [made] at finds
              cases finds
              exact made_actuator_plain cell fits spec actuator made

theorem command_tick (axis : Axis R) (target : R) (speed : Option R) (homing : Bool) :
    (axis.command target speed homing).2.2.tick = axis.tick := by
  simp only [Axis.command]
  split <;> rfl

theorem fire_tick (actuator : Actuator R) (on : Bool) : (actuator.fire on).2.tick = actuator.tick := by
  simp only [Actuator.fire]
  split <;> rfl

theorem command_axis_carried (handle : Nat) (axis : Axis R) (plain : drift.Plain axis.tick) (target : R) (speed : Option R)
    (homing : Bool) : Carried drift id (commandAxis handle axis target speed homing) := by
  intro cell fits
  have alive : (drift.cell cell).live = cell.live := rfl
  rw [commandAxis, get_bind_apply, get_bind_apply, alive]
  by_cases live : cell.live = true
  · rw [if_pos live, if_pos live]
    have ticks := command_tick axis target speed homing
    generalize axis.command target speed homing = commanded at ticks ⊢
    obtain ⟨reached, motion, moved⟩ := commanded
    have still : moved.tick = axis.tick := ticks
    obtain ⟨put, after⟩ := Drift.put_axis_keeps handle axis moved (still ▸ plain) cell fits
    cases motion with
    | none =>
        simp only [put]
        exact ⟨rfl, after⟩
    | some motion =>
        obtain ⟨asked, later⟩ := Drift.effect_keeps (.motion handle motion) (.motion handle motion) (by rintro sent ⟨⟩)
          rfl _ after
        simp only [put, asked]
        exact ⟨rfl, later⟩
  · rw [if_neg live, if_neg live]
    exact ⟨rfl, fits⟩

theorem fire_actuator_carried (handle : Nat) (actuator : Actuator R) (plain : drift.Plain actuator.tick) (on : Bool) :
    Carried drift id (fireActuator handle actuator on) := by
  intro cell fits
  have alive : (drift.cell cell).live = cell.live := rfl
  rw [fireActuator, get_bind_apply, get_bind_apply, alive]
  have ticks := fire_tick actuator on
  generalize actuator.fire on = outcome at ticks ⊢
  obtain ⟨stroke, fired⟩ := outcome
  have still : fired.tick = actuator.tick := ticks
  obtain ⟨put, after⟩ := Drift.put_actuator_keeps handle actuator fired (still ▸ plain) cell fits
  cases stroke with
  | none =>
      simp only [put]
      exact ⟨rfl, after⟩
  | some stroke =>
      obtain ⟨asked, later⟩ := Drift.effect_keeps (.stroke handle stroke) (.stroke handle stroke) (by rintro sent ⟨⟩)
        rfl _ after
      by_cases live : cell.live = true
      · simp only [if_pos live, put, asked]
        exact ⟨rfl, later⟩
      · simp only [if_neg live]
        exact ⟨rfl, fits⟩

theorem move_axis_carried (handle : Nat) (axis : Axis R) (plain : drift.Plain axis.tick) (target : R) (speed : Option R) :
    Carried drift id (moveAxis handle axis target speed) := by
  unfold moveAxis
  split
  · exact carried_fail _ _
  · exact command_axis_carried handle axis plain target speed false

theorem with_axis_carried {B : Type} (device : String) (out : B → B) (next : Nat × Axis R → Act R B)
    (carried : ∀ found, drift.Plain found.2.tick → Carried drift out (next found)) :
    Carried drift out (findAxis device >>= next) :=
  carried_bind_of _ out _ _ (find_axis_carried device)
  (fun cell found fits finds => found_axis_plain device cell found fits finds)
    carried

theorem with_actuator_carried {B : Type} (device : String) (out : B → B) (next : Nat × Actuator R → Act R B)
    (carried : ∀ found, drift.Plain found.2.tick → Carried drift out (next found)) :
    Carried drift out (findActuator device >>= next) :=
  carried_bind_of _ out _ _ (find_actuator_carried device)
    (fun cell found fits finds => found_actuator_plain device cell found fits finds) carried

theorem move_carried (call : Call R) : Carried drift id (Motion.command call) := by
  refine with_axis_carried call.device _ _ fun found plain => ?_
  refine carried_bind _ _ _ (carried_of_except _) fun target => carried_bind _ _ _ (carried_of_except _) fun speed => ?_
  exact carried_bind _ _ _ (move_axis_carried found.1 found.2 plain target speed) fun _ => carried_pure _ _ rfl

theorem bound_plain (call : Call R) (plain : call.Plain drift) (cell : Cell R) (fits : drift.Fits cell) :
    drift.Plain (call.bound cell) := by
  unfold Call.bound
  cases set : call.timeout with
  | none => exact fits.waitBound
  | some bound => exact plain.bound bound set

theorem await_idle_carried (call : Call R) (plain : call.Plain drift) (handle : Nat) :
    Carried drift (Reply.recast drift.cast) (Motion.awaitIdle call handle) := by
  refine carried_change _ (fun cell => cell.awaitIdle handle (call.bound cell)) fun cell fits => ?_
  exact Drift.await_idle_carried handle (call.bound cell) (bound_plain call plain cell fits) cell fits

theorem await_settled_carried (call : Call R) (plain : call.Plain drift) (handle : Nat) (on : Bool) :
    Carried drift (Reply.recast drift.cast) (Switching.awaitSettled call handle on) := by
  refine carried_change _ (fun cell => cell.awaitSettled handle on (call.bound cell)) fun cell fits => ?_
  exact Drift.await_settled_carried handle on (call.bound cell) (bound_plain call plain cell fits) cell fits

omit [Scalar R] in
theorem collapse_carried (handle : Nat) (message : String) (out : Reply R → Reply R) :
    Carried drift out (Motion.collapse handle message) :=
  carried_bind _ _ _ (carried_tell _ (Drift.stop_axis_keeps handle)) fun _ => carried_panic _ message

theorem probe_carried (handle : Nat) (threshold : R) (bound : Duration) :
    Carried drift (Reply.recast drift.cast)
      (Act.change fun cell => cell.lookProbe handle threshold (cell.instant + bound)) := by
  refine carried_change _ (fun cell => cell.lookProbe handle threshold (cell.instant + bound)) fun cell fits => ?_
  have later : (drift.cell cell).instant + bound = cell.instant + bound + Duration.ofMillis drift.ahead := by
    simp only [Cell.instant, Drift.cell, Duration.ofMillis, Nat.add_mul]
    exact Nat.add_right_comm _ _ _
  rw [later]
  exact Drift.look_probe_carried handle threshold (cell.instant + bound) cell fits

theorem move_until_carried (call : Call R) (plain : call.Plain drift) :
    Carried drift (Reply.recast drift.cast) (Motion.moveUntil call) := by
  refine with_axis_carried call.device _ _ fun found ticks => ?_
  refine carried_bind _ _ _ (carried_of_except _) fun target => carried_bind _ _ _ (carried_of_except _) fun threshold => ?_
  refine carried_bind _ _ _ (carried_of_except _) fun speed => ?_
  split
  · exact carried_fail _ _
  · refine carried_bind _ _ _ (move_axis_carried found.1 found.2 ticks target speed) fun _ => ?_
    refine carried_get_bind _ _ (fun cell fits => ?_) fun cell _ => ?_
    · have bound : call.bound (drift.cell cell) = call.bound cell := rfl
      have period : (drift.cell cell).sampleTick = cell.sampleTick := rfl
      have past : Duration.beyond (drift.cell cell).now (call.bound cell) = Duration.beyond cell.now (call.bound cell) :=
        bound_plain call plain cell fits cell.now fits.now
      simp only [bound, period, past]
    · dsimp only
      split
      · exact collapse_carried found.1 _ _
      · split
        · exact collapse_carried found.1 _ _
        · exact probe_carried found.1 threshold (call.bound cell)

theorem motion_carried (operation : Operation) (handler : Handler R) (member : (operation, handler) ∈ HandlerTable.motions)
    (call : Call R) (plain : call.Plain drift) : Carried drift (Reply.recast drift.cast) (handler call) := by
  simp only [HandlerTable.motions, List.mem_cons, Prod.mk.injEq, List.not_mem_nil, or_false] at member
  rcases member with ⟨-, rfl⟩ | ⟨-, rfl⟩ | ⟨-, rfl⟩ | ⟨-, rfl⟩ | ⟨-, rfl⟩ | ⟨-, rfl⟩
  · exact carried_bind _ _ _ (move_carried call) fun _ => carried_pure _ _ rfl
  · exact carried_bind _ _ _ (move_carried call) fun commanded => await_idle_carried call plain commanded.1
  · exact move_until_carried call plain
  · refine with_axis_carried call.device _ _ fun found ticks => ?_
    exact carried_bind _ _ _ (command_axis_carried found.1 found.2 ticks _ none true) fun _ =>
      await_idle_carried call plain found.1
  · refine with_axis_carried call.device _ _ fun found _ => ?_
    exact carried_bind _ _ _ (carried_tell _ (Drift.stop_axis_keeps found.1)) fun _ => carried_pure _ _ rfl
  · exact with_axis_carried call.device _ _ fun _ _ => carried_pure _ _ rfl

theorem switch_carried (call : Call R) : Carried drift id (Switching.command call) := by
  refine with_actuator_carried call.device _ _ fun found plain => ?_
  refine carried_bind _ _ _ (carried_of_except _) fun on => ?_
  exact carried_bind _ _ _ (fire_actuator_carried found.1 found.2 plain on) fun _ => carried_pure _ _ rfl

theorem switching_carried (operation : Operation) (handler : Handler R)
    (member : (operation, handler) ∈ HandlerTable.switchings) (call : Call R) (plain : call.Plain drift) :
    Carried drift (Reply.recast drift.cast) (handler call) := by
  simp only [HandlerTable.switchings, List.mem_cons, Prod.mk.injEq, List.not_mem_nil, or_false] at member
  rcases member with ⟨-, rfl⟩ | ⟨-, rfl⟩ | ⟨-, rfl⟩ | ⟨-, rfl⟩ | ⟨-, rfl⟩
  · exact carried_bind _ _ _ (switch_carried call) fun _ => carried_pure _ _ rfl
  · exact carried_bind _ _ _ (switch_carried call) fun commanded =>
      await_settled_carried call plain commanded.1 commanded.2
  · refine with_actuator_carried call.device _ _ fun found _ => ?_
    exact carried_bind _ _ _ (carried_of_except _) fun on => await_settled_carried call plain found.1 on
  · refine with_actuator_carried call.device _ _ fun found _ => ?_
    let stop (cell : Cell R) : Reply R × Cell R :=
      (.value ((cell.stopActuator found.1).settledOn found.1), cell.stopActuator found.1)
    refine carried_change _ stop fun cell fits => ?_
    obtain ⟨stops, stopped⟩ := Drift.stop_actuator_keeps found.1 cell fits
    refine ⟨?_, stopped⟩
    simp only [stop, stops]
    rfl
  · exact with_actuator_carried call.device _ _ fun _ _ => carried_pure _ _ rfl

omit [Scalar R] in
theorem take_carried (station : String) : Carried drift id (Stock.take (R := R) station) := by
  refine carried_bind _ _ _ (carried_change id (fun cell => cell.takeMaterial station) fun cell fits => ?_)
    fun material => ?_
  · exact ⟨rfl, { fits with }⟩
  · cases material with
    | some material => exact carried_pure _ _ rfl
    | none => exact carried_fail _ _

omit [Scalar R] in
-- Events of materials carry no time.
theorem event_keeps (event : Event R) (tells : event.kind.tellsMaterial = true) :
    drift.Keeps fun cell => cell.pushEvent event := by
  intro cell fits
  have same : event.later drift.ahead = event := event.later_of_other drift.ahead fun starts => by
    rw [starts] at tells
    cases tells
  refine ⟨?_, { fits with }⟩
  simp [Cell.pushEvent, Drift.cell, same]

omit [Scalar R] in
theorem put_told_keeps (station : String) (material : Material) (event : Event R) (tells : event.kind.tellsMaterial = true) :
    drift.Keeps fun cell => (cell.putMaterial station material).pushEvent event := by
  have put : drift.Keeps fun cell : Cell R => cell.putMaterial station material := fun cell fits => ⟨rfl, { fits with }⟩
  exact put.trans (event_keeps event tells)

theorem control_carried (operation : Operation) (handler : Handler R) (member : (operation, handler) ∈ controls)
    (call : Call R) (called : call.operation = operation) (plain : call.Plain drift) :
    Carried drift (Reply.recast drift.cast) (handler call) := by
  simp only [controls, List.mem_cons, Prod.mk.injEq, List.not_mem_nil, or_false] at member
  rcases member with ⟨rfl, rfl⟩ | ⟨-, rfl⟩ | ⟨-, rfl⟩ | ⟨-, rfl⟩ | ⟨-, rfl⟩ | ⟨-, rfl⟩
  · refine carried_bind_of (fun span => drift.Plain span) _ _ _ (carried_of_except _) ?_ fun span spanPlain => ?_
    · intro cell span _ asked
      cases given : Control.span call with
      | error fault =>
          rw [given] at asked
          cases asked
      | ok other =>
          rw [given] at asked
          cases asked
          exact plain.delay called span given
    · exact carried_change _ (Cell.awaitDelay span) (Drift.await_delay_carried span spanPlain)
  · exact carried_bind _ _ _ (carried_of_except _) fun message => carried_fail _ _
  · exact carried_pure _ _ rfl
  · refine carried_bind _ _ _ (carried_of_except _) fun name => carried_get_bind _ _ (fun _ _ => rfl) fun cell _ => ?_
    split
    · exact carried_pure _ _ rfl
    · split
      · exact carried_bind _ _ _ (carried_of_except _) fun _ => carried_pure _ _ rfl
      · exact carried_fail _ _
  · exact carried_bind _ _ _ (carried_of_except _) fun _ => carried_pure _ _ rfl
  · refine carried_bind _ _ _ (carried_of_except _) fun name => carried_bind _ _ _ (carried_of_except _) fun value => ?_
    exact carried_bind _ _ _ (carried_tell _ fun cell fits => ⟨rfl, { fits with }⟩) fun _ => carried_pure _ _ rfl

theorem stock_carried (operation : Operation) (handler : Handler R) (member : (operation, handler) ∈ stocks)
    (call : Call R) :
    Carried drift (Reply.recast drift.cast) (handler call) := by
  simp only [stocks, List.mem_cons, Prod.mk.injEq, List.not_mem_nil, or_false] at member
  rcases member with ⟨-, rfl⟩ | ⟨-, rfl⟩ | ⟨-, rfl⟩ | ⟨-, rfl⟩ | ⟨-, rfl⟩ | ⟨-, rfl⟩ | ⟨-, rfl⟩
  · refine carried_bind _ _ _ (carried_of_except _) fun station =>
      carried_bind _ _ _ (carried_of_except _) fun className => ?_
    refine carried_bind _ _ _ (carried_change id (fun cell => cell.nextId className) fun cell fits => ⟨rfl, { fits with }⟩)
      fun id => ?_
    exact carried_bind _ _ _ (carried_tell _ (put_told_keeps station ⟨id, className⟩ _ rfl)) fun _ => carried_pure _ _ rfl
  · refine carried_bind _ _ _ (carried_of_except _) fun station =>
      carried_bind _ _ _ (carried_of_except _) fun className => ?_
    refine carried_get_bind _ _ (fun _ _ => rfl) fun cell _ => ?_
    split
    · exact carried_fail _ _
    · exact carried_bind _ _ _ (carried_tell _ (put_told_keeps station _ _ rfl)) fun _ => carried_pure _ _ rfl
  · refine carried_bind _ _ _ (carried_of_except _) fun station =>
      carried_bind _ _ _ (take_carried station) fun material => ?_
    exact carried_bind _ _ _ (carried_tell _ (event_keeps _ rfl)) fun _ => carried_pure _ _ rfl
  · refine carried_bind _ _ _ (carried_of_except _) fun station => carried_bind _ _ _ (carried_of_except _) fun id => ?_
    refine carried_bind _ _ _ (carried_of_except _) fun className => ?_
    exact carried_bind _ _ _ (carried_tell _ fun cell fits => ⟨rfl, { fits with }⟩) fun _ => carried_pure _ _ rfl
  · refine carried_bind _ _ _ (carried_of_except _) fun station => ?_
    refine carried_bind _ _ _ (carried_change id (fun cell => cell.takeMaterial station) fun cell fits =>
      ⟨rfl, { fits with }⟩)
      fun material => ?_
    cases material with
    | some material => exact carried_pure _ _ rfl
    | none => exact carried_pure _ _ rfl
  · refine carried_bind _ _ _ (carried_of_except _) fun holder => carried_bind _ _ _ (carried_of_except _) fun source => ?_
    refine carried_bind _ _ _ (take_carried source) fun material => ?_
    exact carried_bind _ _ _ (carried_tell _ (put_told_keeps holder material _ rfl)) fun _ => carried_pure _ _ rfl
  · refine carried_bind _ _ _ (carried_of_except _) fun holder => carried_bind _ _ _ (carried_of_except _) fun target => ?_
    refine carried_bind _ _ _ (take_carried holder) fun material => ?_
    exact carried_bind _ _ _ (carried_tell _ (put_told_keeps target material _ rfl)) fun _ => carried_pure _ _ rfl

end Action

def HandlerTable.Carried (drift : Drift) (ok : Call R → Prop) (handlers : HandlerTable R) : Prop :=
  ∀ cell call handler, ok call → handlers.resolve cell call = .ok handler →
    (handler call).Carried drift (Reply.recast drift.cast)

theorem HandlerTable.standard_carried [Scalar R] (drift : Drift) : (standard (R := R)).Carried drift (Call.Plain drift) := by
  intro cell call handler plain resolved
  rcases standard_handler cell call handler resolved with motion | switching | service
  · exact Action.motion_carried call.operation handler motion call plain
  · exact Action.switching_carried call.operation handler switching call plain
  · rcases List.mem_append.mp (Action.services_split (R := R) ▸ service) with control | stock
    · exact Action.control_carried call.operation handler control call rfl plain
    · exact Action.stock_carried call.operation handler stock call

end Workcell

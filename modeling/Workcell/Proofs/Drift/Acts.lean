import Workcell.Proofs.Drift.Cells

/-!
What a cell can be asked to do is done in a cell adrift too: devices are found, commanded and stopped there, and what is
waited for is looked at, with the same outcome, up to the times and the numbers of timers.
-/

set_option autoImplicit false

namespace Workcell

variable {R : Type} {drift : Drift}

namespace Drift

def Keeps (drift : Drift) (change : Cell R → Cell R) : Prop :=
  ∀ cell, drift.Fits cell → change (drift.cell cell) = drift.cell (change cell) ∧ drift.Fits (change cell)

theorem Keeps.trans {first second : Cell R → Cell R} (before : drift.Keeps first) (after : drift.Keeps second) :
    drift.Keeps fun cell => second (first cell) := by
  intro cell fits
  obtain ⟨same, between⟩ := before cell fits
  obtain ⟨equal, fitsAfter⟩ := after (first cell) between
  exact ⟨(congrArg second same).trans equal, fitsAfter⟩

theorem Keeps.fold {I : Type} (change : Cell R → I → Cell R) (keeps : ∀ item, drift.Keeps fun cell => change cell item)
    (items : List I) : drift.Keeps fun cell => items.foldl change cell := by
  induction items with
  | nil => exact fun cell fits => ⟨rfl, fits⟩
  | cons item rest ih => exact (keeps item).trans ih

def Inner (asked : Effect R) : Prop := ∀ sent, asked = .signal sent → sent.isInner = true

theorem effect_keeps (asked other : Effect R) (inner : Inner asked) (drifted : drift.effect asked = other) (cell : Cell R)
    (fits : drift.Fits cell) : (drift.cell cell).effect other = drift.cell (cell.effect asked) ∧
    drift.Fits (cell.effect asked) := by
  subst drifted
  refine ⟨by simp [Cell.effect, Drift.cell], { fits with signals := fun sent member => ?_ }⟩
  rcases List.mem_append.mp member with before | now
  · exact fits.signals sent before
  · exact inner sent (List.mem_singleton.mp now).symm

theorem signal_keeps (sent : Signal) (inner : sent.isInner = true) : drift.Keeps (R := R) fun cell => cell.signal sent := by
  refine fun cell fits => effect_keeps (.signal sent) (.signal sent) ?_ rfl cell fits
  intro other same
  cases same
  exact inner

theorem set_axis_keeps (handle : Nat) (after : Axis R) (plain : drift.Plain after.tick) :
    drift.Keeps fun cell : Cell R => { cell with axes := cell.axes.set handle after } := by
  refine fun cell fits => ⟨rfl, { fits with axes := fun axis member => ?_ }⟩
  rcases List.mem_or_eq_of_mem_set member with old | rfl
  · exact fits.axes axis old
  · exact plain

theorem set_actuator_keeps (handle : Nat) (after : Actuator R) (plain : drift.Plain after.tick) :
    drift.Keeps fun cell : Cell R => { cell with actuators := cell.actuators.set handle after } := by
  refine fun cell fits => ⟨rfl, { fits with actuators := fun actuator member => ?_ }⟩
  rcases List.mem_or_eq_of_mem_set member with old | rfl
  · exact fits.actuators actuator old
  · exact plain

theorem put_axis_keeps (handle : Nat) (before after : Axis R) (plain : drift.Plain after.tick) :
    drift.Keeps fun cell => cell.putAxis handle before after := by
  by_cases shown : after.published = before.published
  · simp only [Cell.putAxis, if_pos shown]
    exact set_axis_keeps handle after plain
  · simp only [Cell.putAxis, if_neg shown]
    exact (set_axis_keeps handle after plain).trans (signal_keeps (.axis handle) rfl)

theorem put_actuator_keeps (handle : Nat) (before after : Actuator R) (plain : drift.Plain after.tick) :
    drift.Keeps fun cell => cell.putActuator handle before after := by
  by_cases shown : after.published = before.published
  · simp only [Cell.putActuator, if_pos shown]
    exact set_actuator_keeps handle after plain
  · simp only [Cell.putActuator, if_neg shown]
    exact (set_actuator_keeps handle after plain).trans (signal_keeps (.actuator handle) rfl)

theorem stop_axis_tick (axis : Axis R) : axis.stop.tick = axis.tick := by
  unfold Axis.stop
  split <;> rfl

theorem stop_actuator_tick (actuator : Actuator R) : actuator.stop.tick = actuator.tick := by
  simp only [Actuator.stop]
  split <;> rfl

theorem stop_axis_keeps (handle : Nat) : drift.Keeps (R := R) fun cell => cell.stopAxis handle := by
  intro cell fits
  have bank : (drift.cell cell).axes = cell.axes := rfl
  simp only [Cell.stopAxis, bank]
  cases found : cell.axes.get? handle with
  | none => exact ⟨rfl, fits⟩
  | some axis =>
      refine put_axis_keeps handle axis axis.stop ?_ cell fits
      rw [stop_axis_tick]
      exact fits.axes axis (List.mem_of_getElem? found)

theorem stop_actuator_keeps (handle : Nat) : drift.Keeps (R := R) fun cell => cell.stopActuator handle := by
  intro cell fits
  have bank : (drift.cell cell).actuators = cell.actuators := rfl
  simp only [Cell.stopActuator, bank]
  cases found : cell.actuators.get? handle with
  | none => exact ⟨rfl, fits⟩
  | some actuator =>
      refine put_actuator_keeps handle actuator actuator.stop ?_ cell fits
      rw [stop_actuator_tick]
      exact fits.actuators actuator (List.mem_of_getElem? found)

theorem stop_all_keeps : drift.Keeps (R := R) Cell.stopAll := by
  intro cell fits
  have bank : (drift.cell cell).axes = cell.axes := rfl
  obtain ⟨axes, between⟩ := Keeps.fold (fun (cell : Cell R) (entry : String × Nat × Axis R) => cell.stopAxis entry.2.1)
    (fun entry => stop_axis_keeps entry.2.1) cell.axes.registered cell fits
  have later : ∀ other : Cell R, (drift.cell other).actuators = other.actuators := fun _ => rfl
  simp only [Cell.stopAll, bank, axes, later]
  exact Keeps.fold (fun (cell : Cell R) (entry : String × Nat × Actuator R) => cell.stopActuator entry.2.1)
    (fun entry => stop_actuator_keeps entry.2.1) _ _ between

theorem cancel_keeps : drift.Keeps (R := R) Cell.cancel := by
  intro cell fits
  have same : (drift.cell cell).cancelled = cell.cancelled := rfl
  by_cases cut : cell.cancelled = true
  · simp only [Cell.cancel, same, if_pos cut]
    exact ⟨trivial, fits⟩
  · simp only [Cell.cancel, same, if_neg cut]
    have marked : drift.Fits { cell with cancelled := true } := { fits with }
    exact signal_keeps .cancelled rfl _ marked

theorem abandon_keeps (wait : Wait R) (cell : Cell R) (fits : drift.Fits cell) :
    (drift.wait wait).abandon (drift.cell cell) = drift.cell (wait.abandon cell) ∧ drift.Fits (wait.abandon cell) := by
  cases wait with
  | delay timer => exact ⟨rfl, fits⟩
  | idle axis timer => exact stop_axis_keeps axis cell fits
  | settled actuator on timer => exact stop_actuator_keeps actuator cell fits
  | probe axis threshold deadline timer => exact stop_axis_keeps axis cell fits

theorem issue_keeps (cell : Cell R) (fits : drift.Fits cell) :
    (drift.cell cell).issue = (drift.key cell.issue.1, drift.cell cell.issue.2) ∧ drift.Fits cell.issue.2 := by
  refine ⟨?_, { fits with issued := Nat.le_succ_of_le fits.issued }⟩
  simp only [Cell.issue, Drift.cell, drift.even cell.issued fits.issued]

theorem timer_keeps (due : Nat) (cell : Cell R) (fits : drift.Fits cell) :
    (drift.cell cell).timer (due + drift.ahead) = (drift.timer (cell.timer due).1, drift.cell (cell.timer due).2) ∧
      drift.Fits (cell.timer due).2 := by
  refine ⟨?_, { fits with issued := Nat.le_succ_of_le fits.issued }⟩
  simp only [Cell.timer, Drift.cell, Drift.timer, drift.even cell.issued fits.issued]

theorem reached_iff (timer : Timer) (cell : Cell R) :
    (drift.cell cell).reached (drift.timer timer) = cell.reached timer := by
  simp [Cell.reached, Drift.cell, Drift.timer]

theorem due_keeps (span : Duration) (plain : drift.Plain span) (cell : Cell R) (fits : drift.Fits cell) :
    Duration.due (drift.cell cell).now span = Duration.due cell.now span + drift.ahead :=
  drift.due_of_plain span plain cell.now fits.now

theorem alarm_carried (span : Duration) (plain : drift.Plain span) (cell : Cell R) (fits : drift.Fits cell) :
    (drift.cell cell).alarm span = ((cell.alarm span).1.map drift.timer, drift.cell (cell.alarm span).2) ∧
      drift.Fits (cell.alarm span).2 := by
  have due := due_keeps span plain cell fits
  have clock : (drift.cell cell).now = cell.now + drift.ahead := rfl
  simp only [Cell.alarm, due]
  by_cases isOver : Duration.due cell.now span ≤ cell.now
  · have late : Duration.due cell.now span + drift.ahead ≤ (drift.cell cell).now := by
      rw [clock]
      exact Nat.add_le_add_right isOver _
    simp only [if_pos isOver, if_pos late]
    exact ⟨rfl, fits⟩
  · have soon : ¬ Duration.due cell.now span + drift.ahead ≤ (drift.cell cell).now := by
      rw [clock]
      exact fun late => isOver (Nat.le_of_add_le_add_right late)
    simp only [if_neg isOver, if_neg soon]
    obtain ⟨set, after⟩ := timer_keeps (Duration.due cell.now span) cell fits
    rw [set]
    exact ⟨rfl, after⟩

theorem look_idle_carried (axis : Nat) (timer : Option Timer) (cell : Cell R) (fits : drift.Fits cell) :
    (drift.cell cell).lookIdle axis (timer.map drift.timer) =
        ((cell.lookIdle axis timer).1.recast drift.cast, drift.cell (cell.lookIdle axis timer).2) ∧
      drift.Fits (cell.lookIdle axis timer).2 := by
  have moves : (drift.cell cell).moving axis = cell.moving axis := rfl
  have stands : (drift.cell cell).position axis = cell.position axis := rfl
  obtain ⟨stops, stopped⟩ := stop_axis_keeps axis cell fits
  simp only [Cell.lookIdle, moves, stands]
  by_cases moving : cell.moving axis = true
  · simp only [if_pos moving]
    cases timer with
    | none =>
        simp only [Option.map_none, stops]
        exact ⟨rfl, stopped⟩
    | some timer =>
        simp only [Option.map_some, reached_iff]
        by_cases reached : cell.reached timer = true
        · simp only [if_pos reached, stops]
          exact ⟨rfl, stopped⟩
        · simp only [if_neg reached]
          exact ⟨rfl, fits⟩
  · simp only [if_neg moving]
    exact ⟨rfl, fits⟩

theorem look_settled_carried (actuator : Nat) (on : Bool) (timer : Option Timer) (cell : Cell R) (fits : drift.Fits cell) :
    (drift.cell cell).lookSettled actuator on (timer.map drift.timer) =
        ((cell.lookSettled actuator on timer).1.recast drift.cast, drift.cell (cell.lookSettled actuator on timer).2) ∧
      drift.Fits (cell.lookSettled actuator on timer).2 := by
  have settles : (drift.cell cell).settledAt actuator on = cell.settledAt actuator on := rfl
  have shows : ∀ other : Cell R, (drift.cell other).settledOn actuator = other.settledOn actuator := fun _ => rfl
  obtain ⟨stops, stopped⟩ := stop_actuator_keeps actuator cell fits
  simp only [Cell.lookSettled, settles, stops, shows]
  by_cases settled : cell.settledAt actuator on = true
  · simp only [if_pos settled]
    exact ⟨rfl, fits⟩
  · simp only [if_neg settled]
    cases timer with
    | none =>
        simp only [Option.map_none]
        exact ⟨rfl, stopped⟩
    | some timer =>
        simp only [Option.map_some, reached_iff]
        by_cases reached : cell.reached timer = true
        · simp only [if_pos reached]
          exact ⟨rfl, stopped⟩
        · simp only [if_neg reached]
          exact ⟨rfl, fits⟩

section

variable [Scalar R]

theorem look_probe_carried (axis : Nat) (threshold : R) (deadline : Duration) (cell : Cell R) (fits : drift.Fits cell) :
    (drift.cell cell).lookProbe axis threshold (deadline + Duration.ofMillis drift.ahead) =
        ((cell.lookProbe axis threshold deadline).1.recast drift.cast,
          drift.cell (cell.lookProbe axis threshold deadline).2) ∧
      drift.Fits (cell.lookProbe axis threshold deadline).2 := by
  have moves : (drift.cell cell).moving axis = cell.moving axis := rfl
  have stands : (drift.cell cell).position axis = cell.position axis := rfl
  have feels : (drift.cell cell).process axis = cell.process axis := rfl
  have period : (drift.cell cell).sampleTick = cell.sampleTick := rfl
  have isLate : deadline + Duration.ofMillis drift.ahead ≤ (drift.cell cell).instant ↔ deadline ≤ cell.instant := by
    simp only [Cell.instant, Drift.cell, Duration.ofMillis, Nat.add_mul, Nat.add_le_add_iff_right]
  obtain ⟨stops, stopped⟩ := stop_axis_keeps axis cell fits
  have due := due_keeps cell.sampleTick fits.sampleTick cell fits
  obtain ⟨set, after⟩ := timer_keeps (Duration.due cell.now cell.sampleTick) cell fits
  simp only [Cell.lookProbe, moves, stands, feels, period, isLate, stops, due, set]
  by_cases reached : threshold ≤ cell.process axis
  · simp only [if_pos reached]
    exact ⟨rfl, stopped⟩
  · simp only [if_neg reached]
    by_cases still : (!cell.moving axis) = true
    · simp only [if_pos still]
      exact ⟨rfl, fits⟩
    · simp only [if_neg still]
      by_cases late : deadline ≤ cell.instant
      · simp only [if_pos late]
        exact ⟨rfl, stopped⟩
      · simp only [if_neg late]
        exact ⟨rfl, after⟩

theorem look_carried (wait : Wait R) (cell : Cell R) (fits : drift.Fits cell) :
    (drift.cell cell).look (drift.wait wait) = ((cell.look wait).1.recast drift.cast, drift.cell (cell.look wait).2) ∧
      drift.Fits (cell.look wait).2 := by
  cases wait with
  | delay timer =>
      simp only [Drift.wait, Cell.look, reached_iff]
      by_cases reached : cell.reached timer = true
      · simp only [if_pos reached]
        exact ⟨rfl, fits⟩
      · simp only [if_neg reached]
        exact ⟨rfl, fits⟩
  | idle axis timer => exact look_idle_carried axis (some timer) cell fits
  | settled actuator on timer => exact look_settled_carried actuator on (some timer) cell fits
  | probe axis threshold deadline timer =>
      simp only [Drift.wait, Cell.look, reached_iff]
      by_cases reached : cell.reached timer = true
      · simp only [if_pos reached]
        exact look_probe_carried axis threshold deadline cell fits
      · simp only [if_neg reached]
        exact ⟨rfl, fits⟩

end

theorem await_idle_carried (axis : Nat) (bound : Duration) (plain : drift.Plain bound) (cell : Cell R)
    (fits : drift.Fits cell) :
    (drift.cell cell).awaitIdle axis bound =
        ((cell.awaitIdle axis bound).1.recast drift.cast, drift.cell (cell.awaitIdle axis bound).2) ∧
      drift.Fits (cell.awaitIdle axis bound).2 := by
  have moves : (drift.cell cell).moving axis = cell.moving axis := rfl
  have rung := alarm_carried bound plain cell fits
  unfold Cell.awaitIdle
  rw [moves, rung.1]
  -- The clock is kept out of sight, lest its arithmetic be reduced.
  generalize cell.alarm bound = alarm at rung ⊢
  obtain ⟨timer, after⟩ := alarm
  by_cases moving : cell.moving axis = true
  · rw [if_pos moving, if_pos moving]
    exact look_idle_carried axis timer after rung.2
  · rw [if_neg moving, if_neg moving]
    exact look_idle_carried axis none cell fits

theorem await_settled_carried (actuator : Nat) (on : Bool) (bound : Duration) (plain : drift.Plain bound) (cell : Cell R)
    (fits : drift.Fits cell) :
    (drift.cell cell).awaitSettled actuator on bound =
        ((cell.awaitSettled actuator on bound).1.recast drift.cast, drift.cell (cell.awaitSettled actuator on bound).2) ∧
      drift.Fits (cell.awaitSettled actuator on bound).2 := by
  have settles : (drift.cell cell).settledAt actuator on = cell.settledAt actuator on := rfl
  have rung := alarm_carried bound plain cell fits
  unfold Cell.awaitSettled
  rw [settles, rung.1]
  generalize cell.alarm bound = alarm at rung ⊢
  obtain ⟨timer, after⟩ := alarm
  by_cases settled : cell.settledAt actuator on = true
  · rw [if_pos settled, if_pos settled]
    exact look_settled_carried actuator on none cell fits
  · rw [if_neg settled, if_neg settled]
    exact look_settled_carried actuator on timer after rung.2

theorem await_delay_carried (span : Duration) (plain : drift.Plain span) (cell : Cell R) (fits : drift.Fits cell) :
    (drift.cell cell).awaitDelay span =
        ((cell.awaitDelay span).1.recast drift.cast, drift.cell (cell.awaitDelay span).2) ∧
      drift.Fits (cell.awaitDelay span).2 := by
  have rung := alarm_carried span plain cell fits
  rw [Cell.await_delay_eq, Cell.await_delay_eq, rung.1]
  generalize cell.alarm span = alarm at rung ⊢
  obtain ⟨timer, after⟩ := alarm
  cases timer with
  | none => exact ⟨rfl, rung.2⟩
  | some timer => exact ⟨rfl, rung.2⟩

end Drift

end Workcell

import Workcell.Proofs.Action.Basis
import Workcell.Proofs.Completion.Steps

/-!
Actions that end well. A move, a homing or a stroke of a device that the machine declares is waited for until the device
is at rest or the bound passes, and a bound that passes is no fault; so such a step leaves the scene as it is and ends. A
change of the materials takes no time.
-/

set_option autoImplicit false

namespace Workcell

variable {R : Type}

theorem Bank.map_set {D E : Type} (bank : Bank D) (f : D → E) (handle : Nat) (held device : D)
    (found : bank.get? handle = some held) (same : f device = f held) :
    (bank.set handle device).slots.map f = bank.slots.map f := by
  have there : (bank.slots.map f)[handle]? = some (f held) := by
    rw [List.getElem?_map]
    exact congrArg (Option.map f) found
  obtain ⟨inside, is⟩ := List.getElem?_eq_some_iff.mp there
  rw [Bank.set, List.map_set, same, ← is, List.set_getElem_self]

namespace Axis

theorem stop_tick (axis : Axis R) : axis.stop.tick = axis.tick := by
  unfold stop
  split
  · rfl
  · rfl

variable [Scalar R]

theorem command_tick (axis : Axis R) (target : R) (speed : Option R) (homing : Bool) :
    (axis.command target speed homing).2.2.tick = axis.tick := by
  unfold command
  dsimp only
  split
  · rfl
  · rfl

theorem created_tick (driver : Driver) (spec : AxisSpec R) (axis : Axis R)
    (made : driver.createAxis spec = .ok (some axis)) : driver = .simulation axis.tick := by
  cases driver with
  | absent => cases made
  | simulation tick =>
      simp only [Driver.createAxis, Axis.new?, Option.map_map, Except.ok.injEq, Option.map_eq_some_iff] at made
      obtain ⟨home, -, rfl⟩ := made
      rfl

end Axis

namespace Actuator

theorem stop_tick (actuator : Actuator R) : actuator.stop.tick = actuator.tick := by
  unfold stop
  dsimp only
  split
  · rfl
  · rfl

variable [Scalar R]

theorem fire_tick (actuator : Actuator R) (on : Bool) : (actuator.fire on).2.tick = actuator.tick := by
  unfold fire
  dsimp only
  split
  · rfl
  · rfl

theorem created_tick (driver : Driver) (spec : ActuatorSpec) (actuator : Actuator R)
    (made : driver.createActuator spec = .ok actuator) : driver = .simulation actuator.tick := by
  cases driver with
  | absent => cases made
  | simulation tick =>
      cases made
      rfl

end Actuator

namespace Cell.Paced

theorem of_ticks (before after : Cell R) (driver : after.driver = before.driver)
    (axes : after.axes.slots.map Axis.tick = before.axes.slots.map Axis.tick)
    (actuators : after.actuators.slots.map Actuator.tick = before.actuators.slots.map Actuator.tick) :
    after.Paced ↔ before.Paced := by
  rw [Paced, Paced, driver, axes, actuators]

variable {cell : Cell R}

theorem axis (paced : cell.Paced) (handle : Nat) (axis : Axis R) (found : cell.axes.get? handle = some axis) :
    cell.driver = .simulation axis.tick :=
  paced _ (List.mem_append_left _ (List.mem_map_of_mem (List.mem_of_getElem? found)))

theorem actuator (paced : cell.Paced) (handle : Nat) (actuator : Actuator R)
    (found : cell.actuators.get? handle = some actuator) : cell.driver = .simulation actuator.tick :=
  paced _ (List.mem_append_right _ (List.mem_map_of_mem (List.mem_of_getElem? found)))

theorem put_axis (paced : cell.Paced) (handle : Nat) (before after : Axis R)
    (made : cell.driver = .simulation after.tick) : (cell.putAxis handle before after).Paced := by
  have placed : ({ cell with axes := cell.axes.set handle after } : Cell R).Paced := by
    intro tick member
    rcases List.mem_append.mp member with axis | actuator
    · obtain ⟨device, there, rfl⟩ := List.mem_map.mp axis
      rcases List.mem_or_eq_of_mem_set there with old | rfl
      · exact paced _ (List.mem_append_left _ (List.mem_map_of_mem old))
      · exact made
    · exact paced _ (List.mem_append_right _ actuator)
  unfold Cell.putAxis
  split
  · exact placed
  · exact placed

theorem put_actuator (paced : cell.Paced) (handle : Nat) (before after : Actuator R)
    (made : cell.driver = .simulation after.tick) : (cell.putActuator handle before after).Paced := by
  have placed : ({ cell with actuators := cell.actuators.set handle after } : Cell R).Paced := by
    intro tick member
    rcases List.mem_append.mp member with axis | actuator
    · exact paced _ (List.mem_append_left _ axis)
    · obtain ⟨device, there, rfl⟩ := List.mem_map.mp actuator
      rcases List.mem_or_eq_of_mem_set there with old | rfl
      · exact paced _ (List.mem_append_right _ (List.mem_map_of_mem old))
      · exact made
  unfold Cell.putActuator
  split
  · exact placed
  · exact placed

end Cell.Paced

def Cell.Kept (before after : Cell R) : Prop := after.scene = before.scene ∧ after.now = before.now

namespace Cell.Kept

theorem refl (cell : Cell R) : Kept cell cell := ⟨rfl, rfl⟩

theorem trans (first second third : Cell R) (before : Kept first second) (after : Kept second third) :
    Kept first third := ⟨after.1.trans before.1, after.2.trans before.2⟩

-- Work on the devices alone keeps the scene if it keeps their ticks.
theorem of_devices (cell : Cell R) (axes : Bank (Axis R)) (actuators : Bank (Actuator R)) (outbox : List (Effect R))
    (paced : ({ cell with axes := axes, actuators := actuators, outbox := outbox } : Cell R).Paced ↔ cell.Paced) :
    Kept cell { cell with axes := axes, actuators := actuators, outbox := outbox } :=
  ⟨by rw [Cell.scene, propext paced]; rfl, rfl⟩

theorem stop_axis (cell : Cell R) (handle : Nat) : Kept cell (cell.stopAxis handle) := by
  unfold Cell.stopAxis
  cases found : cell.axes.get? handle with
  | none => exact refl cell
  | some axis =>
      have ticks : (cell.axes.set handle axis.stop).slots.map Axis.tick = cell.axes.slots.map Axis.tick :=
        Bank.map_set _ _ _ axis _ found axis.stop_tick
      unfold Cell.putAxis
      dsimp only
      split
      · exact of_devices cell _ cell.actuators cell.outbox (Cell.Paced.of_ticks _ _ rfl ticks rfl)
      · exact of_devices cell _ cell.actuators _ (Cell.Paced.of_ticks _ _ rfl ticks rfl)

theorem stop_actuator (cell : Cell R) (handle : Nat) : Kept cell (cell.stopActuator handle) := by
  unfold Cell.stopActuator
  cases found : cell.actuators.get? handle with
  | none => exact refl cell
  | some actuator =>
      have ticks : (cell.actuators.set handle actuator.stop).slots.map Actuator.tick =
          cell.actuators.slots.map Actuator.tick := Bank.map_set _ _ _ actuator _ found actuator.stop_tick
      unfold Cell.putActuator
      dsimp only
      split
      · exact of_devices cell cell.axes _ cell.outbox (Cell.Paced.of_ticks _ _ rfl rfl ticks)
      · exact of_devices cell cell.axes _ _ (Cell.Paced.of_ticks _ _ rfl rfl ticks)

theorem footing [Scalar R] : Footing (R := R) Kept where
  refl := refl
  trans := trans
  addAxis cell spec axis _ _ made := by
    refine of_devices cell _ cell.actuators cell.outbox ?_
    have ticks := axis.created_tick _ spec made
    simp [Cell.Paced, Bank.add, ← ticks, or_imp, forall_and]
  addActuator cell spec actuator _ _ made := by
    refine of_devices cell cell.axes _ cell.outbox ?_
    have ticks := actuator.created_tick _ spec made
    simp [Cell.Paced, Bank.add, ← ticks, or_imp, forall_and]
  timer _ _ := ⟨rfl, rfl⟩
  assign _ _ _ := ⟨rfl, rfl⟩
  stopAxis := stop_axis
  stopActuator := stop_actuator

end Cell.Kept

def Wait.Bounded : Wait R → Prop
  | .probe .. => False
  | _ => True

def Reply.Soon (reply : Reply R) (after : Cell R) : Prop :=
  match reply with
  | .value _ => True
  | .waiting wait => wait.Bounded ∧ after.now < wait.timer.due

namespace Act

variable {A B : Type} {scene : Scene R}

def Succeeds (scene : Scene R) (act : Act R A) (good : A → Cell R → Prop) : Prop :=
  ∀ cell, cell.scene = scene → ∃ a after, act cell = (.ok a, after) ∧ Cell.Kept cell after ∧ good a after

theorem succeeds_bind_known {fact : A → Prop} {good : B → Cell R → Prop} (act : Act R A) (next : A → Act R B)
    (first : act.Succeeds scene fun a _ => fact a) (second : ∀ a, fact a → (next a).Succeeds scene good) :
    (act >>= next).Succeeds scene good := by
  intro cell same
  obtain ⟨a, between, done, kept, known⟩ := first cell same
  obtain ⟨b, after, doneNext, keptNext, holds⟩ := second a known between (kept.1.trans same)
  rw [bind_apply, done]
  exact ⟨b, after, doneNext, kept.trans _ _ _ keptNext, holds⟩

theorem succeeds_bind {good : B → Cell R → Prop} (act : Act R A) (next : A → Act R B)
    (first : act.Succeeds scene fun _ _ => True) (second : ∀ a, (next a).Succeeds scene good) :
    (act >>= next).Succeeds scene good := succeeds_bind_known act next first fun a _ => second a

theorem read_bind_apply (result : Except Fault A) (next : A → Act R B) (a : A) (read : result = .ok a) (cell : Cell R) :
    (ofExcept (R := R) result >>= next) cell = next a cell := by
  rw [bind_apply, read]
  rfl

theorem succeeds_read {good : B → Cell R → Prop} (result : Except Fault A) (next : A → Act R B) (a : A)
    (read : result = .ok a) (second : (next a).Succeeds scene good) :
    (ofExcept (R := R) result >>= next).Succeeds scene good := by
  intro cell same
  rw [read_bind_apply result next a read]
  exact second cell same

theorem succeeds_pure (a : A) : (pure a : Act R A).Succeeds scene fun _ _ => True :=
  fun cell _ => ⟨a, cell, rfl, .refl cell, trivial⟩

theorem succeeds_change {good : A → Cell R → Prop} (f : Cell R → A × Cell R)
    (changes : ∀ cell, cell.scene = scene → Cell.Kept cell (f cell).2 ∧ good (f cell).1 (f cell).2) :
    (change f).Succeeds scene good := by
  intro cell same
  exact ⟨(f cell).1, (f cell).2, rfl, changes cell same⟩

-- Work that keeps to itself succeeds if it does not fail.
theorem succeeds_of_within {fact : A → Prop} (act : Act R A) (kept : Act.Within Cell.Kept act)
    (ok : ∀ cell : Cell R, cell.scene = scene → ∃ a, (act cell).1 = .ok a ∧ fact a) :
    act.Succeeds scene fun a _ => fact a := by
  intro cell same
  obtain ⟨a, done, known⟩ := ok cell same
  exact ⟨a, (act cell).2, Prod.ext done rfl, kept cell, known⟩

end Act

section Waiting

variable [Scalar R]

omit [Scalar R] in
theorem Cell.reached_of_not (cell : Cell R) (timer : Timer) (ahead : ¬ cell.reached timer = true) :
    cell.now < timer.due := by
  unfold Cell.reached at ahead
  simpa using ahead

-- A bounded wait is over, or it goes on for a time that is still to come.
theorem Cell.look_bounded (cell : Cell R) (wait : Wait R) (bounded : wait.Bounded) :
    (∃ value after, cell.look wait = (.value value, after)) ∨
      (cell.look wait = (.waiting wait, cell) ∧ cell.now < wait.timer.due) := by
  cases wait with
  | probe axis threshold deadline timer => exact bounded.elim
  | delay timer =>
      by_cases passed : cell.reached timer = true
      · exact Or.inl (by simp [Cell.look, passed])
      · exact Or.inr ⟨by simp [Cell.look, passed], cell.reached_of_not timer passed⟩
  | idle axis timer =>
      by_cases moving : cell.moving axis = true
      · by_cases passed : cell.reached timer = true
        · exact Or.inl (by simp [Cell.look, Cell.lookIdle, moving, passed])
        · exact Or.inr ⟨by simp [Cell.look, Cell.lookIdle, moving, passed], cell.reached_of_not timer passed⟩
      · exact Or.inl (by simp [Cell.look, Cell.lookIdle, moving])
  | settled actuator on timer =>
      by_cases settled : cell.settledAt actuator on = true
      · exact Or.inl (by simp [Cell.look, Cell.lookSettled, settled])
      · by_cases passed : cell.reached timer = true
        · exact Or.inl (by simp [Cell.look, Cell.lookSettled, settled, passed])
        · exact Or.inr ⟨by simp [Cell.look, Cell.lookSettled, settled, passed], cell.reached_of_not timer passed⟩

omit [Scalar R] in
theorem Cell.alarm_ahead (cell : Cell R) (span : Duration) (timer : Timer) (rung : (cell.alarm span).1 = some timer) :
    (cell.alarm span).2.now < timer.due := by
  by_cases isOver : Duration.due cell.now span ≤ cell.now
  · simp only [Cell.alarm, if_pos isOver] at rung
    cases rung
  · simp only [Cell.alarm, if_neg isOver] at rung ⊢
    cases rung
    exact Nat.lt_of_not_le isOver

omit [Scalar R] in
theorem Cell.await_idle_soon (cell : Cell R) (axis : Nat) (bound : Duration) :
    (cell.awaitIdle axis bound).1.Soon (cell.awaitIdle axis bound).2 := by
  have ahead := cell.alarm_ahead bound
  unfold Cell.awaitIdle
  by_cases moving : cell.moving axis = true
  · rw [if_pos moving]
    rcases rung : cell.alarm bound with ⟨timer, after⟩
    rw [rung] at ahead
    dsimp only at ahead ⊢
    unfold Cell.lookIdle
    split
    · cases timer with
      | none => trivial
      | some timer =>
          dsimp only
          split
          · trivial
          · exact ⟨trivial, ahead timer rfl⟩
    · trivial
  · rw [if_neg moving, Cell.lookIdle, if_neg moving]
    trivial

omit [Scalar R] in
theorem Cell.await_settled_soon (cell : Cell R) (actuator : Nat) (on : Bool) (bound : Duration) :
    (cell.awaitSettled actuator on bound).1.Soon (cell.awaitSettled actuator on bound).2 := by
  have ahead := cell.alarm_ahead bound
  unfold Cell.awaitSettled
  by_cases settled : cell.settledAt actuator on = true
  · rw [if_pos settled, Cell.lookSettled]
    simp only [if_pos settled]
    trivial
  · rw [if_neg settled]
    rcases rung : cell.alarm bound with ⟨timer, after⟩
    rw [rung] at ahead
    dsimp only at ahead ⊢
    unfold Cell.lookSettled
    dsimp only
    split
    · trivial
    · cases timer with
      | none => trivial
      | some timer =>
          dsimp only
          split
          · trivial
          · exact ⟨trivial, ahead timer rfl⟩

variable {handlers : HandlerTable R} {scene : Scene R}

theorem Poll.look_ends (key : Nat) (wait : Wait R) (bounded : wait.Bounded) (going : scene.cancelled = false)
    (turns : Nat) (cell : Cell R) (same : cell.scene = scene) :
    (Poll.look key wait).Ends handlers (fun left => left = scene) (fun left => left = scene) turns 0
      (some [Leaf.ofWait key wait]) cell := by
  have settles : ∀ (later : Nat → Run R → Scene R → Prop) (cell : Cell R), cell.scene = scene →
      later 0 (.waiting key wait) scene →
      Settles (fun left => left = scene) (fun left => left = scene) later 0 (some [Leaf.ofWait key wait]) cell
        (Poll.look key wait cell) := by
    intro later cell same goes
    have uncut : ¬ cell.cancelled = true := by
      have uncut : cell.cancelled = scene.cancelled := congrArg Scene.cancelled same
      simp [uncut, going]
    have kept := Cell.Kept.footing.look cell wait
    rw [Poll.look, if_neg uncut]
    rcases cell.look_bounded wait bounded with ⟨value, after, passed⟩ | ⟨on, ahead⟩
    · rw [passed] at kept ⊢
      exact ⟨kept.2, kept.1.trans same⟩
    · rw [on]
      refine ⟨rfl, same, ⟨by simp [Run.leaves], ?_⟩, 0, Or.inr ⟨rfl, rfl, rfl⟩, same.symm ▸ goes⟩
      intro leaf member
      rw [List.mem_singleton.mp member]
      exact ⟨wait.timer, rfl, ahead⟩
  induction turns generalizing cell with
  | zero => exact settles _ cell same trivial
  | succ turns ih =>
      refine settles _ cell same ?_
      intro keys between still
      have asleep : (Run.waiting key wait : Run R).wake keys = .waiting key wait := by
        induction keys with
        | nil => rfl
        | cons first rest ihKeys => exact ihKeys
      rw [asleep]
      exact ih between still

end Waiting

variable [Scalar R] {scene : Scene R} {tick : Duration}

omit [Scalar R] in
theorem resolve_known (handlers : HandlerTable R) (call : Call R) (kind : DeviceKind) (handler : Handler R)
    (other : call.device ≠ systemName) (cell : Cell R) (known : cell.kind? call.device = some kind)
    (found : handlers.find? ⟨call.operation, some kind⟩ = some handler) : handlers.resolve cell call = .ok handler := by
  have target : HandlerTable.target? cell call.device = .ok (some kind) := by rw [HandlerTable.target?, if_neg other, known]
  simp only [HandlerTable.resolve, target, bind, Except.bind, found]

omit [Scalar R] in
theorem resolve_declared (handlers : HandlerTable R) (call : Call R) (kind : DeviceKind) (handler : Handler R)
    (other : call.device ≠ systemName) (declared : scene.machine.kind? call.device = some kind)
    (found : handlers.find? ⟨call.operation, some kind⟩ = some handler) (cell : Cell R) (same : cell.scene = scene) :
    handlers.resolve cell call = .ok handler := by
  have machine : cell.machine = scene.machine := congrArg Scene.machine same
  exact resolve_known handlers call kind handler other cell (by rw [Cell.kind?, machine, declared]) found

omit [Scalar R] in
theorem resolve_system (handlers : HandlerTable R) (call : Call R) (handler : Handler R)
    (addressed : call.device = systemName) (found : handlers.find? ⟨call.operation, none⟩ = some handler) (cell : Cell R) :
    handlers.resolve cell call = .ok handler := by
  have target : HandlerTable.target? cell call.device = .ok none := by
    rw [HandlerTable.target?, if_pos addressed]
  simp only [HandlerTable.resolve, target, bind, Except.bind, found]

namespace Step

variable {handlers : HandlerTable R}

-- An action that succeeds and waits at most once, for some time, stays in the scene.
theorem stays_of_act (label : Label) (device : String) (operation : Operation) (args : List (Arg R))
    (handler : Handler R) (going : scene.cancelled = false)
    (resolved : ∀ cell : Cell R, cell.scene = scene →
      handlers.resolve cell ⟨device, operation, args, label.policy.timeout⟩ = .ok handler)
    (succeeds : (handler ⟨device, operation, args, label.policy.timeout⟩).Succeeds scene Reply.Soon) :
    (Step.action label device operation args).Stays handlers scene 1 := by
  refine comes_of_dispatch _ going fun turns cell same => ?_
  obtain ⟨reply, after, done, kept, soon⟩ := succeeds cell same
  rw [Poll.Ends.settles_iff, dispatch, Poll.perform, resolved cell same]
  simp only [Poll.ofAct, done]
  cases reply with
  | value value => exact ⟨kept.2, kept.1.trans same⟩
  | waiting wait =>
      obtain ⟨bounded, ahead⟩ := soon
      refine ⟨kept.2, kept.1.trans same, ⟨by simp [Run.leaves], ?_⟩, 0, Or.inl Nat.zero_lt_one, ?_⟩
      · intro leaf member
        rw [List.mem_singleton.mp member]
        exact ⟨wait.timer, rfl, ahead⟩
      · cases turns with
        | zero => trivial
        | succ turns =>
            intro keys between still
            have asleep : (Run.waiting after.issue.1 wait : Run R).wake keys = .waiting after.issue.1 wait := by
              induction keys with
              | nil => rfl
              | cons first rest ihKeys => exact ihKeys
            rw [asleep]
            exact Poll.look_ends _ wait bounded going turns between (still.trans (kept.1.trans same))

-- An action that is over at once takes the scene to the one that it leaves.
theorem takes_of_act (label : Label) (operation : Operation) (args : List (Arg R)) (handler : Handler R)
    (final : Scene R) (going : scene.cancelled = false)
    (found : handlers.find? ⟨operation, none⟩ = some handler)
    (done : ∀ cell : Cell R, cell.scene = scene →
      ∃ value after, handler ⟨systemName, operation, args, label.policy.timeout⟩ cell = (.ok (.value value), after) ∧
        after.scene = final ∧ after.now = cell.now) :
    (Step.action label systemName operation args).Takes tick handlers scene final 0 := by
  refine comes_of_dispatch _ going fun turns cell same => ?_
  obtain ⟨value, after, passed, left, instant⟩ := done cell same
  rw [Poll.Ends.settles_iff, dispatch, Poll.perform, resolve_system handlers _ handler rfl found cell]
  simp only [Poll.ofAct, passed]
  exact ⟨instant, left⟩

end Step

namespace Action

theorem find_axis_succeeds (ready : scene.Ready tick) (id : String) (spec : AxisSpec R) (home : R)
    (declared : scene.machine.axis? id = some spec) (ranged : spec.homePosition? = some home) :
    (findAxis id).Succeeds scene fun found _ => scene.driver = .simulation found.2.tick := by
  refine Act.succeeds_of_within _ (Cell.Kept.footing.find_axis id) fun cell same => ?_
  have machine : cell.machine = scene.machine := congrArg Scene.machine same
  have driver : cell.driver = scene.driver := congrArg Scene.driver same
  have paced : cell.Paced := (congrArg Scene.paced same).mpr ready.paced
  rw [findAxis, Act.get_bind_apply]
  cases registered : cell.axes.find? id with
  | some entry =>
      obtain ⟨handle, -, found⟩ := Option.bind_eq_some_iff.mp registered
      obtain ⟨axis, there, rfl⟩ := Option.map_eq_some_iff.mp found
      exact ⟨(handle, axis), rfl, driver ▸ paced.axis handle axis there⟩
  | none =>
      simp only [machine, declared]
      rw [makeAxis, Act.get_bind_apply]
      simp only [driver, ready.simulated, Driver.createAxis, Axis.new?, ranged, Option.map_some]
      exact ⟨_, rfl, rfl⟩

theorem find_actuator_succeeds (ready : scene.Ready tick) (id : String) (spec : ActuatorSpec)
    (declared : scene.machine.actuator? id = some spec) :
    (findActuator id).Succeeds scene fun found _ => scene.driver = .simulation found.2.tick := by
  refine Act.succeeds_of_within _ (Cell.Kept.footing.find_actuator id) fun cell same => ?_
  have machine : cell.machine = scene.machine := congrArg Scene.machine same
  have driver : cell.driver = scene.driver := congrArg Scene.driver same
  have paced : cell.Paced := (congrArg Scene.paced same).mpr ready.paced
  rw [findActuator, Act.get_bind_apply]
  cases registered : cell.actuators.find? id with
  | some entry =>
      obtain ⟨handle, -, found⟩ := Option.bind_eq_some_iff.mp registered
      obtain ⟨actuator, there, rfl⟩ := Option.map_eq_some_iff.mp found
      exact ⟨(handle, actuator), rfl, driver ▸ paced.actuator handle actuator there⟩
  | none =>
      simp only [machine, declared]
      rw [makeActuator, Act.get_bind_apply]
      simp only [driver, ready.simulated, Driver.createActuator]
      exact ⟨_, rfl, rfl⟩

omit [Scalar R] in
theorem put_axis_kept (ready : scene.Ready tick) (cell : Cell R) (same : cell.scene = scene) (handle : Nat)
    (before after : Axis R) (made : scene.driver = .simulation after.tick) :
    Cell.Kept cell (cell.putAxis handle before after) := by
  have driver : cell.driver = scene.driver := congrArg Scene.driver same
  have paced : cell.Paced := (congrArg Scene.paced same).mpr ready.paced
  have still := paced.put_axis handle before after (driver.trans made)
  unfold Cell.putAxis at still ⊢
  dsimp only at still ⊢
  split
  · rw [if_pos ‹_›] at still
    exact Cell.Kept.of_devices cell _ cell.actuators cell.outbox (iff_of_true still paced)
  · rw [if_neg ‹_›] at still
    exact Cell.Kept.of_devices cell _ cell.actuators _ (iff_of_true still paced)

omit [Scalar R] in
theorem put_actuator_kept (ready : scene.Ready tick) (cell : Cell R) (same : cell.scene = scene) (handle : Nat)
    (before after : Actuator R) (made : scene.driver = .simulation after.tick) :
    Cell.Kept cell (cell.putActuator handle before after) := by
  have driver : cell.driver = scene.driver := congrArg Scene.driver same
  have paced : cell.Paced := (congrArg Scene.paced same).mpr ready.paced
  have still := paced.put_actuator handle before after (driver.trans made)
  unfold Cell.putActuator at still ⊢
  dsimp only at still ⊢
  split
  · rw [if_pos ‹_›] at still
    exact Cell.Kept.of_devices cell cell.axes _ cell.outbox (iff_of_true still paced)
  · rw [if_neg ‹_›] at still
    exact Cell.Kept.of_devices cell cell.axes _ _ (iff_of_true still paced)

theorem command_axis_succeeds (ready : scene.Ready tick) (handle : Nat) (axis : Axis R) (target : R) (speed : Option R)
    (homing : Bool) (made : scene.driver = .simulation axis.tick) :
    (commandAxis handle axis target speed homing).Succeeds scene fun _ _ => True := by
  intro cell same
  have live : cell.live = true := (congrArg Scene.live same).trans ready.live
  have kept := put_axis_kept ready cell same handle axis (axis.command target speed homing).2.2
    ((axis.command_tick target speed homing).symm ▸ made)
  rw [commandAxis, Act.get_bind_apply, if_pos live]
  rcases commanded : axis.command target speed homing with ⟨reached, motion, moved⟩
  rw [commanded] at kept
  cases motion with
  | none => exact ⟨_, _, rfl, kept, trivial⟩
  | some motion => exact ⟨_, _, rfl, kept.trans _ _ _ ⟨rfl, rfl⟩, trivial⟩

theorem fire_actuator_succeeds (ready : scene.Ready tick) (handle : Nat) (actuator : Actuator R) (on : Bool)
    (made : scene.driver = .simulation actuator.tick) :
    (fireActuator handle actuator on).Succeeds scene fun _ _ => True := by
  intro cell same
  have live : cell.live = true := (congrArg Scene.live same).trans ready.live
  have kept := put_actuator_kept ready cell same handle actuator (actuator.fire on).2
    ((actuator.fire_tick on).symm ▸ made)
  rw [fireActuator, Act.get_bind_apply]
  rcases commanded : actuator.fire on with ⟨stroke, fired⟩
  rw [commanded] at kept
  cases stroke with
  | none => exact ⟨_, _, rfl, kept, trivial⟩
  | some stroke =>
      simp only [if_pos live]
      exact ⟨_, _, rfl, kept.trans _ _ _ ⟨rfl, rfl⟩, trivial⟩

theorem await_idle_succeeds (call : Call R) (handle : Nat) : (Motion.awaitIdle call handle).Succeeds scene Reply.Soon :=
  Act.succeeds_change _ fun cell _ =>
    ⟨Cell.Kept.footing.await_idle handle _ cell, cell.await_idle_soon handle (call.bound cell)⟩

theorem await_settled_succeeds (call : Call R) (handle : Nat) (on : Bool) :
    (Switching.awaitSettled call handle on).Succeeds scene Reply.Soon :=
  Act.succeeds_change _ fun cell _ =>
    ⟨Cell.Kept.footing.await_settled handle on _ cell, cell.await_settled_soon handle on (call.bound cell)⟩

end Action

theorem Call.number_of_literal (call : Call R) (index : Nat) (what : String) (x : R)
    (given : call.args[index]? = some (.literal (.number x))) (finite : Scalar.isFinite x = true) :
    call.number index what = .ok x := by
  unfold Call.number Call.value
  rw [given]
  show call.need _ (Option.filter Scalar.isFinite (some x)) = _
  rw [Option.filter_some, if_pos finite]
  rfl

structure Machine.Moves (machine : Machine R) (id : String) : Prop where
  other : id ≠ systemName
  declared : ∃ spec home, machine.axis? id = some spec ∧ spec.homePosition? = some home

namespace Step

open Workcell.Action

theorem move_stays (ready : scene.Ready tick) (id : String) (moves : scene.machine.Moves id) (target : R)
    (finite : Scalar.isFinite target = true) : (Flow.moveToAndWait id target).Stays .standard scene 1 := by
  obtain ⟨other, spec, home, declared, ranged⟩ := moves
  have kind : scene.machine.kind? id = some .axis := by rw [Machine.kind?, declared]
  refine stays_of_act _ id .moveToAndWait _ Motion.moveToAndWait ready.going ?_ ?_
  · exact resolve_declared _ _ .axis _ other kind rfl
  refine Act.succeeds_bind _ _ ?_ fun commanded => await_idle_succeeds _ commanded.1
  refine Act.succeeds_bind_known _ _ (find_axis_succeeds ready id spec home declared ranged) fun found made => ?_
  refine Act.succeeds_read _ _ target ?_ ?_
  · exact Call.number_of_literal _ 0 "target" target rfl finite
  refine Act.succeeds_read _ _ none rfl ?_
  refine Act.succeeds_bind _ _ ?_ fun reached => Act.succeeds_pure _
  rw [moveAxis, Axis.accepts, if_pos finite]
  exact command_axis_succeeds ready found.1 found.2 target none false made

theorem home_stays (ready : scene.Ready tick) (id : String) (moves : scene.machine.Moves id) :
    (Flow.home id).Stays .standard scene 1 := by
  obtain ⟨other, spec, home, declared, ranged⟩ := moves
  have kind : scene.machine.kind? id = some .axis := by rw [Machine.kind?, declared]
  refine stays_of_act _ id .home _ Motion.home ready.going ?_ ?_
  · exact resolve_declared _ _ .axis _ other kind rfl
  refine Act.succeeds_bind_known _ _ (find_axis_succeeds ready id spec home declared ranged) fun found made => ?_
  refine Act.succeeds_bind _ _ (command_axis_succeeds ready found.1 found.2 _ none true made) fun _ => ?_
  exact await_idle_succeeds _ found.1

theorem fire_stays (ready : scene.Ready tick) (id : String) (spec : ActuatorSpec) (other : id ≠ systemName)
    (axis : scene.machine.axis? id = none) (declared : scene.machine.actuator? id = some spec) (on : Bool) :
    (Flow.fireAndWait id on).Stays .standard scene 1 := by
  have kind : scene.machine.kind? id = some spec.kind.device := by rw [Machine.kind?, axis, declared]; rfl
  refine stays_of_act _ id .fireAndWait _ Switching.fireAndWait ready.going ?_ ?_
  · refine resolve_declared _ _ _ _ other kind ?_
    cases spec.kind with
    | cylinder => rfl
    | vacuum => rfl
  refine Act.succeeds_bind _ _ ?_ fun commanded => await_settled_succeeds _ commanded.1 commanded.2
  refine Act.succeeds_bind_known _ _ (find_actuator_succeeds ready id spec declared) fun found made => ?_
  refine Act.succeeds_read _ _ on rfl ?_
  exact Act.succeeds_bind _ _ (fire_actuator_succeeds ready found.1 found.2 on made) fun _ => Act.succeeds_pure _

end Step

end Workcell

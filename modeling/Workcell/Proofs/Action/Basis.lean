import Workcell.Proofs.Action.Within

/-!
Handlers, taken apart: a relation that the few things done to a cell keep is kept by every handler.

Commands to axes and strokes of actuators come in as premises of their own, since what holds of the rest seldom holds
of them.
-/

set_option autoImplicit false

namespace Workcell

def EventKind.tellsMaterial : EventKind → Bool
  | .flowStarted => false
  | .flowStopped => false
  | .error => false
  | _ => true

variable {R : Type}

theorem Cell.await_delay_def : @Cell.awaitDelay R = fun (span : Duration) (cell : Cell R) =>
    match cell.alarm span with
    | (some timer, cell) => (.waiting (.delay timer), cell)
    | (none, cell) => (.value .unit, cell) := rfl

-- By the function as a whole: unfolding it at a cell would have the arithmetic of the clock reduced.
theorem Cell.await_delay_eq (span : Duration) (cell : Cell R) :
    cell.awaitDelay span = match cell.alarm span with
      | (some timer, cell) => (.waiting (.delay timer), cell)
      | (none, cell) => (.value .unit, cell) := by
  rw [await_delay_def]

section

variable [Scalar R]

-- A relation that making declared devices keeps, each registered under an id that has none yet.
structure Cell.Registers (rel : Cell R → Cell R → Prop) : Prop where
  refl : ∀ cell, rel cell cell
  trans : ∀ first second third, rel first second → rel second third → rel first third
  addAxis : ∀ cell spec axis, cell.machine.axis? spec.id = some spec → cell.axes.find? spec.id = none →
    cell.driver.createAxis spec = .ok (some axis) → rel cell { cell with axes := cell.axes.add spec.id axis }
  addActuator : ∀ cell spec actuator, cell.machine.actuator? spec.id = some spec → cell.actuators.find? spec.id = none →
    cell.driver.createActuator spec = .ok actuator →
    rel cell { cell with actuators := cell.actuators.add spec.id actuator }

structure Cell.Placing (rel : Cell R → Cell R → Prop) : Prop where
  refl : ∀ cell, rel cell cell
  trans : ∀ first second third, rel first second → rel second third → rel first third
  putAxis : ∀ cell handle before after, rel cell (cell.putAxis handle before after)
  putActuator : ∀ cell handle before after, rel cell (cell.putActuator handle before after)
  effect : ∀ cell asked, rel cell (cell.effect asked)

structure Cell.Footing (rel : Cell R → Cell R → Prop) : Prop extends Cell.Registers rel where
  timer : ∀ cell due, rel cell (cell.timer due).2
  assign : ∀ cell name value, rel cell (cell.setVariable name value)
  stopAxis : ∀ cell handle, rel cell (cell.stopAxis handle)
  stopActuator : ∀ cell handle, rel cell (cell.stopActuator handle)

structure Cell.Basis (rel : Cell R → Cell R → Prop) : Prop extends Cell.Footing rel where
  ids : ∀ cell className, rel cell (cell.nextId className).2
  put : ∀ cell station material, rel cell (cell.putMaterial station material)
  take : ∀ cell station, rel cell (cell.takeMaterial station).2
  event : ∀ cell event, event.kind.tellsMaterial = true → rel cell (cell.pushEvent event)

end

namespace Cell.Registers

variable [Scalar R] {rel : Cell R → Cell R → Prop}

theorem make_axis (registers : Registers rel) (spec : AxisSpec R) (cell : Cell R)
    (declared : cell.machine.axis? spec.id = some spec) (fresh : cell.axes.find? spec.id = none) :
    rel cell (makeAxis spec cell).2 := by
  rw [makeAxis, Act.get_bind_apply]
  cases made : cell.driver.createAxis spec with
  | error error => exact registers.refl cell
  | ok axis =>
      cases axis with
      | none => exact registers.refl cell
      | some axis => exact registers.addAxis cell spec axis declared fresh made

theorem make_actuator (registers : Registers rel) (spec : ActuatorSpec) (cell : Cell R)
    (declared : cell.machine.actuator? spec.id = some spec) (fresh : cell.actuators.find? spec.id = none) :
    rel cell (makeActuator spec cell).2 := by
  rw [makeActuator, Act.get_bind_apply]
  cases made : cell.driver.createActuator (R := R) spec with
  | error error => exact registers.refl cell
  | ok actuator => exact registers.addActuator cell spec actuator declared fresh made

theorem find_axis (registers : Registers rel) (id : String) : Act.Within rel (findAxis id) := by
  intro cell
  rw [findAxis, Act.get_bind_apply]
  cases fresh : cell.axes.find? id with
  | some entry => exact registers.refl cell
  | none =>
      cases declared : cell.machine.axis? id with
      | some spec =>
          obtain rfl : spec.id = id := by simpa using List.find?_some declared
          exact registers.make_axis spec cell declared fresh
      | none => exact registers.refl cell

theorem find_actuator (registers : Registers rel) (id : String) : Act.Within rel (findActuator id) := by
  intro cell
  rw [findActuator, Act.get_bind_apply]
  cases fresh : cell.actuators.find? id with
  | some entry => exact registers.refl cell
  | none =>
      cases declared : cell.machine.actuator? id with
      | some spec =>
          obtain rfl : spec.id = id := by simpa using List.find?_some declared
          exact registers.make_actuator spec cell declared fresh
      | none => exact registers.refl cell

theorem materialize_all (registers : Registers rel) : Act.Within rel (materializeAll (R := R)) := by
  have each {S D : Type} := Act.within_each (S := S) (D := D) registers.refl registers.trans
  refine Act.within_bind registers.trans _ _ (Act.within_get registers.refl) fun cell => ?_
  refine Act.within_bind registers.trans _ _ (each cell.machine.axes _ fun spec => registers.find_axis spec.id) fun _ => ?_
  refine Act.within_bind registers.trans _ _ (each cell.machine.actuators _ fun spec => registers.find_actuator spec.id) ?_
  exact fun _ => Act.within_pure registers.refl _

end Cell.Registers

namespace Cell.Placing

variable [Scalar R] {rel : Cell R → Cell R → Prop}

omit [Scalar R] in
theorem stop_axis (placing : Placing rel) (cell : Cell R) (handle : Nat) : rel cell (cell.stopAxis handle) := by
  unfold Cell.stopAxis
  split
  · exact placing.putAxis cell handle _ _
  · exact placing.refl cell

omit [Scalar R] in
theorem stop_actuator (placing : Placing rel) (cell : Cell R) (handle : Nat) :
    rel cell (cell.stopActuator handle) := by
  unfold Cell.stopActuator
  split
  · exact placing.putActuator cell handle _ _
  · exact placing.refl cell

theorem command_axis (placing : Placing rel) (handle : Nat) (axis : Axis R) (target : R) (speed : Option R)
    (homing : Bool) : Act.Within rel (commandAxis handle axis target speed homing) := by
  intro cell
  rw [commandAxis, Act.get_bind_apply]
  by_cases live : cell.live = true
  · rw [if_pos live]
    rcases axis.command target speed homing with ⟨reached, motion, moved⟩
    have moves := placing.putAxis cell handle axis moved
    cases motion with
    | none => exact moves
    | some motion => exact placing.trans _ _ _ moves (placing.effect _ _)
  · rw [if_neg live]
    exact placing.refl cell

theorem fire_actuator (placing : Placing rel) (handle : Nat) (actuator : Actuator R) (on : Bool) :
    Act.Within rel (fireActuator handle actuator on) := by
  intro cell
  rw [fireActuator, Act.get_bind_apply]
  rcases actuator.fire on with ⟨stroke, fired⟩
  have fires := placing.putActuator cell handle actuator fired
  cases stroke with
  | none => exact fires
  | some stroke =>
      by_cases live : cell.live = true
      · simp only [if_pos live]
        exact placing.trans _ _ _ fires (placing.effect _ _)
      · simp only [if_neg live]
        exact placing.refl cell

end Cell.Placing

namespace Cell.Footing

variable [Scalar R] {rel : Cell R → Cell R → Prop}

theorem alarm (footing : Footing rel) (cell : Cell R) (span : Duration) : rel cell (cell.alarm span).2 := by
  by_cases isOver : Duration.due cell.now span ≤ cell.now
  · simp only [Cell.alarm, if_pos isOver]
    exact footing.refl cell
  · simp only [Cell.alarm, if_neg isOver]
    exact footing.timer cell _

theorem abandon (footing : Footing rel) (wait : Wait R) (cell : Cell R) : rel cell (wait.abandon cell) := by
  cases wait with
  | delay timer => exact footing.refl cell
  | idle axis timer => exact footing.stopAxis cell axis
  | settled actuator on timer => exact footing.stopActuator cell actuator
  | probe axis threshold deadline timer => exact footing.stopAxis cell axis

theorem look_idle (footing : Footing rel) (cell : Cell R) (axis : Nat) (timer : Option Timer) :
    rel cell (cell.lookIdle axis timer).2 := by
  unfold Cell.lookIdle
  split
  · split
    · split
      · exact footing.stopAxis cell axis
      · exact footing.refl cell
    · exact footing.stopAxis cell axis
  · exact footing.refl cell

theorem look_settled (footing : Footing rel) (cell : Cell R) (actuator : Nat) (on : Bool) (timer : Option Timer) :
    rel cell (cell.lookSettled actuator on timer).2 := by
  simp only [Cell.lookSettled]
  split
  · exact footing.refl cell
  · split
    · split
      · exact footing.stopActuator cell actuator
      · exact footing.refl cell
    · exact footing.stopActuator cell actuator

theorem look_probe (footing : Footing rel) (cell : Cell R) (axis : Nat) (threshold : R) (deadline : Duration) :
    rel cell (cell.lookProbe axis threshold deadline).2 := by
  unfold Cell.lookProbe
  split
  · exact footing.stopAxis cell axis
  · split
    · exact footing.refl cell
    · split
      · exact footing.stopAxis cell axis
      · exact footing.timer cell (Duration.due cell.now cell.sampleTick)

theorem look (footing : Footing rel) (cell : Cell R) (wait : Wait R) : rel cell (cell.look wait).2 := by
  cases wait with
  | delay timer =>
      simp only [Cell.look]
      split
      · exact footing.refl cell
      · exact footing.refl cell
  | idle axis timer => exact footing.look_idle cell axis _
  | settled actuator on timer => exact footing.look_settled cell actuator on _
  | probe axis threshold deadline timer =>
      simp only [Cell.look]
      split
      · exact footing.look_probe cell axis threshold deadline
      · exact footing.refl cell

theorem await_idle (footing : Footing rel) (axis : Nat) (bound : Duration) (cell : Cell R) :
    rel cell (cell.awaitIdle axis bound).2 := by
  have rung := footing.alarm cell bound
  unfold Cell.awaitIdle
  split
  · generalize cell.alarm bound = alarm at rung ⊢
    obtain ⟨timer, after⟩ := alarm
    exact footing.trans _ _ _ rung (footing.look_idle after axis timer)
  · exact footing.look_idle cell axis none

theorem await_settled (footing : Footing rel) (actuator : Nat) (on : Bool) (bound : Duration) (cell : Cell R) :
    rel cell (cell.awaitSettled actuator on bound).2 := by
  have rung := footing.alarm cell bound
  unfold Cell.awaitSettled
  split
  · exact footing.look_settled cell actuator on none
  · generalize cell.alarm bound = alarm at rung ⊢
    obtain ⟨timer, after⟩ := alarm
    exact footing.trans _ _ _ rung (footing.look_settled after actuator on timer)

theorem await_delay (footing : Footing rel) (span : Duration) (cell : Cell R) : rel cell (cell.awaitDelay span).2 := by
  have rung := footing.alarm cell span
  rw [await_delay_eq]
  generalize cell.alarm span = alarm at rung ⊢
  obtain ⟨timer, after⟩ := alarm
  cases timer with
  | none => exact rung
  | some timer => exact rung

end Cell.Footing

namespace Action

variable [Scalar R] {rel : Cell R → Cell R → Prop}

theorem delay_within (footing : Cell.Footing rel) (call : Call R) : Act.Within rel (Control.delay call) := by
  refine Act.within_bind footing.trans _ _ (Act.within_of_except footing.refl _) fun span => ?_
  exact Act.within_change (Cell.awaitDelay span) (footing.await_delay span)

theorem throw_within (footing : Cell.Footing rel) (call : Call R) : Act.Within rel (Control.throw call) := by
  refine Act.within_bind footing.trans _ _ (Act.within_of_except footing.refl _) fun message => ?_
  exact Act.within_fail footing.refl _

theorem read_variable_within (footing : Cell.Footing rel) (call : Call R) :
    Act.Within rel (Control.readAnalog call) := by
  refine Act.within_bind footing.trans _ _ (Act.within_of_except footing.refl _) fun name => ?_
  refine Act.within_bind footing.trans _ _ (Act.within_get footing.refl) fun cell => ?_
  split
  · exact Act.within_pure footing.refl _
  · split
    · exact Act.within_bind footing.trans _ _ (Act.within_of_except footing.refl _) fun _ => Act.within_pure footing.refl _
    · exact Act.within_of_except footing.refl _

theorem check_level_within (footing : Cell.Footing rel) (call : Call R) : Act.Within rel (Control.checkLevel call) :=
  Act.within_bind footing.trans _ _ (Act.within_of_except footing.refl _) fun _ => Act.within_pure footing.refl _

theorem set_variable_within (footing : Cell.Footing rel) (call : Call R) :
    Act.Within rel (Control.setVariable call) := by
  refine Act.within_bind footing.trans _ _ (Act.within_of_except footing.refl _) fun name => ?_
  refine Act.within_bind footing.trans _ _ (Act.within_of_except footing.refl _) fun value => ?_
  refine Act.within_bind footing.trans _ _ (Act.within_tell _ fun cell => footing.assign cell name value) fun _ => ?_
  exact Act.within_pure footing.refl _

theorem put_told_within (basis : Cell.Basis rel) (cell : Cell R) (station : String) (material : Material)
    (event : Event R) (tells : event.kind.tellsMaterial = true) :
    rel cell ((cell.putMaterial station material).pushEvent event) :=
  basis.trans _ _ _ (basis.put cell station material) (basis.event _ event tells)

theorem spawn_within (basis : Cell.Basis rel) (call : Call R) : Act.Within rel (Stock.spawn call) := by
  refine Act.within_bind basis.trans _ _ (Act.within_of_except basis.refl _) fun station => ?_
  refine Act.within_bind basis.trans _ _ (Act.within_of_except basis.refl _) fun className => ?_
  refine Act.within_bind basis.trans _ _ (Act.within_change _ fun cell => basis.ids cell className) fun id => ?_
  refine Act.within_bind basis.trans _ _ (Act.within_tell _ fun cell => ?_) fun _ => Act.within_pure basis.refl _
  exact put_told_within basis cell station ⟨id, className⟩ (.materialSpawn station ⟨id, className⟩) rfl

theorem transform_within (basis : Cell.Basis rel) (call : Call R) : Act.Within rel (Stock.transform call) := by
  refine Act.within_bind basis.trans _ _ (Act.within_of_except basis.refl _) fun station => ?_
  refine Act.within_bind basis.trans _ _ (Act.within_of_except basis.refl _) fun className => ?_
  refine Act.within_bind basis.trans _ _ (Act.within_get basis.refl) fun cell => ?_
  split
  · exact Act.within_fail basis.refl _
  · next before _ =>
    refine Act.within_bind basis.trans _ _ (Act.within_tell _ fun cell => ?_) fun _ => Act.within_pure basis.refl _
    exact put_told_within basis cell station ⟨before.id, className⟩
      (.materialTransform station before.className ⟨before.id, className⟩) rfl

theorem take_within (basis : Cell.Basis rel) (station : String) : Act.Within rel (Stock.take (R := R) station) := by
  refine Act.within_bind basis.trans _ _ (Act.within_change _ fun cell => basis.take cell station) fun material => ?_
  cases material with
  | some material => exact Act.within_pure basis.refl _
  | none => exact Act.within_fail basis.refl _

theorem consume_within (basis : Cell.Basis rel) (call : Call R) : Act.Within rel (Stock.consume call) := by
  refine Act.within_bind basis.trans _ _ (Act.within_of_except basis.refl _) fun station => ?_
  refine Act.within_bind basis.trans _ _ (take_within basis station) fun material => ?_
  refine Act.within_bind basis.trans _ _ (Act.within_tell _ fun cell => ?_) fun _ => Act.within_pure basis.refl _
  exact basis.event cell _ rfl

theorem bind_within (basis : Cell.Basis rel) (call : Call R) : Act.Within rel (Stock.bind call) := by
  refine Act.within_bind basis.trans _ _ (Act.within_of_except basis.refl _) fun station => ?_
  refine Act.within_bind basis.trans _ _ (Act.within_of_except basis.refl _) fun id => ?_
  refine Act.within_bind basis.trans _ _ (Act.within_of_except basis.refl _) fun className => ?_
  refine Act.within_bind basis.trans _ _ (Act.within_tell _ fun cell => ?_) fun _ => Act.within_pure basis.refl _
  exact basis.put cell station _

theorem unbind_within (basis : Cell.Basis rel) (call : Call R) : Act.Within rel (Stock.unbind call) := by
  refine Act.within_bind basis.trans _ _ (Act.within_of_except basis.refl _) fun station => ?_
  refine Act.within_bind basis.trans _ _ (Act.within_change _ fun cell => basis.take cell station) fun material => ?_
  cases material with
  | some material => exact Act.within_pure basis.refl _
  | none => exact Act.within_pure basis.refl _

theorem attach_within (basis : Cell.Basis rel) (call : Call R) : Act.Within rel (Stock.attach call) := by
  refine Act.within_bind basis.trans _ _ (Act.within_of_except basis.refl _) fun holder => ?_
  refine Act.within_bind basis.trans _ _ (Act.within_of_except basis.refl _) fun source => ?_
  refine Act.within_bind basis.trans _ _ (take_within basis source) fun material => ?_
  refine Act.within_bind basis.trans _ _ (Act.within_tell _ fun cell => ?_) fun _ => Act.within_pure basis.refl _
  exact put_told_within basis cell holder material (.attach holder source material) rfl

theorem detach_within (basis : Cell.Basis rel) (call : Call R) : Act.Within rel (Stock.detach call) := by
  refine Act.within_bind basis.trans _ _ (Act.within_of_except basis.refl _) fun holder => ?_
  refine Act.within_bind basis.trans _ _ (Act.within_of_except basis.refl _) fun target => ?_
  refine Act.within_bind basis.trans _ _ (take_within basis holder) fun material => ?_
  refine Act.within_bind basis.trans _ _ (Act.within_tell _ fun cell => ?_) fun _ => Act.within_pure basis.refl _
  exact put_told_within basis cell target material (.detach holder target material) rfl

def controls : List (Operation × Handler R) :=
  [(.delay, Control.delay), (.throw, Control.throw), (.noOp, Control.noOp), (.readAnalog, Control.readAnalog),
    (.checkLevel, Control.checkLevel), (.setVariable, Control.setVariable)]

def stocks : List (Operation × Handler R) :=
  [(.spawn, Stock.spawn), (.transform, Stock.transform), (.consume, Stock.consume), (.bind, Stock.bind),
    (.unbind, Stock.unbind), (.attach, Stock.attach), (.detach, Stock.detach)]

theorem services_split : HandlerTable.services (R := R) = controls ++ stocks := rfl

theorem control_within (footing : Cell.Footing rel) (operation : Operation) (handler : Handler R)
    (member : (operation, handler) ∈ controls) (call : Call R) : Act.Within rel (handler call) := by
  simp only [controls, List.mem_cons, Prod.mk.injEq, List.not_mem_nil, or_false] at member
  rcases member with ⟨-, rfl⟩ | ⟨-, rfl⟩ | ⟨-, rfl⟩ | ⟨-, rfl⟩ | ⟨-, rfl⟩ | ⟨-, rfl⟩
  · exact delay_within footing call
  · exact throw_within footing call
  · exact Act.within_pure footing.refl _
  · exact read_variable_within footing call
  · exact check_level_within footing call
  · exact set_variable_within footing call

theorem stock_within (basis : Cell.Basis rel) (operation : Operation) (handler : Handler R)
    (member : (operation, handler) ∈ stocks) (call : Call R) : Act.Within rel (handler call) := by
  simp only [stocks, List.mem_cons, Prod.mk.injEq, List.not_mem_nil, or_false] at member
  rcases member with ⟨-, rfl⟩ | ⟨-, rfl⟩ | ⟨-, rfl⟩ | ⟨-, rfl⟩ | ⟨-, rfl⟩ | ⟨-, rfl⟩ | ⟨-, rfl⟩
  · exact spawn_within basis call
  · exact transform_within basis call
  · exact consume_within basis call
  · exact bind_within basis call
  · exact unbind_within basis call
  · exact attach_within basis call
  · exact detach_within basis call

-- The system's handlers command no device.
theorem service_within (basis : Cell.Basis rel) (operation : Operation) (handler : Handler R)
    (member : (operation, handler) ∈ HandlerTable.services) (call : Call R) : Act.Within rel (handler call) := by
  rcases List.mem_append.mp (services_split (R := R) ▸ member) with control | stock
  · exact control_within basis.toFooting operation handler control call
  · exact stock_within basis operation handler stock call

theorem stop_axis_within (footing : Cell.Footing rel) (call : Call R) : Act.Within rel (Motion.stop call) := by
  refine Act.within_bind footing.trans _ _ (footing.find_axis call.device) fun found => ?_
  refine Act.within_bind footing.trans _ _ (Act.within_tell _ fun cell => ?_) fun _ => Act.within_pure footing.refl _
  exact footing.stopAxis cell found.1

theorem read_axis_within (footing : Cell.Footing rel) (call : Call R) : Act.Within rel (Motion.readAnalog call) :=
  Act.within_bind footing.trans _ _ (footing.find_axis call.device) fun _ => Act.within_pure footing.refl _

theorem stop_actuator_within (footing : Cell.Footing rel) (call : Call R) : Act.Within rel (Switching.stop call) := by
  refine Act.within_bind footing.trans _ _ (footing.find_actuator call.device) fun found => ?_
  exact Act.within_change _ fun cell => footing.stopActuator cell found.1

theorem read_actuator_within (footing : Cell.Footing rel) (call : Call R) : Act.Within rel (Switching.readAnalog call) :=
  Act.within_bind footing.trans _ _ (footing.find_actuator call.device) fun _ => Act.within_pure footing.refl _

theorem wait_for_within (footing : Cell.Footing rel) (call : Call R) : Act.Within rel (Switching.waitFor call) := by
  refine Act.within_bind footing.trans _ _ (footing.find_actuator call.device) fun found => ?_
  refine Act.within_bind footing.trans _ _ (Act.within_of_except footing.refl _) fun on => ?_
  exact Act.within_change _ fun cell => footing.await_settled found.1 on (call.bound cell) cell

theorem await_idle_within (footing : Cell.Footing rel) (call : Call R) (handle : Nat) :
    Act.Within rel (Motion.awaitIdle call handle) :=
  Act.within_change _ fun cell => footing.await_idle handle (call.bound cell) cell

theorem collapse_within (footing : Cell.Footing rel) (handle : Nat) (message : String) :
    Act.Within rel (Motion.collapse (R := R) handle message) := by
  refine Act.within_bind footing.trans _ _ (Act.within_tell _ fun cell => ?_) fun _ cell => footing.refl cell
  exact footing.stopAxis cell handle

variable (footing : Cell.Footing rel)
  (commands : ∀ handle axis target speed homing, Act.Within rel (commandAxis (R := R) handle axis target speed homing))
  (fires : ∀ handle actuator on, Act.Within rel (fireActuator (R := R) handle actuator on))

include footing commands

theorem move_axis_within (handle : Nat) (axis : Axis R) (target : R) (speed : Option R) :
    Act.Within rel (moveAxis handle axis target speed) := by
  unfold moveAxis
  split
  · exact Act.within_fail footing.refl _
  · exact commands handle axis target speed false

theorem command_axis_within (call : Call R) : Act.Within rel (Motion.command call) := by
  refine Act.within_bind footing.trans _ _ (footing.find_axis call.device) fun found => ?_
  refine Act.within_bind footing.trans _ _ (Act.within_of_except footing.refl _) fun target => ?_
  refine Act.within_bind footing.trans _ _ (Act.within_of_except footing.refl _) fun speed => ?_
  refine Act.within_bind footing.trans _ _ (move_axis_within footing commands found.1 found.2 target speed) fun _ => ?_
  exact Act.within_pure footing.refl _

theorem move_until_within (call : Call R) : Act.Within rel (Motion.moveUntil call) := by
  refine Act.within_bind footing.trans _ _ (footing.find_axis call.device) fun found => ?_
  refine Act.within_bind footing.trans _ _ (Act.within_of_except footing.refl _) fun target => ?_
  refine Act.within_bind footing.trans _ _ (Act.within_of_except footing.refl _) fun threshold => ?_
  refine Act.within_bind footing.trans _ _ (Act.within_of_except footing.refl _) fun speed => ?_
  split
  · exact Act.within_of_except footing.refl _
  · refine Act.within_bind footing.trans _ _ (move_axis_within footing commands found.1 found.2 target speed) fun _ => ?_
    refine Act.within_bind footing.trans _ _ (Act.within_get footing.refl) fun cell => ?_
    dsimp only
    split
    · exact collapse_within footing found.1 _
    · split
      · exact collapse_within footing found.1 _
      · exact Act.within_change _ fun cell => footing.look_probe cell found.1 threshold _

theorem motion_within (operation : Operation) (handler : Handler R)
    (member : (operation, handler) ∈ HandlerTable.motions) (call : Call R) : Act.Within rel (handler call) := by
  simp only [HandlerTable.motions, List.mem_cons, Prod.mk.injEq, List.not_mem_nil, or_false] at member
  rcases member with ⟨-, rfl⟩ | ⟨-, rfl⟩ | ⟨-, rfl⟩ | ⟨-, rfl⟩ | ⟨-, rfl⟩ | ⟨-, rfl⟩
  · refine Act.within_bind footing.trans _ _ (command_axis_within footing commands call) fun _ => ?_
    exact Act.within_pure footing.refl _
  · refine Act.within_bind footing.trans _ _ (command_axis_within footing commands call) fun commanded => ?_
    exact await_idle_within footing call commanded.1
  · exact move_until_within footing commands call
  · refine Act.within_bind footing.trans _ _ (footing.find_axis call.device) fun found => ?_
    refine Act.within_bind footing.trans _ _ (commands found.1 found.2 _ none true) fun _ => ?_
    exact await_idle_within footing call found.1
  · exact stop_axis_within footing call
  · exact read_axis_within footing call

omit commands

include fires

theorem command_actuator_within (call : Call R) : Act.Within rel (Switching.command call) := by
  refine Act.within_bind footing.trans _ _ (footing.find_actuator call.device) fun found => ?_
  refine Act.within_bind footing.trans _ _ (Act.within_of_except footing.refl _) fun on => ?_
  refine Act.within_bind footing.trans _ _ (fires found.1 found.2 on) fun _ => ?_
  exact Act.within_pure footing.refl _

theorem switching_within (operation : Operation) (handler : Handler R)
    (member : (operation, handler) ∈ HandlerTable.switchings) (call : Call R) : Act.Within rel (handler call) := by
  simp only [HandlerTable.switchings, List.mem_cons, Prod.mk.injEq, List.not_mem_nil, or_false] at member
  rcases member with ⟨-, rfl⟩ | ⟨-, rfl⟩ | ⟨-, rfl⟩ | ⟨-, rfl⟩ | ⟨-, rfl⟩
  · refine Act.within_bind footing.trans _ _ (command_actuator_within footing fires call) fun _ => ?_
    exact Act.within_pure footing.refl _
  · refine Act.within_bind footing.trans _ _ (command_actuator_within footing fires call) fun commanded => ?_
    exact Act.within_change _ fun cell => footing.await_settled commanded.1 commanded.2 (call.bound cell) cell
  · exact wait_for_within footing call
  · exact stop_actuator_within footing call
  · exact read_actuator_within footing call

include commands

-- A handler of the standard table keeps what its parts keep, if those for materials do.
theorem standard_within_of_stock (cell : Cell R) (call : Call R)
    (stock : ∀ handler, (call.operation, handler) ∈ stocks → Act.Within rel (handler call)) (handler : Handler R)
    (resolved : HandlerTable.standard.resolve cell call = .ok handler) : Act.Within rel (handler call) := by
  rcases HandlerTable.standard_handler cell call handler resolved with motion | switching | service
  · exact motion_within footing commands call.operation handler motion call
  · exact switching_within footing fires call.operation handler switching call
  · rcases List.mem_append.mp (services_split (R := R) ▸ service) with control | material
    · exact control_within footing call.operation handler control call
    · exact stock handler material

omit footing in
-- A handler of the standard table keeps what its parts keep.
theorem standard_within (basis : Cell.Basis rel) (cell : Cell R) (call : Call R) (handler : Handler R)
    (resolved : HandlerTable.standard.resolve cell call = .ok handler) : Act.Within rel (handler call) :=
  standard_within_of_stock basis.toFooting commands fires cell call
    (fun handler member => stock_within basis call.operation handler member call) handler resolved

end Action

end Workcell

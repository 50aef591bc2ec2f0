import Workcell.Proofs.Action.Later
import Workcell.Proofs.Supply.Dispatch
import Workcell.Proofs.Upkeep.Life

/-!
Devices over a whole run: what has been found for an id once is found for it ever after.
-/

set_option autoImplicit false

namespace Workcell

variable {R : Type} [Scalar R]

namespace Cell.Supplied

theorem command_axis (handle : Nat) (axis : Axis R) (target : R) (speed : Option R) (homing : Bool) :
    Act.Within Supplied (commandAxis handle axis target speed homing) := by
  intro cell
  rw [commandAxis, Act.get_bind_apply]
  by_cases live : cell.live = true
  · rw [if_pos live]
    rcases axis.command target speed homing with ⟨reached, motion, moved⟩
    have moves := put_axis cell handle axis moved
    cases motion with
    | none => exact moves
    | some motion => exact moves.trans _ _ _ (effect _ _)
  · rw [if_neg live]
    exact refl cell

-- A stroke is made of the very actuator that has been found, and of no other one in its slot.
theorem fire_actuator (handle : Nat) (actuator : Actuator R) (on : Bool) (cell : Cell R)
    (there : cell.actuators.get? handle = some actuator) : Supplied cell (fireActuator handle actuator on cell).2 := by
  have kind := congrArg ActuatorSpec.kind (actuator.fire_spec on)
  rw [fireActuator, Act.get_bind_apply]
  rcases fired : actuator.fire on with ⟨stroke, moved⟩
  rw [fired] at kind
  have moves := put_actuator cell handle actuator moved there kind
  cases stroke with
  | none => exact moves
  | some stroke =>
      by_cases live : cell.live = true
      · simp only [if_pos live]
        exact moves.trans _ _ _ (effect _ _)
      · simp only [if_neg live]
        exact refl cell

theorem command_actuator (call : Call R) : Act.Within Supplied (Action.Switching.command call) := by
  have found := basis.toRegisters.find_actuator (R := R) call.device
  intro cell
  have furnished := found cell
  rw [Action.Switching.command, Act.bind_apply]
  rcases finds : findActuator call.device cell with ⟨outcome, between⟩
  rw [finds] at furnished
  cases outcome with
  | error failure => exact furnished
  | ok entry =>
      obtain ⟨handle, actuator⟩ := entry
      have there := ((Bank.find_iff ..).mp (find_actuator_there _ _ _ _ _ finds)).2
      cases call.flag 0 "state" with
      | error fault => exact furnished
      | ok on =>
          have fires := fire_actuator handle actuator on between there
          dsimp only
          rw [Act.read_bind_apply _ _ on rfl, Act.bind_apply]
          rcases fired : fireActuator handle actuator on between with ⟨result, after⟩
          rw [fired] at fires
          cases result with
          | ok moved => exact furnished.trans _ _ _ fires
          | error failure => exact furnished.trans _ _ _ fires

theorem switching (operation : Operation) (handler : Handler R)
    (member : (operation, handler) ∈ HandlerTable.switchings) (call : Call R) : Act.Within Supplied (handler call) := by
  have footing := basis (R := R).toFooting
  simp only [HandlerTable.switchings, List.mem_cons, Prod.mk.injEq, List.not_mem_nil, or_false] at member
  rcases member with ⟨-, rfl⟩ | ⟨-, rfl⟩ | ⟨-, rfl⟩ | ⟨-, rfl⟩ | ⟨-, rfl⟩
  · exact Act.within_bind trans _ _ (command_actuator call) fun _ => Act.within_pure refl _
  · refine Act.within_bind trans _ _ (command_actuator call) fun commanded => ?_
    exact Act.within_change _ fun cell => footing.await_settled commanded.1 commanded.2 (call.bound cell) cell
  · exact Action.wait_for_within footing call
  · exact Action.stop_actuator_within footing call
  · exact Action.read_actuator_within footing call

theorem standard (cell : Cell R) (call : Call R) (handler : Handler R)
    (resolved : HandlerTable.standard.resolve cell call = .ok handler) : Act.Within Supplied (handler call) := by
  rcases HandlerTable.standard_handler cell call handler resolved with moves | switches | serves
  · exact Action.motion_within basis.toFooting command_axis call.operation handler moves call
  · exact switching call.operation handler switches call
  · exact Action.service_within basis call.operation handler serves call

theorem step_supplied (cell after : Cell R) (drive : Drive R) (done : Bool)
    (stepped : Motor.step cell drive = some (done, after)) : Supplied cell after := by
  cases drive with
  | axis handle motion =>
      obtain ⟨axis, -, later⟩ := Option.bind_eq_some_iff.mp stepped
      obtain ⟨⟨moved, last⟩, -, same⟩ := Option.bind_eq_some_iff.mp later
      cases same
      exact (set_axis cell handle moved).trans _ _ _ (effect _ _)
  | actuator handle stroke began =>
      obtain ⟨actuator, there, later⟩ := Option.bind_eq_some_iff.mp stepped
      obtain ⟨⟨moved, last⟩, ticked, same⟩ := Option.bind_eq_some_iff.mp later
      cases same
      have kind : moved.spec.kind = actuator.spec.kind := by
        unfold Stroke.tick? at ticked
        split at ticked
        · cases ticked
          rfl
        · cases ticked
      exact (set_actuator cell handle actuator moved there kind).trans _ _ _ (effect _ _)

theorem motor (motor : Motor R) (cell : Cell R) : Supplied cell (motor.poll cell).2 := by
  have holds : ∀ (drive : Drive R) (cell : Cell R), Supplied cell (Motor.hold drive cell).2 := fun drive cell =>
    of_same _ _ rfl rfl rfl rfl
  obtain ⟨drive, next⟩ := motor
  unfold Motor.poll
  cases next with
  | none =>
      dsimp only
      split
      · exact refl cell
      · exact holds _ cell
  | some timer =>
      dsimp only
      split
      · cases stepped : Motor.step cell drive with
        | none => exact refl cell
        | some outcome =>
            obtain ⟨done, after⟩ := outcome
            have moves := step_supplied cell after drive done stepped
            cases done with
            | true => exact moves
            | false => exact moves.trans _ _ _ (holds drive after)
      · exact refl cell

omit [Scalar R] in
theorem kind {first cell : Cell R} (supplied : Supplied first cell) (axes : first.axes.Housed)
    (actuators : first.actuators.Housed) (id : String) : cell.kind? id = first.kind? id := by
  obtain ⟨madeAxes, madeActuators, furnished⟩ := supplied
  rw [Cell.kind?, Cell.kind?, furnished.machine]
  cases declared : first.machine.kind? id with
  | some kind => rfl
  | none =>
      have undeclared : first.machine.axis? id = none ∧ first.machine.actuator? id = none := by
        rw [Machine.kind?] at declared
        cases axis : first.machine.axis? id with
        | some spec => simp [axis] at declared
        | none => exact ⟨rfl, by simpa [axis] using declared⟩
      have axisKnown : (cell.axes.find? id).isSome = (first.axes.find? id).isSome := by
        rw [Bool.eq_iff_iff, furnished.axes.known_iff axes id]
        refine or_iff_right fun member => ?_
        have isDeclared := furnished.declaredAxes id member
        rw [undeclared.1] at isDeclared
        cases isDeclared
      have unmade : id ∉ madeActuators := fun member => by
        obtain ⟨spec, -, -, isDeclared, -⟩ := furnished.declaredActuators id member
        rw [undeclared.2] at isDeclared
        cases isDeclared
      have actuatorKnown : (cell.actuators.find? id).map (fun entry => entry.2.spec.kind.device) =
          (first.actuators.find? id).map fun entry => entry.2.spec.kind.device := by
        cases found : first.actuators.find? id with
        | some entry =>
            obtain ⟨later, still, same⟩ := furnished.actuator_kept id entry.1 entry.2 found
            rw [still]
            exact congrArg (fun kind : ActuatorKind => some kind.device) same
        | none =>
            have absent : (cell.actuators.find? id).isSome = false := by
              rw [Bool.eq_false_iff, Ne, furnished.actuators.known_iff actuators id, found]
              simpa using unmade
            rw [Option.isSome_eq_false_iff, Option.isNone_iff_eq_none] at absent
            rw [absent]
      cases before : first.axes.find? id with
      | some entry =>
          rw [before] at axisKnown
          obtain ⟨later, still⟩ := Option.isSome_iff_exists.mp axisKnown
          rw [still]
      | none =>
          rw [before, Option.isSome_none, Option.isSome_eq_false_iff, Option.isNone_iff_eq_none] at axisKnown
          rw [axisKnown]
          exact actuatorKnown

omit [Scalar R] in
theorem fits {first cell : Cell R} (supplied : Supplied first cell) (actuators : first.actuators.Housed) (id : String)
    (fits : first.Matches id) : cell.Matches id := by
  obtain ⟨madeAxes, madeActuators, furnished⟩ := supplied
  intro spec handle actuator declared found
  rw [furnished.machine] at declared
  have known : (cell.actuators.find? id).isSome = true := found ▸ rfl
  rcases (furnished.actuators.known_iff actuators id).mp known with made | before
  · obtain ⟨own, slot, device, isOwn, isFound, same⟩ := furnished.declaredActuators id made
    cases declared.symm.trans isOwn
    rw [found] at isFound
    cases isFound
    exact same
  · obtain ⟨⟨slot, device⟩, isFound⟩ := Option.isSome_iff_exists.mp before
    obtain ⟨later, still, same⟩ := furnished.actuator_kept id slot device isFound
    rw [found] at still
    cases still
    exact same.trans (fits spec _ device declared isFound)

end Cell.Supplied

-- A cell at some moment of a run that began in another one: actions have been carried out in it by the handlers of
-- the standard table, waits looked at or abandoned, books kept, and others have been at work.
inductive Cell.Worked (others : Cell R → Cell R → Prop) (first : Cell R) : Cell R → Prop where
  | start : Worked others first first
  | act {cell : Cell R} (call : Call R) (handler : Handler R) (earlier : Worked others first cell)
      (resolved : HandlerTable.standard.resolve cell call = .ok handler) : Worked others first (handler call cell).2
  | look {cell : Cell R} (wait : Wait R) (earlier : Worked others first cell) : Worked others first (cell.look wait).2
  | abandon {cell : Cell R} (wait : Wait R) (earlier : Worked others first cell) : Worked others first (wait.abandon cell)
  | books {cell : Cell R} (traces : Stream Trace) (hook : Hook R) (appeals : List Appeal) (issued : Nat)
      (outbox : List (Effect R)) (earlier : Worked others first cell) : Worked others first
        { cell with traces := traces, hook := hook, appeals := appeals, issued := issued, outbox := outbox }
  | others {cell between : Cell R} (earlier : Worked others first cell) (changed : others cell between) :
      Worked others first between

section

variable {others : Cell R → Cell R → Prop} (supply : ∀ before between, others before between → Cell.Supplied before between)
  {first : Cell R}

namespace Cell.Worked

include supply

theorem supplied {cell : Cell R} (worked : Worked others first cell) : Cell.Supplied first cell := by
  induction worked with
  | start => exact .refl first
  | act call handler earlier resolved ih => exact ih.trans _ _ _ (Cell.Supplied.standard _ call handler resolved _)
  | look wait earlier ih => exact ih.trans _ _ _ (Cell.Supplied.basis.look _ wait)
  | abandon wait earlier ih => exact ih.trans _ _ _ (Cell.Supplied.basis.abandon wait _)
  | books traces hook appeals issued outbox earlier ih => exact ih.trans _ _ _ (.of_same _ _ rfl rfl rfl rfl)
  | others earlier changed ih => exact ih.trans _ _ _ (supply _ _ changed)

variable (housed : first.axes.Housed ∧ first.actuators.Housed)

include housed

theorem kind {cell : Cell R} (worked : Worked others first cell) (id : String) : cell.kind? id = first.kind? id :=
  (worked.supplied supply).kind housed.1 housed.2 id

theorem knows_iff {cell : Cell R} (worked : Worked others first cell) (id : String) : cell.Knows id ↔ first.Knows id := by
  rw [cell.knows_iff, first.knows_iff, worked.kind supply housed]

theorem targets_iff {cell : Cell R} (worked : Worked others first cell) (device : String) (target : Option DeviceKind) :
    cell.Targets device target ↔ first.Targets device target := by
  cases target with
  | none => exact Iff.rfl
  | some kind => rw [Targets, Targets, worked.kind supply housed]

omit housed in
theorem able {cell : Cell R} (worked : Worked others first cell) (able : first.driver.Able first.machine) :
    cell.driver.Able cell.machine := by
  obtain ⟨axes, actuators, furnished⟩ := worked.supplied supply
  rw [furnished.machine, furnished.driver]
  exact able

end Cell.Worked

-- What a handler has that has been selected for a target. For the system it looks nothing up; otherwise it begins by
-- finding the device of its call, and whoever looks for that device later finds it under the same handle.
def Cell.Serves (others : Cell R → Cell R → Prop) (first cell : Cell R) (call : Call R) (handler : Handler R) :
    Option DeviceKind → Prop
  | none => True
  | some .axis => handler.OnAxis ∧ ∃ handle axis found, findAxis call.device cell = (.ok (handle, axis), found) ∧
      ∀ later, Cell.Worked others (handler call cell).2 later →
        ∃ same, findAxis call.device later = (.ok (handle, same), later)
  | some kind => handler.OnActuator ∧ ∃ handle actuator found,
      findActuator call.device cell = (.ok (handle, actuator), found) ∧
      (first.Matches call.device → actuator.spec.kind.device = kind) ∧
      ∀ later, Cell.Worked others (handler call cell).2 later →
        ∃ same, findActuator call.device later = (.ok (handle, same), later)

include supply

theorem serves_its_target (housed : first.axes.Housed ∧ first.actuators.Housed) (able : first.driver.Able first.machine)
    (cell : Cell R) (worked : Cell.Worked others first cell) (call : Call R) (handler : Handler R)
    (target : Option DeviceKind) (targets : first.Targets call.device target)
    (selected : HandlerTable.standard.find? ⟨call.operation, target⟩ = some handler) :
    (∀ fault, (handler call cell).1 = .error (.fault fault) → ∀ id, ¬ fault.Lacks id) ∧
      Cell.Serves others first cell call handler target := by
  have sorted := HandlerTable.standard_sorted _ _ _ selected
  have resolved : HandlerTable.standard.resolve cell call = .ok handler :=
    (HandlerTable.resolve_ok_iff _ cell call handler).mpr ⟨target, (worked.targets_iff supply housed _ _).mpr targets,
      selected⟩
  -- What is found at first stays found, since the handler does as much in the cell in which it has been found.
  have onwards : ∀ found later, handler call cell = handler call found → Cell.Worked others (handler call cell).2 later →
      Cell.Supplied found later := by
    intro found later same worked
    have begun := Cell.Supplied.standard cell call handler resolved found
    rw [← same] at begun
    exact begun.trans _ _ _ (worked.supplied supply)
  have actuators : ∀ kind, kind ≠ .axis → first.kind? call.device = some kind →
      (call.operation, handler) ∈ HandlerTable.switchings →
      (∀ fault, (handler call cell).1 = .error (.fault fault) → ∀ id, ¬ fault.Lacks id) ∧
      handler.OnActuator ∧ ∃ handle actuator found, findActuator call.device cell = (.ok (handle, actuator), found) ∧
        (first.Matches call.device → actuator.spec.kind.device = kind) ∧
        ∀ later, Cell.Worked others (handler call cell).2 later →
          ∃ same, findActuator call.device later = (.ok (handle, same), later) := by
    intro kind other known listed
    obtain ⟨handle, actuator, found, finds, there, fits⟩ :=
      actuator_of_kind cell (worked.able supply able) call.device kind ((worked.kind supply housed _).trans known) other
    obtain ⟨begins, same, fails⟩ := switching_served cell found call handler handle actuator listed finds there
    refine ⟨fails, begins, handle, actuator, found, finds,
      fun isFit => fits ((worked.supplied supply).fits housed.2 _ isFit), fun later more => ?_⟩
    obtain ⟨axes, actuators, furnished⟩ := onwards found later same more
    obtain ⟨last, still⟩ := furnished.actuators.kept _ handle actuator there
    exact ⟨last, find_actuator_registered later _ handle last still⟩
  cases target with
  | none => exact ⟨(Act.Owns.service _ handler sorted call).not_lacks cell, trivial⟩
  | some kind =>
      cases kind with
      | cylinder => exact actuators .cylinder nofun targets.2 sorted
      | vacuum => exact actuators .vacuum nofun targets.2 sorted
      | axis =>
          obtain ⟨handle, axis, found, finds, there⟩ :=
            axis_of_kind cell (worked.able supply able) call.device ((worked.kind supply housed _).trans targets.2)
          obtain ⟨begins, same, fails⟩ := motion_served cell found call handler handle axis sorted finds there
          refine ⟨fails, begins, handle, axis, found, finds, fun later more => ?_⟩
          obtain ⟨axes, actuators, furnished⟩ := onwards found later same more
          obtain ⟨last, still⟩ := furnished.axes.kept _ handle axis there
          exact ⟨last, find_axis_registered later _ handle last still⟩

theorem worked_upkeep (housed : first.axes.Housed ∧ first.actuators.Housed) (able : first.driver.Able first.machine) :
    Upkeep HandlerTable.standard (fun _ => True)
      (fun fault => ∀ id, fault.Lacks id → fault = .deviceNotFound id ∧ id ≠ systemName ∧ ¬ first.Knows id)
      fun _ => Cell.Worked others first where
  perm _ held := held
  trace {_ cell} held step status number :=
    .books (cell.trace step status number).traces cell.hook cell.appeals cell.issued cell.outbox held
  appeal {_ cell} held step fault := .books cell.traces cell.hook.answer.2 _ cell.issued cell.outbox held
  issue {_ cell} held := .books cell.traces cell.hook cell.appeals (cell.issued + 1) cell.outbox held
  again {_ cell} held key := .books cell.traces cell.hook cell.appeals cell.issued _ held
  rest {_ cell} held key := .books cell.traces cell.hook cell.appeals cell.issued _ held
  cancelled _ _ := by
    intro id lacks
    cases lacks
  refused {_ cell call fault} held _ refuses := by
    intro id lacks
    rcases (HandlerTable.resolve_error_iff _ cell call fault).mp refuses with ⟨rfl, named, unknown⟩ | ⟨rfl, -⟩
    · cases lacks
      exact ⟨rfl, named, mt (held.knows_iff supply housed _).mpr unknown⟩
    · cases lacks
  act {_ cell call handler} held _ resolved := by
    obtain ⟨target, targets, selected⟩ := (HandlerTable.resolve_ok_iff _ cell call handler).mp resolved
    obtain ⟨fails, -⟩ := serves_its_target supply housed able cell held call handler target
      ((held.targets_iff supply housed _ _).mp targets) selected
    have after := Cell.Worked.act call handler held resolved
    rcases result : handler call cell with ⟨outcome, next⟩
    rw [result] at after fails
    cases outcome with
    | ok reply => exact after
    | error failure =>
        cases failure with
        | fault fault => exact ⟨after, fun id lacks => absurd lacks (fails fault rfl id)⟩
        | panic message => exact after
  look held _ := .look _ held
  abandon held := .abandon _ held

structure Cell.Dispatches (others : Cell R → Cell R → Prop) (first cell : Cell R) (call : Call R) : Prop where
  refused : ∀ fault, HandlerTable.standard.resolve cell call = .error fault ↔
    (fault = .deviceNotFound call.device ∧ call.device ≠ systemName ∧ ¬ first.Knows call.device) ∨
    (fault = .unsupported call.operation call.device ∧ ∃ target, first.Targets call.device target ∧
      HandlerTable.standard.find? (R := R) ⟨call.operation, target⟩ = none)
  served : ∀ handler, HandlerTable.standard.resolve cell call = .ok handler → ∃ target, first.Targets call.device target ∧
    HandlerTable.standard.find? ⟨call.operation, target⟩ = some handler ∧
    (∀ fault, (handler call cell).1 = .error (.fault fault) → ∀ id, ¬ fault.Lacks id) ∧
    Cell.Serves others first cell call handler target

theorem Cell.Worked.dispatches (housed : first.axes.Housed ∧ first.actuators.Housed) (able : first.driver.Able first.machine)
    {cell : Cell R} (worked : Cell.Worked others first cell) (call : Call R) : Cell.Dispatches others first cell call where
  refused fault := by
    rw [HandlerTable.resolve_error_iff, worked.knows_iff supply housed]
    simp only [worked.targets_iff supply housed]
  served handler resolved := by
    obtain ⟨target, targets, selected⟩ := (HandlerTable.resolve_ok_iff _ cell call handler).mp resolved
    have same := (worked.targets_iff supply housed _ _).mp targets
    exact ⟨target, same, selected, serves_its_target supply housed able cell worked call handler target same selected⟩

/-- Dispatch and lookup agree at every moment of every run. A call is refused exactly when its device is neither declared
nor registered, or when there is no handler for the operation and the kind of the device. Otherwise the handler that is
selected finds a device of its kind, the kind of an axis or that of an actuator, and the very kind where no actuator of the
other kind has been registered under a declared id; it does not fail for want of a device, and from then on whoever looks
for the device finds it under the same handle. The devices that are made over the run are declared ones, each made once. -/
theorem dispatch_and_lookup_agree (housed : first.axes.Housed ∧ first.actuators.Housed)
    (able : first.driver.Able first.machine) :
    (∀ cell, Cell.Worked others first cell → ∀ call : Call R, Cell.Dispatches others first cell call) ∧
    (∀ cell, Cell.Worked others first cell → ∃ axes actuators, Cell.Furnished axes actuators first cell) ∧
    ∀ step woken progress after, Life .standard others (.fresh step) first woken progress after →
      Cell.Worked others first after ∧ ∀ fault, progress = .fault fault → ∀ id, fault.Lacks id →
        fault = .deviceNotFound id ∧ id ≠ systemName ∧ ¬ first.Knows id := by
  refine ⟨fun cell worked call => worked.dispatches supply housed able call, fun cell worked => worked.supplied supply,
    fun step woken progress after life => ?_⟩
  have kept := (worked_upkeep supply housed able).life_keeps others (fun _ _ _ changed held => .others held changed) step
    (every_of_all _ (fun _ => trivial) step) first .start woken progress after life
  cases progress with
  | done value => exact ⟨kept, nofun⟩
  | panicked message => exact ⟨kept, nofun⟩
  | pending run => exact ⟨kept.1, nofun⟩
  | fault fault =>
      refine ⟨kept.1, ?_⟩
      rintro other ⟨⟩
      exact kept.2

end

def Cell.Moved (before after : Cell R) : Prop :=
  (∃ motor : Motor R, after = (motor.poll before).2) ∨ after = (materializeAll before).2

theorem Cell.Moved.supplied (before after : Cell R) (moved : Cell.Moved before after) : Cell.Supplied before after := by
  rcases moved with ⟨motor, rfl⟩ | rfl
  · exact .motor motor before
  · exact Cell.Supplied.basis.toRegisters.materialize_all before

theorem Driver.able_of_simulation (tick : Duration) (actuators : List ActuatorSpec) (name : String) :
    (Driver.simulation tick).Able (⟨name, [], actuators⟩ : Machine R) :=
  ⟨nofun, fun spec _ => ⟨.new spec tick, rfl⟩⟩

def liftAxis (id : String) : Axis Rat := ⟨.new id 0 100, .ofMillis 10, none, ⟨0, 0, false, false⟩, 0, 0⟩

def namesakeCell : Cell Rat :=
  { gripperCell with axes := (Bank.empty.add "gripper" (liftAxis "gripper")).add "lift" (liftAxis "lift") }

def fireGripper : Call Rat := ⟨"gripper", .fire, [.literal (.bool true)], none⟩

-- The gripper is fired as the cylinder that it is declared as, the lift is an axis, and nothing else is known.
theorem namesake_gripper_is_found :
    (namesakeCell.axes.Housed ∧ namesakeCell.actuators.Housed) ∧ namesakeCell.driver.Able namesakeCell.machine ∧
      Cell.Serves Cell.Moved namesakeCell namesakeCell fireGripper Action.Switching.fire (some .cylinder) ∧
      Cell.Serves Cell.Moved namesakeCell namesakeCell ⟨"lift", .stop, [], none⟩ Action.Motion.stop (some .axis) ∧
      HandlerTable.standard.resolve namesakeCell ⟨"nest", .home, [], none⟩ = .error (.deviceNotFound "nest") ∧
      HandlerTable.standard.resolve namesakeCell ⟨"gripper", .home, [], none⟩ = .error (.unsupported .home "gripper") := by
  have housed : namesakeCell.axes.Housed ∧ namesakeCell.actuators.Housed :=
    ⟨Bank.housed_add _ (Bank.housed_add _ Bank.housed_empty _ _) _ _, Bank.housed_empty⟩
  have able : namesakeCell.driver.Able namesakeCell.machine := Driver.able_of_simulation _ _ _
  have fires : HandlerTable.standard.resolve namesakeCell fireGripper = .ok Action.Switching.fire := rfl
  have stops : HandlerTable.standard.resolve namesakeCell ⟨"lift", .stop, [], none⟩ = .ok Action.Motion.stop := rfl
  obtain ⟨moments, -, -⟩ := dispatch_and_lookup_agree Cell.Moved.supplied housed able
  have now := moments namesakeCell .start
  obtain ⟨target, targets, -, -, serves⟩ := (now fireGripper).served _ fires
  obtain ⟨port, ports, -, -, lifts⟩ := (now ⟨"lift", .stop, [], none⟩).served _ stops
  have isCylinder : target = some .cylinder := by
    have known : namesakeCell.kind? "gripper" = some .cylinder := rfl
    cases target with
    | none => exact absurd (show "gripper" = systemName from targets) (by decide)
    | some kind => exact targets.2.symm.trans known
  have isAxis : port = some .axis := by
    have known : namesakeCell.kind? "lift" = some .axis := rfl
    cases port with
    | none => exact absurd (show "lift" = systemName from ports) (by decide)
    | some kind => exact ports.2.symm.trans known
  refine ⟨housed, able, isCylinder ▸ serves, isAxis ▸ lifts, ((now _).refused _).mpr (Or.inl ⟨rfl, by decide, ?_⟩),
    ((now _).refused _).mpr (Or.inr ⟨rfl, some .cylinder, ⟨by decide, rfl⟩, rfl⟩)⟩
  rw [Cell.knows_iff]
  exact nofun

def suctionCell : Cell Rat :=
  { gripperCell with actuators := Bank.empty.add "gripper" (.new (.new "gripper" .vacuum 200) (.ofMillis 10)) }

-- A handler that has been selected for a cylinder may find a vacuum effector.
theorem a_vacuum_stands_in_for_a_cylinder :
    suctionCell.actuators.Housed ∧ suctionCell.driver.Able suctionCell.machine ∧
      suctionCell.Targets "gripper" (some .cylinder) ∧
      HandlerTable.standard.resolve suctionCell fireGripper = .ok Action.Switching.fire ∧
      ∃ handle actuator, findActuator "gripper" suctionCell = (.ok (handle, actuator), suctionCell) ∧
        actuator.spec.kind.device = .vacuum :=
  ⟨Bank.housed_add _ Bank.housed_empty _ _, Driver.able_of_simulation _ _ _, ⟨by decide, rfl⟩, rfl, 0, _, rfl, rfl⟩

end Workcell

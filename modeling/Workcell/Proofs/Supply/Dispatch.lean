import Workcell.Proofs.Action.Blame
import Workcell.Proofs.Fit.Machines
import Workcell.Proofs.Supply.Making

/-!
Dispatch and lookup agree.

The kind of a device is read off the machine first and off the registers after that, and the device itself the other way
round. Even so the handler that is selected by the kind finds its device: an axis where the kind is that of an axis, and an
actuator otherwise.
-/

set_option autoImplicit false

namespace Workcell

variable {R : Type}

namespace Cell

def Knows (cell : Cell R) (id : String) : Prop :=
  id ∈ cell.machine.ids ∨ (cell.axes.find? id).isSome = true ∨ (cell.actuators.find? id).isSome = true

-- What a call that is addressed to a device is carried out on: the system, or a device of some kind.
def Targets (cell : Cell R) (device : String) : Option DeviceKind → Prop
  | none => device = systemName
  | some kind => device ≠ systemName ∧ cell.kind? device = some kind

theorem knows_iff (cell : Cell R) (id : String) : cell.Knows id ↔ (cell.kind? id).isSome = true := by
  rw [Knows, ← cell.machine.kind_known_iff id, kind?]
  cases cell.machine.kind? id with
  | some kind => simp
  | none =>
      cases cell.axes.find? id with
      | some entry => simp
      | none => simp

theorem kind_cases (cell : Cell R) (id : String) (kind : DeviceKind) (known : cell.kind? id = some kind) :
    (kind = .axis ∧ ((cell.machine.axis? id).isSome = true ∨ (cell.axes.find? id).isSome = true)) ∨
    (∃ spec, cell.machine.actuator? id = some spec ∧ kind = spec.kind.device) ∨
    ∃ handle actuator, cell.machine.actuator? id = none ∧ cell.actuators.find? id = some (handle, actuator) ∧
      kind = actuator.spec.kind.device := by
  rw [kind?, Machine.kind?] at known
  cases axis : cell.machine.axis? id with
  | some spec =>
      rw [axis] at known
      cases known
      exact Or.inl ⟨rfl, Or.inl rfl⟩
  | none =>
      cases actuator : cell.machine.actuator? id with
      | some spec =>
          rw [axis, actuator] at known
          cases known
          exact Or.inr (Or.inl ⟨spec, rfl, rfl⟩)
      | none =>
          cases registered : cell.axes.find? id with
          | some entry =>
              rw [axis, actuator, registered] at known
              cases known
              exact Or.inl ⟨rfl, Or.inr rfl⟩
          | none =>
              rw [axis, actuator, registered] at known
              obtain ⟨⟨handle, device⟩, found, rfl⟩ := Option.map_eq_some_iff.mp known
              exact Or.inr (Or.inr ⟨handle, device, rfl, found, rfl⟩)

end Cell

theorem ActuatorKind.device_ne_axis (kind : ActuatorKind) : kind.device ≠ .axis := by
  cases kind with
  | cylinder => exact nofun
  | vacuum => exact nofun

namespace HandlerTable

variable (table : HandlerTable R) (cell : Cell R) (call : Call R)

theorem target_iff (target : Option DeviceKind) :
    target? cell call.device = .ok target ↔ cell.Targets call.device target := by
  unfold target?
  by_cases system : call.device = systemName
  · rw [if_pos system]
    cases target with
    | none => exact ⟨fun _ => system, fun _ => rfl⟩
    | some kind => exact ⟨nofun, fun targets => absurd system targets.1⟩
  · rw [if_neg system]
    cases known : cell.kind? call.device with
    | none =>
        cases target with
        | none => exact ⟨nofun, fun isSystem => absurd isSystem system⟩
        | some kind => exact ⟨nofun, fun targets => (nomatch known.symm.trans targets.2)⟩
    | some own =>
        cases target with
        | none => exact ⟨nofun, fun isSystem => absurd isSystem system⟩
        | some kind =>
            constructor
            · intro same
              cases same
              exact ⟨system, known⟩
            · rintro ⟨-, same⟩
              rw [known] at same
              cases same
              rfl

theorem target_error_iff (fault : Fault) : target? cell call.device = .error fault ↔
    fault = .deviceNotFound call.device ∧ call.device ≠ systemName ∧ ¬ cell.Knows call.device := by
  rw [Cell.knows_iff]
  unfold target?
  by_cases system : call.device = systemName
  · rw [if_pos system]
    exact ⟨nofun, fun ⟨_, other, _⟩ => absurd system other⟩
  · rw [if_neg system]
    cases known : cell.kind? call.device with
    | none =>
        constructor
        · intro same
          cases same
          exact ⟨rfl, system, nofun⟩
        · rintro ⟨rfl, -, -⟩
          rfl
    | some kind => exact ⟨nofun, fun ⟨_, _, unknown⟩ => absurd rfl unknown⟩

theorem resolve_error_iff (fault : Fault) : table.resolve cell call = .error fault ↔
    (fault = .deviceNotFound call.device ∧ call.device ≠ systemName ∧ ¬ cell.Knows call.device) ∨
    (fault = .unsupported call.operation call.device ∧
      ∃ target, cell.Targets call.device target ∧ table.find? ⟨call.operation, target⟩ = none) := by
  rw [← target_error_iff]
  simp only [← target_iff, resolve]
  cases target : target? cell call.device with
  | error reason =>
      constructor
      · intro refused
        cases refused
        exact Or.inl rfl
      · rintro (same | ⟨-, port, same, -⟩)
        · cases same
          rfl
        · cases same
  | ok port =>
      simp only [bind, Except.bind, reduceCtorEq, false_or, Except.ok.injEq, exists_eq_left']
      cases found : table.find? ⟨call.operation, port⟩ with
      | some handler => simp
      | none => simp [eq_comm]

theorem resolve_ok_iff (handler : Handler R) : table.resolve cell call = .ok handler ↔
    ∃ target, cell.Targets call.device target ∧ table.find? ⟨call.operation, target⟩ = some handler := by
  simp only [← target_iff, resolve]
  cases target : target? cell call.device with
  | error reason =>
      constructor
      · intro same
        cases same
      · rintro ⟨port, same, -⟩
        cases same
  | ok port =>
      simp only [bind, Except.bind, Except.ok.injEq, exists_eq_left']
      cases found : table.find? ⟨call.operation, port⟩ with
      | some other => simp
      | none => simp

variable [Scalar R]

theorem standard_sorted (operation : Operation) (target : Option DeviceKind) (handler : Handler R)
    (found : standard.find? ⟨operation, target⟩ = some handler) :
    match target with
    | some .axis => (operation, handler) ∈ motions
    | some _ => (operation, handler) ∈ switchings
    | none => (operation, handler) ∈ services := by
  have member := mem_of_lookup _ _ _ found
  have sorted : ∀ sort handlers, (⟨operation, target⟩, handler) ∈ on sort handlers →
      target = sort ∧ (operation, handler) ∈ handlers := by
    intro sort handlers inside
    obtain ⟨⟨other, work⟩, present, same⟩ := List.mem_map.mp inside
    cases same
    exact ⟨rfl, present⟩
  simp only [standard, List.mem_append] at member
  rcases member with ((motion | cylinder) | vacuum) | service
  · obtain ⟨rfl, listed⟩ := sorted _ _ motion
    exact listed
  · obtain ⟨rfl, listed⟩ := sorted _ _ cylinder
    exact listed
  · obtain ⟨rfl, listed⟩ := sorted _ _ vacuum
    exact listed
  · obtain ⟨rfl, listed⟩ := sorted _ _ service
    exact listed

end HandlerTable

structure Driver.Able [Scalar R] (driver : Driver) (machine : Machine R) : Prop where
  axes : ∀ spec ∈ machine.axes, ∃ axis, driver.createAxis spec = .ok (some axis)
  actuators : ∀ spec ∈ machine.actuators, ∃ actuator : Actuator R, driver.createActuator spec = .ok actuator

-- An actuator that is registered under the id of a declared one is of its kind.
def Cell.Matches (cell : Cell R) (id : String) : Prop :=
  ∀ spec handle actuator, cell.machine.actuator? id = some spec → cell.actuators.find? id = some (handle, actuator) →
    actuator.spec.kind = spec.kind

variable [Scalar R]

theorem find_axis_registered (cell : Cell R) (id : String) (handle : Nat) (axis : Axis R)
    (found : cell.axes.find? id = some (handle, axis)) : findAxis id cell = (.ok (handle, axis), cell) := by
  rw [findAxis, Act.get_bind_apply, found]
  rfl

theorem find_actuator_registered (cell : Cell R) (id : String) (handle : Nat) (actuator : Actuator R)
    (found : cell.actuators.find? id = some (handle, actuator)) :
    findActuator id cell = (.ok (handle, actuator), cell) := by
  rw [findActuator, Act.get_bind_apply, found]
  rfl

theorem Bank.find_added {D : Type} (bank : Bank D) (id : String) (device : D) :
    (bank.add id device).find? id = some (bank.slots.length, device) := by
  refine (Bank.find_iff ..).mpr ⟨Tree.lookup_insert_self id _ _, ?_⟩
  simp [get?, add]

theorem find_actuator_there (id : String) (cell after : Cell R) (handle : Nat) (actuator : Actuator R)
    (finds : findActuator id cell = (.ok (handle, actuator), after)) :
    after.actuators.find? id = some (handle, actuator) := by
  rw [findActuator, Act.get_bind_apply] at finds
  cases registered : cell.actuators.find? id with
  | some entry =>
      rw [registered] at finds
      cases finds
      exact registered
  | none =>
      rw [registered] at finds
      cases declared : cell.machine.actuator? id with
      | none =>
          rw [declared] at finds
          cases finds
      | some spec =>
          obtain rfl : spec.id = id := by simpa using List.find?_some declared
          rw [declared] at finds
          dsimp only at finds
          rw [makeActuator, Act.get_bind_apply] at finds
          cases created : cell.driver.createActuator (R := R) spec with
          | error error =>
              rw [created] at finds
              cases finds
          | ok made =>
              rw [created] at finds
              cases finds
              exact Bank.find_added _ _ _

theorem axis_of_kind (cell : Cell R) (able : cell.driver.Able cell.machine) (id : String)
    (known : cell.kind? id = some .axis) : ∃ handle axis found, findAxis id cell = (.ok (handle, axis), found) ∧
      found.axes.find? id = some (handle, axis) := by
  cases registered : cell.axes.find? id with
  | some entry => exact ⟨entry.1, entry.2, cell, find_axis_registered cell id _ _ registered, registered⟩
  | none =>
      have declared : (cell.machine.axis? id).isSome = true := by
        rcases cell.kind_cases id .axis known with ⟨-, declared | found⟩ | ⟨spec, -, same⟩ | ⟨handle, actuator, -, -, same⟩
        · exact declared
        · rw [registered] at found
          cases found
        · exact absurd same.symm spec.kind.device_ne_axis
        · exact absurd same.symm actuator.spec.kind.device_ne_axis
      obtain ⟨spec, isDeclared⟩ := Option.isSome_iff_exists.mp declared
      obtain rfl : spec.id = id := by simpa using List.find?_some isDeclared
      obtain ⟨axis, created⟩ := able.axes spec (List.mem_of_find?_eq_some isDeclared)
      refine ⟨cell.axes.slots.length, axis, { cell with axes := cell.axes.add spec.id axis }, ?_, Bank.find_added _ _ _⟩
      rw [findAxis, Act.get_bind_apply, registered, isDeclared]
      dsimp only
      rw [makeAxis, Act.get_bind_apply, created]
      rfl

theorem actuator_of_kind (cell : Cell R) (able : cell.driver.Able cell.machine) (id : String) (kind : DeviceKind)
    (known : cell.kind? id = some kind) (other : kind ≠ .axis) :
    ∃ handle actuator found, findActuator id cell = (.ok (handle, actuator), found) ∧
      found.actuators.find? id = some (handle, actuator) ∧ (cell.Matches id → actuator.spec.kind.device = kind) := by
  have declares : cell.actuators.find? id = none → ∃ spec, cell.machine.actuator? id = some spec := by
    intro fresh
    rcases cell.kind_cases id kind known with ⟨same, -⟩ | ⟨spec, declared, -⟩ | ⟨handle, actuator, -, found, -⟩
    · exact absurd same other
    · exact ⟨spec, declared⟩
    · rw [fresh] at found
      cases found
  have kinds : ∀ spec, cell.machine.actuator? id = some spec → spec.kind.device = kind := by
    intro spec declared
    rcases cell.kind_cases id kind known with ⟨same, -⟩ | ⟨own, isOwn, same⟩ | ⟨handle, actuator, undeclared, -, -⟩
    · exact absurd same other
    · cases declared.symm.trans isOwn
      exact same.symm
    · rw [declared] at undeclared
      cases undeclared
  cases registered : cell.actuators.find? id with
  | some entry =>
      obtain ⟨handle, actuator⟩ := entry
      refine ⟨handle, actuator, cell, find_actuator_registered cell id _ _ registered, registered, fun fits => ?_⟩
      rcases cell.kind_cases id kind known with ⟨same, -⟩ | ⟨spec, declared, same⟩ | ⟨slot, own, -, found, same⟩
      · exact absurd same other
      · rw [fits spec handle actuator declared registered, same]
      · cases registered.symm.trans found
        exact same.symm
  | none =>
      obtain ⟨spec, declared⟩ := declares registered
      obtain rfl : spec.id = id := by simpa using List.find?_some declared
      obtain ⟨actuator, created⟩ := able.actuators spec (List.mem_of_find?_eq_some declared)
      obtain ⟨tick, -, rfl⟩ := Act.created_actuator _ spec actuator created
      refine ⟨cell.actuators.slots.length, .new spec tick,
        { cell with actuators := cell.actuators.add spec.id (.new spec tick) }, ?_, Bank.find_added _ _ _,
        fun _ => kinds spec declared⟩
      rw [findActuator, Act.get_bind_apply, registered, declared]
      dsimp only
      rw [makeActuator, Act.get_bind_apply, created]
      rfl

inductive Fault.Lacks (id : String) : Fault → Prop
  | unknown : Lacks id (.deviceNotFound id)
  | absent : Lacks id (.device (.notFound id))
  | wrongKind (expected : String) : Lacks id (.device (.wrongKind id expected))

theorem Fault.not_lacks_of_own (fault : Fault) (own : (Failure.fault fault).Own) (id : String) : ¬ fault.Lacks id := by
  rintro (_ | _ | _)
  · cases own
  · cases own
  · cases own

omit [Scalar R] in
theorem Act.Owns.not_lacks {A : Type} {act : Act R A} (owns : act.Owns) (cell : Cell R) (fault : Fault)
    (fails : (act cell).1 = .error (.fault fault)) (id : String) : ¬ fault.Lacks id :=
  fault.not_lacks_of_own (owns cell _ fails) id

omit [Scalar R] in
theorem Act.Answers.not_lacks {A : Type} {act : Act R A} (answers : act.Answers) (cell : Cell R) (fault : Fault)
    (fails : (act cell).1 = .error (.fault fault)) (id : String) : ¬ fault.Lacks id := by
  rcases answers cell _ fails with own | ⟨message, same⟩
  · exact fault.not_lacks_of_own own id
  · cases same

-- The handler finds the axis of its call first, and goes on from there.
def Handler.OnAxis (handler : Handler R) : Prop :=
  ∃ work : Call R → Nat × Axis R → Act R (Reply R), ∀ call, handler call = findAxis call.device >>= work call

def Handler.OnActuator (handler : Handler R) : Prop :=
  ∃ work : Call R → Nat × Actuator R → Act R (Reply R), ∀ call, handler call = findActuator call.device >>= work call

theorem motion_served (cell found : Cell R) (call : Call R) (handler : Handler R) (handle : Nat) (axis : Axis R)
    (member : (call.operation, handler) ∈ HandlerTable.motions)
    (finds : findAxis call.device cell = (.ok (handle, axis), found))
    (there : found.axes.find? call.device = some (handle, axis)) :
    handler.OnAxis ∧ handler call cell = handler call found ∧
      ∀ fault, (handler call cell).1 = .error (.fault fault) → ∀ id, ¬ fault.Lacks id := by
  obtain ⟨work, begins, answers⟩ := Act.Owns.motion call.operation handler member
  have here : handler call cell = work call (handle, axis) found := by rw [begins, Act.bind_apply, finds]
  have again : handler call found = work call (handle, axis) found := by
    rw [begins, Act.bind_apply, find_axis_registered found _ handle axis there]
  refine ⟨⟨work, begins⟩, here.trans again.symm, fun fault fails => ?_⟩
  rw [here] at fails
  exact (answers call (handle, axis)).not_lacks found fault fails

theorem switching_served (cell found : Cell R) (call : Call R) (handler : Handler R) (handle : Nat) (actuator : Actuator R)
    (member : (call.operation, handler) ∈ HandlerTable.switchings)
    (finds : findActuator call.device cell = (.ok (handle, actuator), found))
    (there : found.actuators.find? call.device = some (handle, actuator)) :
    handler.OnActuator ∧ handler call cell = handler call found ∧
      ∀ fault, (handler call cell).1 = .error (.fault fault) → ∀ id, ¬ fault.Lacks id := by
  obtain ⟨work, begins, owns⟩ := Act.Owns.switching call.operation handler member
  have here : handler call cell = work call (handle, actuator) found := by rw [begins, Act.bind_apply, finds]
  have again : handler call found = work call (handle, actuator) found := by
    rw [begins, Act.bind_apply, find_actuator_registered found _ handle actuator there]
  refine ⟨⟨work, begins⟩, here.trans again.symm, fun fault fails => ?_⟩
  rw [here] at fails
  exact (owns call (handle, actuator)).not_lacks found fault fails

end Workcell

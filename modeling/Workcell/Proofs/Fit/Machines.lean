import Mathlib.Data.List.Count
import Mathlib.Data.List.Nodup
import Workcell.Machine.Validity
import Workcell.Proofs.Exact

/-!
What makes a machine fit to run, said condition by condition in the order in which they count, each with the error that
tells of it. A check finds the first condition that is not met; and in a machine that meets them all an id is the id of one
device, whoever looks for it.
-/

set_option autoImplicit false

namespace Workcell

variable {R : Type}

structure Condition (R : Type) where
  met : Bool
  error : MachineError R

def Condition.report (conditions : List (Condition R)) : Except (MachineError R) Unit :=
  match conditions.find? fun condition => !condition.met with
  | none => .ok ()
  | some condition => .error condition.error

def idConditions (id : String) : List (Condition R) :=
  [⟨decide (id ≠ ""), .emptyId⟩, ⟨decide (id ≠ systemName), .reservedId id⟩]

def AxisSpec.conditions [Scalar R] (spec : AxisSpec R) : List (Condition R) :=
  idConditions spec.id ++
    ⟨decide (spec.min < spec.max), .invalidRange spec.id spec.min spec.max⟩ ::
      ⟨decide (Scalar.zero < spec.maxSpeed), .invalidSpeed spec.id spec.maxSpeed⟩ ::
        spec.contact.toList.map fun contact =>
          ⟨decide (Scalar.zero < contact.stiffness), .invalidContact spec.id contact.stiffness⟩

-- What is asked of devices one after the other: of each what is asked of it by itself, and that no earlier one has
-- its id.
def Condition.inTurn {A : Type} (own : A → List (Condition R)) (id : A → String) :
    (earlier : List String) → List A → List (Condition R)
  | _, [] => []
  | earlier, item :: rest =>
      own item ++ ⟨decide (id item ∉ earlier), .duplicateId (id item)⟩ :: inTurn own id (earlier ++ [id item]) rest

-- All that is asked of a machine: the count, then each axis, then each actuator, as they are declared.
def Machine.conditions [Scalar R] (machine : Machine R) : List (Condition R) :=
  let count := machine.axes.length + machine.actuators.length
  ⟨decide (count ≤ maxDevices), .tooManyDevices count⟩ ::
    (Condition.inTurn AxisSpec.conditions AxisSpec.id [] machine.axes ++
      Condition.inTurn (fun spec => idConditions spec.id) ActuatorSpec.id (machine.axes.map AxisSpec.id) machine.actuators)

namespace Condition

theorem report_ok_iff (conditions : List (Condition R)) :
    report conditions = .ok () ↔ ∀ condition ∈ conditions, condition.met = true := by
  unfold report
  cases found : conditions.find? fun condition => !condition.met with
  | none => simpa using found
  | some unmet =>
      have failed := List.find?_some found
      have member := List.mem_of_find?_eq_some found
      refine iff_of_false nofun fun all => ?_
      simp [all unmet member] at failed

theorem report_error_iff (conditions : List (Condition R)) (error : MachineError R) :
    report conditions = .error error ↔ ∃ before unmet after, conditions = before ++ unmet :: after ∧
      (∀ condition ∈ before, condition.met = true) ∧ unmet.met = false ∧ unmet.error = error := by
  unfold report
  cases found : conditions.find? fun condition => !condition.met with
  | none =>
      refine iff_of_false nofun ?_
      rintro ⟨before, unmet, after, rfl, -, failed, -⟩
      have none_ := List.find?_eq_none.mp found unmet (List.mem_append_right _ List.mem_cons_self)
      simp [failed] at none_
  | some first =>
      obtain ⟨failed, before, after, split, early⟩ := List.find?_eq_some_iff_append.mp found
      have met : ∀ condition ∈ before, condition.met = true := fun condition member => by simpa using early condition member
      constructor
      · intro reported
        exact ⟨before, first, after, split, met, by simpa using failed, Except.error.inj reported⟩
      · rintro ⟨others, unmet, rest, isSplit, metOthers, failedToo, rfl⟩
        have sameFound : conditions.find? (fun condition => !condition.met) = some unmet := by
          rw [isSplit]
          refine List.find?_eq_some_iff_append.mpr ⟨by simp [failedToo], others, rest, rfl, fun condition member => ?_⟩
          simp [metOthers condition member]
        rw [found] at sameFound
        rw [Option.some.inj sameFound]

theorem report_cons (condition : Condition R) (conditions : List (Condition R)) :
    report (condition :: conditions) = if condition.met then report conditions else .error condition.error := by
  unfold report
  cases met : condition.met with
  | true => simp [met]
  | false => simp [met]

theorem report_append (first second : List (Condition R)) :
    report (first ++ second) = report first >>= fun _ => report second := by
  induction first with
  | nil => rfl
  | cons condition rest ih =>
      rw [List.cons_append, report_cons, report_cons, ih]
      split
      · rfl
      · rfl

theorem inTurn_met_iff {A : Type} (own : A → List (Condition R)) (id : A → String) (earlier : List String)
    (items : List A) : (∀ condition ∈ inTurn own id earlier items, condition.met = true) ↔
      (∀ item ∈ items, ∀ condition ∈ own item, condition.met = true) ∧ (items.map id).Nodup ∧
        ∀ item ∈ items, id item ∉ earlier := by
  induction items generalizing earlier with
  | nil => simp [inTurn]
  | cons item rest ih =>
      have others : (∀ other ∈ rest, id other ∉ earlier ++ [id item]) ↔
          (∀ other ∈ rest, id other ∉ earlier) ∧ id item ∉ rest.map id := by
        simp only [List.mem_append, List.mem_singleton, not_or, List.mem_map, not_exists, not_and]
        exact forall₂_and
      simp only [inTurn, List.forall_mem_append, List.forall_mem_cons, ih, others, decide_eq_true_eq, List.map_cons,
        List.nodup_cons]
      tauto

end Condition

open Condition (report report_append report_cons)

theorem validate_id_reports (id : String) : validateId (R := R) id = report (idConditions id) := by
  unfold validateId idConditions
  rw [report_cons, report_cons]
  by_cases empty : id = ""
  · simp [empty]
  · by_cases reserved : id = systemName
    · simp [reserved]
    · simp [empty, reserved]
      rfl

section

variable [Scalar R]

theorem validate_axis_reports (spec : AxisSpec R) : spec.validate = report spec.conditions := by
  rw [AxisSpec.validate, AxisSpec.conditions, report_append, ← validate_id_reports, report_cons, report_cons]
  cases validateId (R := R) spec.id with
  | error error => rfl
  | ok _ =>
      by_cases range : spec.min < spec.max
      · by_cases speed : Scalar.zero < spec.maxSpeed
        · simp only [range, speed, decide_true, if_true]
          cases spec.contact with
          | none => rfl
          | some contact =>
              rw [Option.toList_some, List.map_singleton, report_cons]
              simp [validateContact]
              rfl
        · simp only [range, speed, decide_true, decide_false, if_true, if_false]
          rfl
      · simp only [range, decide_false, if_false]
        rfl

theorem validate_axes_report (axes : List (AxisSpec R)) (seen earlier : List String)
    (same : ∀ id, id ∈ seen ↔ id ∈ earlier) :
    validateAxes seen axes = report (Condition.inTurn AxisSpec.conditions AxisSpec.id earlier axes) >>= fun _ =>
      .ok ((axes.map AxisSpec.id).reverse ++ seen) := by
  induction axes generalizing seen earlier with
  | nil => rfl
  | cons spec rest ih =>
      rw [validateAxes, Condition.inTurn, report_append, ← validate_axis_reports, report_cons]
      cases spec.validate with
      | error error => rfl
      | ok _ =>
          by_cases shared : spec.id ∈ seen
          · have known := (same spec.id).mp shared
            simp [shared, known]
            rfl
          · have fresh := mt (same spec.id).mpr shared
            have next : ∀ id, id ∈ spec.id :: seen ↔ id ∈ earlier ++ [spec.id] := fun id => by
              rw [List.mem_cons, List.mem_append, List.mem_singleton, same, or_comm]
            simp [shared, fresh, ih _ _ next]

end

theorem validate_actuators_report (actuators : List ActuatorSpec) (seen earlier : List String)
    (same : ∀ id, id ∈ seen ↔ id ∈ earlier) : validateActuators (R := R) seen actuators =
      report (Condition.inTurn (fun spec => idConditions spec.id) ActuatorSpec.id earlier actuators) := by
  induction actuators generalizing seen earlier with
  | nil => rfl
  | cons spec rest ih =>
      rw [validateActuators, Condition.inTurn, report_append, ← validate_id_reports, report_cons]
      cases validateId (R := R) spec.id with
      | error error => rfl
      | ok _ =>
          by_cases shared : spec.id ∈ seen
          · have known := (same spec.id).mp shared
            simp [shared, known]
            rfl
          · have fresh := mt (same spec.id).mpr shared
            have next : ∀ id, id ∈ spec.id :: seen ↔ id ∈ earlier ++ [spec.id] := fun id => by
              rw [List.mem_cons, List.mem_append, List.mem_singleton, same, or_comm]
            simp [shared, fresh, ih _ _ next]

namespace Machine

theorem validate_reports [Scalar R] (machine : Machine R) : machine.validate = report machine.conditions := by
  have seen : ∀ id, id ∈ (machine.axes.map AxisSpec.id).reverse ++ [] ↔ id ∈ machine.axes.map AxisSpec.id := by simp
  rw [validate, conditions, report_cons, report_append, validate_axes_report machine.axes [] [] fun _ => Iff.rfl]
  by_cases crowded : maxDevices < machine.axes.length + machine.actuators.length
  · rw [if_pos crowded, if_neg (by simpa using crowded)]
    rfl
  · rw [if_neg crowded, if_pos (by simpa using crowded)]
    cases report (Condition.inTurn AxisSpec.conditions AxisSpec.id [] machine.axes) with
    | error error => rfl
    | ok _ => exact validate_actuators_report machine.actuators _ _ seen

theorem id_conditions_met (id : String) :
    (∀ condition ∈ idConditions (R := R) id, condition.met = true) ↔ id ≠ "" ∧ id ≠ systemName := by
  simp [idConditions]

theorem axis_conditions_met [Scalar R] (spec : AxisSpec R) :
    (∀ condition ∈ spec.conditions, condition.met = true) ↔ (spec.id ≠ "" ∧ spec.id ≠ systemName) ∧
      spec.min < spec.max ∧ Scalar.zero < spec.maxSpeed ∧
        ∀ contact, spec.contact = some contact → Scalar.zero < contact.stiffness := by
  rw [AxisSpec.conditions, List.forall_mem_append, id_conditions_met, List.forall_mem_cons, List.forall_mem_cons]
  simp

end Machine

theorem AxisSpec.valid_iff [Scalar R] (spec : AxisSpec R) : spec.validate = .ok () ↔
    (spec.id ≠ "" ∧ spec.id ≠ systemName) ∧ spec.min < spec.max ∧ Scalar.zero < spec.maxSpeed ∧
      ∀ contact, spec.contact = some contact → Scalar.zero < contact.stiffness :=
  validate_axis_reports spec ▸ (Condition.report_ok_iff spec.conditions).trans (Machine.axis_conditions_met spec)

namespace Machine

theorem conditions_met [Scalar R] (machine : Machine R) :
    (∀ condition ∈ machine.conditions, condition.met = true) ↔
      machine.axes.length + machine.actuators.length ≤ maxDevices ∧
        (∀ id ∈ machine.ids, id ≠ "" ∧ id ≠ systemName) ∧ machine.ids.Nodup ∧
        ∀ spec ∈ machine.axes, spec.min < spec.max ∧ Scalar.zero < spec.maxSpeed ∧
          ∀ contact, spec.contact = some contact → Scalar.zero < contact.stiffness := by
  have apart : (∀ spec ∈ machine.actuators, spec.id ∉ machine.axes.map AxisSpec.id) ↔
      (machine.axes.map AxisSpec.id).Disjoint (machine.actuators.map ActuatorSpec.id) := by
    rw [List.disjoint_comm, List.Disjoint, List.forall_mem_map]
  simp only [conditions, List.forall_mem_cons, List.forall_mem_append, Condition.inTurn_met_iff, axis_conditions_met,
    id_conditions_met, ids, List.nodup_append', List.forall_mem_map, apart, decide_eq_true_eq, List.not_mem_nil,
    not_false_eq_true, implies_true, and_true]
  constructor
  · rintro ⟨count, ⟨axes, axisIds⟩, actuators, actuatorIds, disjoint⟩
    exact ⟨count, ⟨fun spec member => (axes spec member).1, actuators⟩, ⟨axisIds, actuatorIds, disjoint⟩,
      fun spec member => (axes spec member).2⟩
  · rintro ⟨count, ⟨axes, actuators⟩, ⟨axisIds, actuatorIds, disjoint⟩, ranges⟩
    exact ⟨count, ⟨fun spec member => ⟨axes spec member, ranges spec member⟩, axisIds⟩, actuators, actuatorIds, disjoint⟩

theorem valid_iff [Scalar R] (machine : Machine R) : machine.validate = .ok () ↔
    machine.axes.length + machine.actuators.length ≤ maxDevices ∧
      (∀ id ∈ machine.ids, id ≠ "" ∧ id ≠ systemName) ∧ machine.ids.Nodup ∧
      ∀ spec ∈ machine.axes, spec.min < spec.max ∧ Scalar.zero < spec.maxSpeed ∧
        ∀ contact, spec.contact = some contact → Scalar.zero < contact.stiffness :=
  machine.validate_reports ▸ (Condition.report_ok_iff machine.conditions).trans machine.conditions_met

-- Where ids are distinct a search by id finds the one record that has it.
theorem find_by_id {A : Type} (id : A → String) (items : List A) (distinct : (items.map id).Nodup) (name : String)
    (item : A) : (items.find? fun other => id other == name) = some item ↔ item ∈ items ∧ id item = name := by
  constructor
  · intro found
    exact ⟨List.mem_of_find?_eq_some found, by simpa using List.find?_some found⟩
  · rintro ⟨member, named⟩
    cases found : items.find? fun other => id other == name with
    | none => simpa [named] using List.find?_eq_none.mp found item member
    | some other =>
        have otherNamed : id other = name := by simpa using List.find?_some found
        rw [List.inj_on_of_nodup_map distinct (List.mem_of_find?_eq_some found) member (otherNamed.trans named.symm)]

theorem kind_known_iff (machine : Machine R) (id : String) : (machine.kind? id).isSome = true ↔ id ∈ machine.ids := by
  have axis : (machine.axis? id).isSome = true ↔ id ∈ machine.axes.map AxisSpec.id := by simp [axis?]
  have actuator : (machine.actuator? id).isSome = true ↔ id ∈ machine.actuators.map ActuatorSpec.id := by simp [actuator?]
  rw [ids, List.mem_append, ← axis, ← actuator, kind?]
  cases machine.axis? id with
  | some spec => simp
  | none => simp

end Machine

/-- Checking a machine tells whether it is fit. It is when there are not too many devices, their ids are given, free and
distinct, and each axis has a range, a speed and, where it probes, a stiffness above zero; where it is not, the report is of
the first condition that is not met, in the order of declaration. In a machine that is fit an id is that of one record at
most, and looking it up among axes, among actuators or for its kind finds that record. -/
theorem machines_are_checked_in_order [Scalar R] (machine : Machine R) :
    (machine.validate = .ok () ↔ machine.axes.length + machine.actuators.length ≤ maxDevices ∧
      (∀ id ∈ machine.ids, id ≠ "" ∧ id ≠ systemName) ∧ machine.ids.Nodup ∧
      ∀ spec ∈ machine.axes, spec.min < spec.max ∧ Scalar.zero < spec.maxSpeed ∧
        ∀ contact, spec.contact = some contact → Scalar.zero < contact.stiffness) ∧
    (∀ error, machine.validate = .error error ↔ ∃ before unmet after,
      machine.conditions = before ++ unmet :: after ∧ (∀ condition ∈ before, condition.met = true) ∧
        unmet.met = false ∧ unmet.error = error) ∧
    (machine.validate = .ok () → ∀ id,
      ¬ ((machine.axis? id).isSome = true ∧ (machine.actuator? id).isSome = true) ∧
      (∀ spec, machine.axis? id = some spec ↔ spec ∈ machine.axes ∧ spec.id = id) ∧
      (∀ spec, machine.actuator? id = some spec ↔ spec ∈ machine.actuators ∧ spec.id = id) ∧
      ((machine.kind? id).isSome = true ↔ id ∈ machine.ids) ∧ (id ∈ machine.ids → machine.ids.count id = 1)) := by
  refine ⟨machine.valid_iff, fun error => ?_, fun valid id => ?_⟩
  · rw [machine.validate_reports]
    exact Condition.report_error_iff machine.conditions error
  obtain ⟨-, -, distinct, -⟩ := machine.valid_iff.mp valid
  have own := List.nodup_append'.mp distinct
  have axis := Machine.find_by_id AxisSpec.id machine.axes own.1 id
  have actuator := Machine.find_by_id ActuatorSpec.id machine.actuators own.2.1 id
  refine ⟨?_, axis, actuator, machine.kind_known_iff id, fun member => List.count_eq_one_of_mem distinct member⟩
  rintro ⟨first, second⟩
  obtain ⟨spec, isAxis⟩ := Option.isSome_iff_exists.mp first
  obtain ⟨other, isActuator⟩ := Option.isSome_iff_exists.mp second
  obtain ⟨member, named⟩ := (axis spec).mp isAxis
  obtain ⟨memberToo, namedToo⟩ := (actuator other).mp isActuator
  exact own.2.2 (List.mem_map.mpr ⟨spec, member, named⟩) (List.mem_map.mpr ⟨other, memberToo, namedToo⟩)

def probingStand : Machine Rat :=
  ⟨"stand", [.new "slide" 0 100, ⟨"probe", 0, 1, -5, 5, 10, none, some ⟨0, 2⟩⟩], [.new "gripper" .cylinder 200]⟩

theorem probing_stand_is_checked :
    probingStand.validate = .ok () ∧ probingStand.ids.count "gripper" = 1 ∧
      (probingStand.kind? "gripper").isSome = true ∧ ¬ (probingStand.axis? "gripper").isSome = true := by
  have valid : probingStand.validate = .ok () := rfl
  obtain ⟨-, -, found⟩ := machines_are_checked_in_order probingStand
  obtain ⟨apart, -, -, known, once⟩ := found valid "gripper"
  have declared : "gripper" ∈ probingStand.ids := by decide
  exact ⟨valid, once declared, known.mpr declared, fun isAxis => apart ⟨isAxis, rfl⟩⟩

-- An axis without a name and without a range, before an actuator of a reserved name.
example : (⟨"", [.new "" 1 0], [.new "System" .vacuum 0]⟩ : Machine Rat).validate = .error .emptyId := rfl

end Workcell

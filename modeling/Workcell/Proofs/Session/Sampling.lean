import Workcell.Proofs.Action.Later
import Workcell.Proofs.Session.Chapters

/-!
What is around the flow of a run: at its beginning every declared device is made, and samples tell the events that are
queued and take them out of the queue. A sample that is to report everything gives a frame that does.
-/

set_option autoImplicit false

namespace Workcell

section

variable {R : Type}

namespace Cell

structure Stocked (machine : Machine R) (cell : Cell R) : Prop where
  axes : ∀ spec ∈ machine.axes, cell.axes.Has spec.id
  actuators : ∀ spec ∈ machine.actuators, cell.actuators.Has spec.id

theorem Stocked.later {machine : Machine R} {before after : Cell R} (stocked : before.Stocked machine)
    (later : Later before after) : after.Stocked machine :=
  ⟨fun spec member => later.axes _ (stocked.axes spec member),
    fun spec member => later.actuators _ (stocked.actuators spec member)⟩

end Cell

theorem has_of_found {D : Type} (bank : Bank D) (id : String) (entry : Nat × D) (found : bank.find? id = some entry) :
    bank.Has id := by
  obtain ⟨handle, registered, present⟩ := Option.bind_eq_some_iff.mp found
  obtain ⟨device, there, -⟩ := Option.map_eq_some_iff.mp present
  exact ⟨handle, device, registered, there⟩

variable [Scalar R]

theorem make_axis_has (spec : AxisSpec R) (cell after : Cell R) (found : Nat × Axis R)
    (made : makeAxis spec cell = (.ok found, after)) : after.axes.Has spec.id := by
  rw [makeAxis, Act.get_bind_apply] at made
  cases created : cell.driver.createAxis spec with
  | error error =>
      rw [created] at made
      cases made
  | ok axis =>
      rw [created] at made
      cases axis with
      | none => cases made
      | some axis =>
          cases made
          exact Bank.has_added _ _ _

theorem make_actuator_has (spec : ActuatorSpec) (cell after : Cell R) (found : Nat × Actuator R)
    (made : makeActuator spec cell = (.ok found, after)) : after.actuators.Has spec.id := by
  rw [makeActuator, Act.get_bind_apply] at made
  cases created : cell.driver.createActuator (R := R) spec with
  | error error =>
      rw [created] at made
      cases made
  | ok actuator =>
      rw [created] at made
      cases made
      exact Bank.has_added _ _ _

theorem find_axis_has (id : String) (cell after : Cell R) (found : Nat × Axis R)
    (finds : findAxis id cell = (.ok found, after)) : after.axes.Has id := by
  rw [findAxis, Act.get_bind_apply] at finds
  cases registered : cell.axes.find? id with
  | some entry =>
      rw [registered] at finds
      cases finds
      exact has_of_found _ _ _ registered
  | none =>
      rw [registered] at finds
      cases declared : cell.machine.axis? id with
      | none =>
          rw [declared] at finds
          cases finds
      | some spec =>
          rw [declared] at finds
          have same : spec.id = id := by simpa using List.find?_some declared
          exact same ▸ make_axis_has spec cell after found finds

theorem find_actuator_has (id : String) (cell after : Cell R) (found : Nat × Actuator R)
    (finds : findActuator id cell = (.ok found, after)) : after.actuators.Has id := by
  rw [findActuator, Act.get_bind_apply] at finds
  cases registered : cell.actuators.find? id with
  | some entry =>
      rw [registered] at finds
      cases finds
      exact has_of_found _ _ _ registered
  | none =>
      rw [registered] at finds
      cases declared : cell.machine.actuator? id with
      | none =>
          rw [declared] at finds
          cases finds
      | some spec =>
          rw [declared] at finds
          have same : spec.id = id := by simpa using List.find?_some declared
          exact same ▸ make_actuator_has spec cell after found finds

-- A loop that finds a device for every record leaves a device for every one of them.
theorem each_has {S D : Type} (records : List S) (find : S → Act R D) (has : S → Cell R → Prop)
    (finds : ∀ spec cell after found, find spec cell = (.ok found, after) → has spec after)
    (silent : ∀ spec, Act.Within Cell.Silent (find spec))
    (stays : ∀ spec before after, Cell.Silent before after → has spec before → has spec after)
    (cell after : Cell R) (done : PUnit)
    (isOver : (forIn records PUnit.unit fun spec _ => do
      let _ ← find spec
      pure (ForInStep.yield PUnit.unit) : Act R PUnit) cell = (.ok done, after)) :
    Cell.Silent cell after ∧ ∀ spec ∈ records, has spec after := by
  induction records generalizing cell with
  | nil =>
      cases isOver
      exact ⟨Cell.Silent.registers.refl _, fun _ member => nomatch member⟩
  | cons spec rest ih =>
      rw [List.forIn_cons] at isOver
      obtain ⟨step, between, first, later⟩ := Act.bind_ok _ _ _ _ _ isOver
      obtain ⟨found, here, result, yields⟩ := Act.bind_ok _ _ _ _ _ first
      cases yields
      have equipped : Cell.Silent cell between := by
        have kept := silent spec cell
        rw [result] at kept
        exact kept
      obtain ⟨more, others⟩ := ih between later
      refine ⟨Cell.Silent.registers.trans _ _ _ equipped more, ?_⟩
      intro other member
      rcases List.mem_cons.mp member with rfl | inside
      · exact stays other between after more (finds other cell between found result)
      · exact others other inside

-- When every declared device could be made, each of them is there, and nothing has been told.
theorem materialize_all_stocks (cell after : Cell R) (made : materializeAll cell = (.ok (), after)) :
    Cell.Silent cell after ∧ after.Stocked cell.machine := by
  rw [materializeAll, Act.get_bind_apply] at made
  obtain ⟨_, between, first, later⟩ := Act.bind_ok _ _ _ _ _ made
  obtain ⟨_, last, second, isOver⟩ := Act.bind_ok _ _ _ _ _ later
  cases isOver
  obtain ⟨axesMade, axes⟩ := each_has cell.machine.axes (fun spec => findAxis spec.id)
    (fun spec cell => cell.axes.Has spec.id) (fun spec => find_axis_has spec.id)
    (fun spec => Cell.Silent.registers.find_axis spec.id) (fun _ _ _ silent has => silent.axes _ has) cell between _ first
  obtain ⟨actuatorsMade, actuators⟩ := each_has cell.machine.actuators (fun spec => findActuator spec.id)
    (fun spec cell => cell.actuators.Has spec.id) (fun spec => find_actuator_has spec.id)
    (fun spec => Cell.Silent.registers.find_actuator spec.id) (fun _ _ _ silent has => silent.actuators _ has)
    between after _ second
  refine ⟨Cell.Silent.registers.trans _ _ _ axesMade actuatorsMade, ?_, actuators⟩
  exact fun spec member => actuatorsMade.axes _ (axes spec member)

end

variable {R : Type}

theorem lookup_in_order {A : Type} (name : String) (fields table : List (String × A))
    (named : name ∈ fields.map Prod.fst ∨ (table.lookup name).isSome = true) :
    ((fields.foldl (fun table field => Tree.insertField field.1 field.2 table) table).lookup name).isSome = true := by
  induction fields generalizing table with
  | nil => exact named.resolve_left List.not_mem_nil
  | cons field rest ih =>
      apply ih
      by_cases same : name = field.1
      · right
        rw [same, Tree.lookup_insert_self]
        rfl
      · rcases named with member | before
        · rcases List.mem_cons.mp member with first | later
          · exact absurd first same
          · exact Or.inl later
        · right
          rw [Tree.lookup_insert_other _ _ _ _ same]
          exact before

theorem registered_of_has {D : Type} (bank : Bank D) (id : String) (has : bank.Has id) :
    ∃ handle device, (id, handle, device) ∈ bank.registered := by
  obtain ⟨handle, device, found, present⟩ := has
  exact ⟨handle, device, (bank.mem_registered id handle device).mpr ⟨HandlerTable.mem_of_lookup id handle _ found, present⟩⟩

variable [Scalar R]

theorem axis_has_value (cell : Cell R) (id : String) (has : cell.axes.Has id) :
    ((Sampler.values cell).lookup id).isSome = true := by
  obtain ⟨handle, axis, member⟩ := registered_of_has cell.axes id has
  refine lookup_in_order id _ [] (Or.inl ?_)
  rw [List.map_append, List.map_map]
  exact List.mem_append_left _ (List.mem_map.mpr ⟨_, member, rfl⟩)

theorem actuator_has_value (cell : Cell R) (id : String) (has : cell.actuators.Has id) :
    ((Sampler.values cell).lookup id).isSome = true := by
  obtain ⟨handle, actuator, member⟩ := registered_of_has cell.actuators id has
  refine lookup_in_order id _ [] (Or.inl ?_)
  rw [List.map_append, List.map_map, List.map_map]
  exact List.mem_append_right _ (List.mem_map.mpr ⟨_, member, rfl⟩)

omit [Scalar R] in
theorem told_given (events : List (Event R)) : (Sampler.given events).getD [] = events := by
  cases events with
  | nil => rfl
  | cons event rest => rfl

omit [Scalar R] in
theorem lookup_given (values : List (String × R)) (id : String) (known : (values.lookup id).isSome = true) :
    ((Sampler.given values).bind fun values => values.lookup id).isSome = true := by
  cases values with
  | nil => exact known
  | cons entry rest => exact known

namespace Sampler

-- A sample takes the queued events out of the cell and tells them; what it was forced to report is done.
theorem sample_drains (sampler : Sampler R) (last : Nat) (cell : Cell R) :
    Frame.told (sampler.sample last cell).1.toList = cell.events ∧ (sampler.sample last cell).2.1.forced = false ∧
      (sampler.sample last cell).2.2.2 = { cell with events := [] } := by
  simp only [sample]
  generalize (if (sampler.readTraces cell.traces).forced = true ∨
    (sampler.readTraces cell.traces).revision ≠ some cell.materials.revision
    then some cell.materials.entries else none) = materials
  split
  · refine ⟨?_, rfl, rfl⟩
    simp only [Option.toList_some, Frame.told, List.flatMap_cons, List.flatMap_nil, List.append_nil]
    exact told_given cell.events
  · next nothing =>
    refine ⟨?_, rfl, rfl⟩
    simp only [Bool.or_eq_true, not_or, Bool.not_eq_true, Bool.not_eq_false', List.isEmpty_iff] at nothing
    exact nothing.2.1.2.symm

-- A forced sample gives a frame that shows every declared device that has been made, and the materials.
theorem sample_forced (sampler : Sampler R) (forced : sampler.forced = true) (last : Nat) (cell : Cell R)
    (machine : Machine R) (stocked : cell.Stocked machine) :
    ∃ frame, (sampler.sample last cell).1 = some frame ∧ frame.ShowsAll machine := by
  have isForced : (sampler.readTraces cell.traces).forced = true := forced
  have all : (values cell).filter (fun _ => true) = values cell := List.filter_eq_self.mpr fun _ _ => rfl
  simp only [sample, Cell.drainEvents, isForced, Bool.true_or, if_true, true_or, all]
  refine ⟨_, rfl, ?_, ?_, rfl⟩
  · exact fun spec member => lookup_given _ _ (axis_has_value cell spec.id (stocked.axes spec member))
  · exact fun spec member => lookup_given _ _ (actuator_has_value cell spec.id (stocked.actuators spec member))

end Sampler

end Workcell

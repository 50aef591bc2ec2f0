import Workcell.Cell.Motor
import Workcell.Proofs.Action.Intact
import Workcell.Proofs.Sturdy.Devices

/-!
Devices are made on demand, each of them once.

All work on a cell leaves the handles that devices are registered under as they are, and makes declared devices only: each
under an id that has none yet, in a slot of its own, and of the declared kind.
-/

set_option autoImplicit false

namespace Workcell

namespace Bank

variable {D : Type}

theorem find_iff (bank : Bank D) (id : String) (handle : Nat) (device : D) :
    bank.find? id = some (handle, device) ↔ bank.handle? id = some handle ∧ bank.get? handle = some device := by
  constructor
  · intro found
    obtain ⟨slot, registered, present⟩ := Option.bind_eq_some_iff.mp found
    obtain ⟨held, there, same⟩ := Option.map_eq_some_iff.mp present
    cases same
    exact ⟨registered, there⟩
  · rintro ⟨registered, there⟩
    rw [find?, registered, Option.bind_some, there, Option.map_some]

theorem found_iff (bank : Bank D) (id : String) :
    (bank.find? id).isSome = true ↔ ∃ handle, bank.handle? id = some handle ∧ handle < bank.slots.length := by
  rw [Option.isSome_iff_exists]
  constructor
  · rintro ⟨⟨handle, device⟩, found⟩
    obtain ⟨registered, there⟩ := (bank.find_iff id handle device).mp found
    exact ⟨handle, registered, (List.getElem?_eq_some_iff.mp there).1⟩
  · rintro ⟨handle, registered, inside⟩
    exact ⟨_, (bank.find_iff id handle bank.slots[handle]).mpr ⟨registered, List.getElem?_eq_getElem inside⟩⟩

-- Every id that is registered has its device.
def Housed (bank : Bank D) : Prop := ∀ id handle, bank.handle? id = some handle → handle < bank.slots.length

theorem housed_empty : (empty : Bank D).Housed := fun _ _ registered => nomatch registered

theorem housed_add (bank : Bank D) (housed : bank.Housed) (id : String) (device : D) : (bank.add id device).Housed := by
  intro other handle registered
  rw [add, List.length_append, List.length_singleton]
  by_cases same : other = id
  · subst same
    have own : (bank.add other device).handle? other = some bank.slots.length := Tree.lookup_insert_self other _ _
    rw [own] at registered
    cases registered
    exact Nat.lt_succ_self _
  · have before : (bank.add id device).handle? other = bank.handle? other := Tree.lookup_insert_other id other _ _ same
    exact Nat.lt_succ_of_lt (housed other handle (before.symm.trans registered))

-- Devices have been made for these ids, which had none, one after the other in the slots that came next. All other
-- ids are registered as they were.
structure Furnished (made : List String) (before after : Bank D) : Prop where
  once : made.Nodup
  fresh : ∀ id ∈ made, before.find? id = none
  slots : after.slots.length = before.slots.length + made.length
  handles : ∀ index id, made[index]? = some id → after.handle? id = some (before.slots.length + index)
  others : ∀ id, id ∉ made → after.handle? id = before.handle? id

namespace Furnished

variable {made more : List String} {before between after : Bank D}

theorem of_same (index : after.index = before.index) (slots : after.slots.length = before.slots.length) :
    Furnished [] before after where
  once := List.nodup_nil
  fresh _ member := nomatch member
  slots := slots
  handles _ _ found := nomatch found
  others _ _ := by rw [handle?, handle?, index]

theorem set (bank : Bank D) (handle : Nat) (device : D) : Furnished [] bank (bank.set handle device) :=
  of_same rfl (List.length_set ..)

theorem add (bank : Bank D) (id : String) (device : D) (fresh : bank.find? id = none) :
    Furnished [id] bank (bank.add id device) where
  once := List.nodup_singleton id
  fresh _ member := List.mem_singleton.mp member ▸ fresh
  slots := by rw [Bank.add, List.length_append, List.length_singleton, List.length_singleton]
  handles index other found := by
    cases index with
    | zero =>
        cases found
        exact Tree.lookup_insert_self id _ _
    | succ index => cases found
  others other outside := Tree.lookup_insert_other id other _ _ fun same => outside (List.mem_singleton.mpr same)

theorem handle_kept (furnished : Furnished made before after) (id : String) (handle : Nat) (device : D)
    (found : before.find? id = some (handle, device)) :
    after.handle? id = some handle ∧ handle < after.slots.length := by
  have outside : id ∉ made := fun member => by rw [furnished.fresh id member] at found; cases found
  obtain ⟨registered, there⟩ := (before.find_iff id handle device).mp found
  have inside : handle < before.slots.length := (List.getElem?_eq_some_iff.mp there).1
  refine ⟨(furnished.others id outside).trans registered, ?_⟩
  rw [furnished.slots]
  exact Nat.lt_add_right _ inside

theorem kept (furnished : Furnished made before after) (id : String) (handle : Nat) (device : D)
    (found : before.find? id = some (handle, device)) : ∃ later, after.find? id = some (handle, later) := by
  obtain ⟨registered, inside⟩ := furnished.handle_kept id handle device found
  exact ⟨_, (after.find_iff id handle after.slots[handle]).mpr ⟨registered, List.getElem?_eq_getElem inside⟩⟩

theorem made_found (furnished : Furnished made before after) (id : String) (member : id ∈ made) :
    (after.find? id).isSome = true := by
  obtain ⟨index, inside, isAt⟩ := List.getElem_of_mem member
  refine (after.found_iff id).mpr ⟨_, furnished.handles index id (List.getElem?_eq_some_iff.mpr ⟨inside, isAt⟩), ?_⟩
  rw [furnished.slots]
  exact Nat.add_lt_add_left inside _

theorem known_iff (furnished : Furnished made before after) (housed : before.Housed) (id : String) :
    (after.find? id).isSome = true ↔ id ∈ made ∨ (before.find? id).isSome = true := by
  constructor
  · intro known
    by_cases member : id ∈ made
    · exact Or.inl member
    · obtain ⟨handle, registered, -⟩ := (after.found_iff id).mp known
      rw [furnished.others id member] at registered
      exact Or.inr ((before.found_iff id).mpr ⟨handle, registered, housed id handle registered⟩)
  · rintro (member | known)
    · exact furnished.made_found id member
    · obtain ⟨⟨handle, device⟩, found⟩ := Option.isSome_iff_exists.mp known
      obtain ⟨later, still⟩ := furnished.kept id handle device found
      rw [still]
      rfl

theorem trans (first : Furnished made before between) (second : Furnished more between after) :
    Furnished (made ++ more) before after where
  once := by
    refine List.nodup_append.mpr ⟨first.once, second.once, ?_⟩
    rintro id member other memberToo rfl
    have known := first.made_found id member
    rw [second.fresh id memberToo] at known
    cases known
  fresh id member := by
    rcases List.mem_append.mp member with early | late
    · exact first.fresh id early
    · -- What had a device before would have it still.
      refine Option.eq_none_iff_forall_not_mem.mpr fun ⟨handle, device⟩ found => ?_
      obtain ⟨later, still⟩ := first.kept id handle device found
      rw [second.fresh id late] at still
      cases still
  slots := by rw [second.slots, first.slots, List.length_append, Nat.add_assoc]
  handles index id found := by
    by_cases early : index < made.length
    · rw [List.getElem?_append_left early] at found
      have outside : id ∉ more := fun member => by
        have known := first.made_found id (List.mem_of_getElem? found)
        rw [second.fresh id member] at known
        cases known
      rw [second.others id outside, first.handles index id found]
    · rw [List.getElem?_append_right (Nat.le_of_not_lt early)] at found
      rw [second.handles _ id found, first.slots, Nat.add_assoc, Nat.add_sub_cancel' (Nat.le_of_not_lt early)]
  others id outside := by
    rw [second.others id fun member => outside (List.mem_append_right _ member),
      first.others id fun member => outside (List.mem_append_left _ member)]

end Furnished

end Bank

variable {R : Type}

-- What has become of the devices of a cell: declared ones have been made for these ids, and no actuator is of another
-- kind than it was.
structure Cell.Furnished (madeAxes madeActuators : List String) (before after : Cell R) : Prop where
  machine : after.machine = before.machine
  driver : after.driver = before.driver
  axes : Bank.Furnished madeAxes before.axes after.axes
  actuators : Bank.Furnished madeActuators before.actuators after.actuators
  declaredAxes : ∀ id ∈ madeAxes, (before.machine.axis? id).isSome = true
  declaredActuators : ∀ id ∈ madeActuators, ∃ spec handle actuator, before.machine.actuator? id = some spec ∧
    after.actuators.find? id = some (handle, actuator) ∧ actuator.spec.kind = spec.kind
  kinds : ∀ handle actuator, before.actuators.get? handle = some actuator →
    ∃ later, after.actuators.get? handle = some later ∧ later.spec.kind = actuator.spec.kind

def Cell.Supplied (before after : Cell R) : Prop := ∃ axes actuators, Cell.Furnished axes actuators before after

namespace Cell.Furnished

variable {axes actuators moreAxes moreActuators : List String} {before between after : Cell R}

theorem actuator_kept (furnished : Furnished axes actuators before after) (id : String) (handle : Nat)
    (actuator : Actuator R) (found : before.actuators.find? id = some (handle, actuator)) :
    ∃ later, after.actuators.find? id = some (handle, later) ∧ later.spec.kind = actuator.spec.kind := by
  obtain ⟨later, there, same⟩ := furnished.kinds handle actuator ((before.actuators.find_iff id handle actuator).mp found).2
  have registered := (furnished.actuators.handle_kept id handle actuator found).1
  exact ⟨later, (after.actuators.find_iff id handle later).mpr ⟨registered, there⟩, same⟩

theorem trans (first : Furnished axes actuators before between) (second : Furnished moreAxes moreActuators between after) :
    Furnished (axes ++ moreAxes) (actuators ++ moreActuators) before after where
  machine := second.machine.trans first.machine
  driver := second.driver.trans first.driver
  axes := first.axes.trans second.axes
  actuators := first.actuators.trans second.actuators
  declaredAxes id member := by
    rcases List.mem_append.mp member with early | late
    · exact first.declaredAxes id early
    · exact first.machine ▸ second.declaredAxes id late
  declaredActuators id member := by
    rcases List.mem_append.mp member with early | late
    · obtain ⟨spec, handle, actuator, declared, found, same⟩ := first.declaredActuators id early
      obtain ⟨later, still, kind⟩ := second.actuator_kept id handle actuator found
      exact ⟨spec, handle, later, declared, still, kind.trans same⟩
    · exact first.machine ▸ second.declaredActuators id late
  kinds handle actuator there := by
    obtain ⟨mid, midThere, midSame⟩ := first.kinds handle actuator there
    obtain ⟨last, lastThere, lastSame⟩ := second.kinds handle mid midThere
    exact ⟨last, lastThere, lastSame.trans midSame⟩

end Cell.Furnished

namespace Cell.Supplied

theorem refl (cell : Cell R) : Supplied cell cell :=
  ⟨[], [], rfl, rfl, .of_same rfl rfl, .of_same rfl rfl, nofun, nofun, fun _ actuator there => ⟨actuator, there, rfl⟩⟩

theorem trans (first second third : Cell R) (before : Supplied first second) (after : Supplied second third) :
    Supplied first third := by
  obtain ⟨axes, actuators, furnished⟩ := before
  obtain ⟨moreAxes, moreActuators, furnishedMore⟩ := after
  exact ⟨_, _, furnished.trans furnishedMore⟩

-- Work that touches no device.
theorem of_same (before after : Cell R) (machine : after.machine = before.machine) (driver : after.driver = before.driver)
    (axes : after.axes = before.axes) (actuators : after.actuators = before.actuators) : Supplied before after :=
  ⟨[], [], machine, driver, axes ▸ .of_same rfl rfl, actuators ▸ .of_same rfl rfl, nofun, nofun,
    fun _ actuator there => ⟨actuator, actuators ▸ there, rfl⟩⟩

theorem effect (cell : Cell R) (asked : Effect R) : Supplied cell (cell.effect asked) := of_same _ _ rfl rfl rfl rfl

theorem set_axis (cell : Cell R) (handle : Nat) (axis : Axis R) :
    Supplied cell { cell with axes := cell.axes.set handle axis } :=
  ⟨[], [], rfl, rfl, .set _ _ _, .of_same rfl rfl, nofun, nofun, fun _ actuator there => ⟨actuator, there, rfl⟩⟩

theorem set_actuator (cell : Cell R) (handle : Nat) (before after : Actuator R)
    (there : cell.actuators.get? handle = some before) (same : after.spec.kind = before.spec.kind) :
    Supplied cell { cell with actuators := cell.actuators.set handle after } := by
  refine ⟨[], [], rfl, rfl, .of_same rfl rfl, .set _ _ _, nofun, nofun, fun slot actuator found => ?_⟩
  by_cases own : handle = slot
  · subst own
    cases found.symm.trans there
    have inside := (List.getElem?_eq_some_iff.mp there).1
    exact ⟨after, by rw [Bank.get?, Bank.set, List.getElem?_set_self inside], same⟩
  · exact ⟨actuator, by rw [Bank.get?, Bank.set, List.getElem?_set_ne own]; exact found, rfl⟩

theorem put_axis (cell : Cell R) (handle : Nat) (before after : Axis R) :
    Supplied cell (cell.putAxis handle before after) := by
  have placed := set_axis cell handle after
  unfold Cell.putAxis
  split
  · exact placed
  · exact placed.trans _ _ _ (effect _ _)

theorem put_actuator (cell : Cell R) (handle : Nat) (before after : Actuator R)
    (there : cell.actuators.get? handle = some before) (same : after.spec.kind = before.spec.kind) :
    Supplied cell (cell.putActuator handle before after) := by
  have placed := set_actuator cell handle before after there same
  unfold Cell.putActuator
  split
  · exact placed
  · exact placed.trans _ _ _ (effect _ _)

theorem stop_axis (cell : Cell R) (handle : Nat) : Supplied cell (cell.stopAxis handle) := by
  unfold Cell.stopAxis
  split
  · exact put_axis cell handle _ _
  · exact refl cell

theorem stop_actuator (cell : Cell R) (handle : Nat) : Supplied cell (cell.stopActuator handle) := by
  unfold Cell.stopActuator
  split
  · next actuator there => exact put_actuator cell handle actuator _ there (congrArg _ actuator.stop_spec)
  · exact refl cell

variable [Scalar R]

omit [Scalar R] in
theorem add_axis (cell : Cell R) (spec : AxisSpec R) (axis : Axis R) (declared : cell.machine.axis? spec.id = some spec)
    (fresh : cell.axes.find? spec.id = none) : Supplied cell { cell with axes := cell.axes.add spec.id axis } := by
  refine ⟨[spec.id], [], rfl, rfl, .add _ _ _ fresh, .of_same rfl rfl, fun id member => ?_, nofun,
    fun _ actuator there => ⟨actuator, there, rfl⟩⟩
  rw [List.mem_singleton.mp member, declared]
  rfl

theorem add_actuator (cell : Cell R) (spec : ActuatorSpec) (actuator : Actuator R)
    (declared : cell.machine.actuator? spec.id = some spec) (fresh : cell.actuators.find? spec.id = none)
    (made : cell.driver.createActuator spec = .ok actuator) :
    Supplied cell { cell with actuators := cell.actuators.add spec.id actuator } := by
  obtain ⟨tick, -, rfl⟩ := Act.created_actuator _ spec actuator made
  refine ⟨[], [spec.id], rfl, rfl, .of_same rfl rfl, .add _ _ _ fresh, nofun, fun id member => ?_,
    fun handle before there => ⟨before, ?_, rfl⟩⟩
  · rw [List.mem_singleton.mp member]
    refine ⟨spec, cell.actuators.slots.length, .new spec tick, declared, (Bank.find_iff ..).mpr ⟨?_, ?_⟩, rfl⟩
    · exact Tree.lookup_insert_self spec.id _ _
    · simp [Bank.get?, Bank.add]
  · exact (List.getElem?_append_left (List.getElem?_eq_some_iff.mp there).1).trans there

theorem basis : Basis (R := R) Supplied where
  refl := refl
  trans := trans
  timer _ _ := of_same _ _ rfl rfl rfl rfl
  assign _ _ _ := of_same _ _ rfl rfl rfl rfl
  ids _ _ := of_same _ _ rfl rfl rfl rfl
  put _ _ _ := of_same _ _ rfl rfl rfl rfl
  take _ _ := of_same _ _ rfl rfl rfl rfl
  event _ _ _ := of_same _ _ rfl rfl rfl rfl
  addAxis cell spec axis declared fresh _ := add_axis cell spec axis declared fresh
  addActuator := add_actuator
  stopAxis := stop_axis
  stopActuator := stop_actuator

end Cell.Supplied

end Workcell

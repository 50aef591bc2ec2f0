import Workcell.Proofs.Action.Later
import Workcell.Proofs.Bank
import Workcell.Proofs.Drift.Cells
import Workcell.Proofs.Upkeep.Life

/-!
Devices go onwards: whatever is done to a cell leaves its devices in the generations that they are of or begins later
ones, and what it sets going is of a generation that has begun. Once all devices have been stopped, whatever was set going
before is past.
-/

set_option autoImplicit false

namespace Workcell

variable {R : Type}

namespace Bank

variable {D : Type} {generation : D → Nat}

-- Every device is the one that some id stands for, so nothing is left out when all that are registered are stopped.
def Enrolled (bank : Bank D) : Prop := ∀ handle device, bank.get? handle = some device → ∃ id, bank.handle? id = some handle

-- The devices of before are there still, and none has fallen back to an earlier generation.
structure Onwards (generation : D → Nat) (before after : Bank D) : Prop where
  enrolled : before.Enrolled → after.Enrolled
  devices : ∀ handle device, before.get? handle = some device →
    ∃ later, after.get? handle = some later ∧ generation device ≤ generation later

theorem Onwards.refl (bank : Bank D) : Onwards generation bank bank :=
  ⟨id, fun _ device there => ⟨device, there, Nat.le_refl _⟩⟩

theorem Onwards.trans {first second third : Bank D} (before : Onwards generation first second)
    (after : Onwards generation second third) : Onwards generation first third := by
  refine ⟨fun enrolled => after.enrolled (before.enrolled enrolled), fun handle device there => ?_⟩
  obtain ⟨between, found, less⟩ := before.devices handle device there
  obtain ⟨later, last, lessToo⟩ := after.devices handle between found
  exact ⟨later, last, Nat.le_trans less lessToo⟩

theorem set_onwards {bank : Bank D} {handle : Nat} {old : D} (there : bank.get? handle = some old) (device : D)
    (later : generation old ≤ generation device) : Onwards generation bank (bank.set handle device) := by
  refine ⟨fun enrolled slot found present => ?_, fun slot other found => ?_⟩
  · rcases get_of_set bank handle slot device found present with ⟨rfl, -⟩ | ⟨-, before⟩
    · exact enrolled slot old there
    · exact enrolled slot found before
  · by_cases same : slot = handle
    · subst same
      obtain rfl : old = other := Option.some.inj (there.symm.trans found)
      exact ⟨device, get_set there device, later⟩
    · refine ⟨other, ?_, Nat.le_refl _⟩
      simpa [get?, set, List.getElem?_set_ne (Ne.symm same)] using found

-- An id that has no device yet leaves all others as they were registered.
theorem add_onwards (bank : Bank D) (id : String) (device : D) (fresh : bank.find? id = none) :
    Onwards generation bank (bank.add id device) := by
  refine ⟨fun enrolled handle found present => ?_, fun handle other found => ⟨other, ?_, Nat.le_refl _⟩⟩
  · by_cases inside : handle < bank.slots.length
    · have before : bank.get? handle = some found := (List.getElem?_append_left inside).symm.trans present
      obtain ⟨name, registered⟩ := enrolled handle found before
      refine ⟨name, (Tree.lookup_insert_other id name _ _ ?_).trans registered⟩
      rintro rfl
      rw [find?, registered, Option.bind_some, before] at fresh
      cases fresh
    · have last : handle < bank.slots.length + 1 := by
        have bound := (List.getElem?_eq_some_iff.mp present).1
        simpa [add] using bound
      obtain rfl : handle = bank.slots.length := by omega
      exact ⟨id, Tree.lookup_insert_self id _ _⟩
  · exact (List.getElem?_append_left (List.getElem?_eq_some_iff.mp found).1).trans found

end Bank

namespace Drive

def Begun (cell : Cell R) : Drive R → Prop
  | .axis handle motion => ∃ axis, cell.axes.get? handle = some axis ∧ motion.generation ≤ axis.generation
  | .actuator handle stroke _ =>
      ∃ actuator, cell.actuators.get? handle = some actuator ∧ stroke.generation ≤ actuator.generation

-- The device is there, and a later generation than that of the drive has begun.
def Past (cell : Cell R) : Drive R → Prop
  | .axis handle motion => ∃ axis, cell.axes.get? handle = some axis ∧ motion.generation < axis.generation
  | .actuator handle stroke _ =>
      ∃ actuator, cell.actuators.get? handle = some actuator ∧ stroke.generation < actuator.generation

end Drive

-- What may be asked of the scheduler in a cell: to carry out what has begun, and to tell what concerns the cell.
def Effect.Backed (cell : Cell R) : Effect R → Prop
  | .motion handle way => (Drive.axis handle way).Begun cell
  | .stroke handle way => (Drive.actuator handle way 0).Begun cell
  | .signal sent => sent.isInner = true
  | .again _ => True
  | .rest _ => True

structure Cell.Onwards (before after : Cell R) : Prop where
  axes : Bank.Onwards Axis.generation before.axes after.axes
  actuators : Bank.Onwards Actuator.generation before.actuators after.actuators
  asked : ∀ effect ∈ after.outbox, effect ∈ before.outbox ∨ effect.Backed after

theorem Drive.Begun.onwards {before after : Cell R} {drive : Drive R} (begun : drive.Begun before)
    (onwards : Cell.Onwards before after) : drive.Begun after := by
  cases drive with
  | axis handle motion =>
      obtain ⟨axis, there, least⟩ := begun
      obtain ⟨later, found, less⟩ := onwards.axes.devices handle axis there
      exact ⟨later, found, Nat.le_trans least less⟩
  | actuator handle stroke began =>
      obtain ⟨actuator, there, least⟩ := begun
      obtain ⟨later, found, less⟩ := onwards.actuators.devices handle actuator there
      exact ⟨later, found, Nat.le_trans least less⟩

theorem Drive.Past.onwards {before after : Cell R} {drive : Drive R} (past : drive.Past before)
    (onwards : Cell.Onwards before after) : drive.Past after := by
  cases drive with
  | axis handle motion =>
      obtain ⟨axis, there, before⟩ := past
      obtain ⟨later, found, less⟩ := onwards.axes.devices handle axis there
      exact ⟨later, found, Nat.lt_of_lt_of_le before less⟩
  | actuator handle stroke began =>
      obtain ⟨actuator, there, before⟩ := past
      obtain ⟨later, found, less⟩ := onwards.actuators.devices handle actuator there
      exact ⟨later, found, Nat.lt_of_lt_of_le before less⟩

theorem Effect.Backed.onwards {before after : Cell R} {asked : Effect R} (backed : asked.Backed before)
    (onwards : Cell.Onwards before after) : asked.Backed after := by
  cases asked with
  | motion handle way => exact (show (Drive.axis handle way).Begun before from backed).onwards onwards
  | stroke handle way => exact (show (Drive.actuator handle way 0).Begun before from backed).onwards onwards
  | signal sent => exact backed
  | again key => trivial
  | rest key => trivial

namespace Cell.Onwards

theorem refl (cell : Cell R) : Onwards cell cell := ⟨.refl _, .refl _, fun _ member => Or.inl member⟩

theorem trans (first second third : Cell R) (before : Onwards first second) (after : Onwards second third) :
    Onwards first third := by
  refine ⟨before.axes.trans after.axes, before.actuators.trans after.actuators, fun effect member => ?_⟩
  rcases after.asked effect member with earlier | now
  · exact (before.asked effect earlier).imp_right fun backed => backed.onwards after
  · exact Or.inr now

theorem of_same {before after : Cell R} (axes : after.axes = before.axes) (actuators : after.actuators = before.actuators)
    (outbox : after.outbox = before.outbox) : Onwards before after :=
  ⟨axes ▸ .refl _, actuators ▸ .refl _, fun _ member => Or.inl (outbox ▸ member)⟩

theorem effect (cell : Cell R) (asked : Effect R) (backed : asked.Backed cell) : Onwards cell (cell.effect asked) := by
  refine ⟨.refl _, .refl _, fun other member => ?_⟩
  rcases List.mem_append.mp member with before | last
  · exact Or.inl before
  · rw [List.mem_singleton.mp last]
    right
    cases asked with
    | motion handle way => exact backed
    | stroke handle way => exact backed
    | signal sent => exact backed
    | again key => trivial
    | rest key => trivial

theorem put_axis (cell : Cell R) (handle : Nat) (old moved shown : Axis R) (there : cell.axes.get? handle = some old)
    (later : old.generation ≤ moved.generation) : Onwards cell (cell.putAxis handle shown moved) := by
  have put : Onwards cell { cell with axes := cell.axes.set handle moved } :=
    ⟨Bank.set_onwards there moved later, .refl _, fun _ member => Or.inl member⟩
  unfold Cell.putAxis
  dsimp only
  split
  · exact put
  · exact .trans _ _ _ put (.effect _ (.signal (.axis handle)) rfl)

theorem put_actuator (cell : Cell R) (handle : Nat) (old moved shown : Actuator R)
    (there : cell.actuators.get? handle = some old) (later : old.generation ≤ moved.generation) :
    Onwards cell (cell.putActuator handle shown moved) := by
  have put : Onwards cell { cell with actuators := cell.actuators.set handle moved } :=
    ⟨.refl _, Bank.set_onwards there moved later, fun _ member => Or.inl member⟩
  unfold Cell.putActuator
  dsimp only
  split
  · exact put
  · exact .trans _ _ _ put (.effect _ (.signal (.actuator handle)) rfl)

end Cell.Onwards

theorem Axis.stop_generation (axis : Axis R) : axis.stop.generation = axis.generation + 1 := by
  unfold Axis.stop
  split <;> rfl

theorem Actuator.stop_generation (actuator : Actuator R) : actuator.stop.generation = actuator.generation + 1 := by
  unfold Actuator.stop
  dsimp only
  split <;> rfl

namespace Cell.Onwards

theorem stop_axis (cell : Cell R) (handle : Nat) : Onwards cell (cell.stopAxis handle) := by
  unfold Cell.stopAxis
  cases there : cell.axes.get? handle with
  | none => exact refl cell
  | some axis => exact put_axis cell handle axis axis.stop axis there (axis.stop_generation ▸ Nat.le_succ _)

theorem stop_actuator (cell : Cell R) (handle : Nat) : Onwards cell (cell.stopActuator handle) := by
  unfold Cell.stopActuator
  cases there : cell.actuators.get? handle with
  | none => exact refl cell
  | some actuator =>
      exact put_actuator cell handle actuator actuator.stop actuator there (actuator.stop_generation ▸ Nat.le_succ _)

theorem cancel (cell : Cell R) : Onwards cell cell.cancel := by
  unfold Cell.cancel
  split
  · exact refl cell
  · exact .trans _ { cell with cancelled := true } _ (of_same rfl rfl rfl) (.effect _ (.signal .cancelled) rfl)

variable [Scalar R]

theorem registers : Cell.Registers (R := R) Onwards where
  refl := refl
  trans := trans
  addAxis cell spec axis _ fresh _ :=
    ⟨Bank.add_onwards cell.axes spec.id axis fresh, .refl _, fun _ member => Or.inl member⟩
  addActuator cell spec actuator _ fresh _ :=
    ⟨.refl _, Bank.add_onwards cell.actuators spec.id actuator fresh, fun _ member => Or.inl member⟩

theorem basis : Cell.Basis (R := R) Onwards where
  toRegisters := registers
  timer _ _ := of_same rfl rfl rfl
  assign _ _ _ := of_same rfl rfl rfl
  stopAxis := stop_axis
  stopActuator := stop_actuator
  ids _ _ := of_same rfl rfl rfl
  put _ _ _ := of_same rfl rfl rfl
  take _ _ := of_same rfl rfl rfl
  event _ _ _ := of_same rfl rfl rfl

end Cell.Onwards

variable [Scalar R]

theorem Axis.command_generation (axis : Axis R) (target : R) (speed : Option R) (homing : Bool) :
    (axis.command target speed homing).2.2.generation = axis.generation + 1 ∧
      ∀ motion, (axis.command target speed homing).2.1 = some motion → motion.generation = axis.generation + 1 := by
  simp only [Axis.command]
  split
  · exact ⟨rfl, nofun⟩
  · refine ⟨rfl, fun motion begun => ?_⟩
    cases begun
    rfl

theorem Actuator.fire_generation (actuator : Actuator R) (on : Bool) :
    (actuator.fire on).2.generation = actuator.generation + 1 ∧
      ∀ stroke, (actuator.fire on).1 = some stroke → stroke.generation = actuator.generation + 1 := by
  simp only [Actuator.fire]
  split
  · exact ⟨rfl, nofun⟩
  · refine ⟨rfl, fun stroke begun => ?_⟩
    cases begun
    rfl

namespace Action

open Cell

-- The axis that has been found is the one in its slot.
theorem found_axis_there (device : String) (cell after : Cell R) (handle : Nat) (axis : Axis R)
    (finds : findAxis device cell = (.ok (handle, axis), after)) : after.axes.get? handle = some axis := by
  rw [findAxis, Act.get_bind_apply] at finds
  cases known : cell.axes.find? device with
  | some entry =>
      rw [known] at finds
      cases finds
      obtain ⟨slot, -, there⟩ := Option.bind_eq_some_iff.mp known
      obtain ⟨found, present, same⟩ := Option.map_eq_some_iff.mp there
      cases same
      exact present
  | none =>
      rw [known] at finds
      cases declared : cell.machine.axis? device with
      | none =>
          rw [declared] at finds
          cases finds
      | some spec =>
          rw [declared] at finds
          simp only [makeAxis, Act.get_bind_apply] at finds
          cases made : cell.driver.createAxis spec with
          | error error =>
              rw [made] at finds
              cases finds
          | ok axis =>
              rw [made] at finds
              cases axis with
              | none => cases finds
              | some axis =>
                  cases finds
                  simp [Bank.get?, Bank.add]

theorem found_actuator_there (device : String) (cell after : Cell R) (handle : Nat) (actuator : Actuator R)
    (finds : findActuator device cell = (.ok (handle, actuator), after)) : after.actuators.get? handle = some actuator := by
  rw [findActuator, Act.get_bind_apply] at finds
  cases known : cell.actuators.find? device with
  | some entry =>
      rw [known] at finds
      cases finds
      obtain ⟨slot, -, there⟩ := Option.bind_eq_some_iff.mp known
      obtain ⟨found, present, same⟩ := Option.map_eq_some_iff.mp there
      cases same
      exact present
  | none =>
      rw [known] at finds
      cases declared : cell.machine.actuator? device with
      | none =>
          rw [declared] at finds
          cases finds
      | some spec =>
          rw [declared] at finds
          simp only [makeActuator, Act.get_bind_apply] at finds
          cases made : cell.driver.createActuator (R := R) spec with
          | error error =>
              rw [made] at finds
              cases finds
          | ok actuator =>
              rw [made] at finds
              cases finds
              simp [Bank.get?, Bank.add]

theorem with_axis_onwards {B : Type} (device : String) (next : Nat × Axis R → Act R B)
    (onwards : ∀ found cell, cell.axes.get? found.1 = some found.2 → Onwards cell (next found cell).2) :
    Act.Within Onwards (findAxis device >>= next) := by
  intro cell
  have before := Onwards.registers.find_axis device cell
  rw [Act.bind_apply]
  rcases finds : findAxis device cell with ⟨outcome, after⟩
  rw [finds] at before
  cases outcome with
  | ok found => exact before.trans _ _ _ (onwards found after (found_axis_there device cell after found.1 found.2 finds))
  | error failure => exact before

theorem with_actuator_onwards {B : Type} (device : String) (next : Nat × Actuator R → Act R B)
    (onwards : ∀ found cell, cell.actuators.get? found.1 = some found.2 → Onwards cell (next found cell).2) :
    Act.Within Onwards (findActuator device >>= next) := by
  intro cell
  have before := Onwards.registers.find_actuator device cell
  rw [Act.bind_apply]
  rcases finds : findActuator device cell with ⟨outcome, after⟩
  rw [finds] at before
  cases outcome with
  | ok found => exact before.trans _ _ _ (onwards found after (found_actuator_there device cell after found.1 found.2 finds))
  | error failure => exact before

omit [Scalar R] in
-- Reading an argument leaves the cell as it is.
theorem read_onwards {A B : Type} (cell : Cell R) (read : Except Fault A) (next : A → Act R B)
    (onwards : ∀ a, Onwards cell (next a cell).2) : Onwards cell ((Act.ofExcept read >>= next) cell).2 := by
  rw [Act.bind_apply]
  cases read with
  | ok a => exact onwards a
  | error fault => exact .refl cell

omit [Scalar R] in
theorem then_onwards {A B : Type} (cell : Cell R) (act : Act R A) (next : A → Act R B) (first : Onwards cell (act cell).2)
    (second : ∀ a, Act.Within Onwards (next a)) : Onwards cell ((act >>= next) cell).2 := by
  rw [Act.bind_apply]
  rcases result : act cell with ⟨outcome, after⟩
  rw [result] at first
  cases outcome with
  | ok a => exact first.trans _ _ _ (second a after)
  | error failure => exact first

theorem command_axis_onwards (cell : Cell R) (handle : Nat) (axis : Axis R) (there : cell.axes.get? handle = some axis)
    (target : R) (speed : Option R) (homing : Bool) : Onwards cell (commandAxis handle axis target speed homing cell).2 := by
  rw [commandAxis, Act.get_bind_apply]
  by_cases live : cell.live = true
  · rw [if_pos live]
    have generations := axis.command_generation target speed homing
    generalize axis.command target speed homing = commanded at generations ⊢
    obtain ⟨reached, motion, moved⟩ := commanded
    obtain ⟨later, bears⟩ := generations
    dsimp only at later bears
    have put := Onwards.put_axis cell handle axis moved axis there (later ▸ Nat.le_succ _)
    cases motion with
    | none => exact put
    | some motion =>
        refine put.trans _ _ _ (.effect _ (.motion handle motion) ⟨moved, ?_, ?_⟩)
        · unfold Cell.putAxis
          dsimp only
          split <;> exact Bank.get_set there moved
        · exact Nat.le_of_eq ((bears motion rfl).trans later.symm)
  · rw [if_neg live]
    exact .refl cell

theorem fire_actuator_onwards (cell : Cell R) (handle : Nat) (actuator : Actuator R)
    (there : cell.actuators.get? handle = some actuator) (on : Bool) :
    Onwards cell (fireActuator handle actuator on cell).2 := by
  rw [fireActuator, Act.get_bind_apply]
  have generations := actuator.fire_generation on
  generalize actuator.fire on = outcome at generations ⊢
  obtain ⟨stroke, fired⟩ := outcome
  obtain ⟨later, bears⟩ := generations
  dsimp only at later bears
  have put := Onwards.put_actuator cell handle actuator fired actuator there (later ▸ Nat.le_succ _)
  cases stroke with
  | none => exact put
  | some stroke =>
      by_cases live : cell.live = true
      · simp only [if_pos live]
        refine put.trans _ _ _ (.effect _ (.stroke handle stroke) ⟨fired, ?_, ?_⟩)
        · unfold Cell.putActuator
          dsimp only
          split <;> exact Bank.get_set there fired
        · exact Nat.le_of_eq ((bears stroke rfl).trans later.symm)
      · simp only [if_neg live]
        exact .refl cell

theorem move_axis_onwards (cell : Cell R) (handle : Nat) (axis : Axis R) (there : cell.axes.get? handle = some axis)
    (target : R) (speed : Option R) : Onwards cell (moveAxis handle axis target speed cell).2 := by
  unfold moveAxis
  cases axis.accepts target with
  | error error => exact .refl cell
  | ok done => exact command_axis_onwards cell handle axis there target speed false

theorem move_onwards (call : Call R) : Act.Within Onwards (Motion.command call) := by
  refine with_axis_onwards call.device _ fun found cell there => ?_
  refine read_onwards cell _ _ fun target => read_onwards cell _ _ fun speed => ?_
  exact then_onwards cell _ _ (move_axis_onwards cell found.1 found.2 there target speed) fun _ =>
    Act.within_pure Onwards.refl _

theorem move_until_onwards (call : Call R) : Act.Within Onwards (Motion.moveUntil call) := by
  refine with_axis_onwards call.device _ fun found cell there => ?_
  refine read_onwards cell _ _ fun target => read_onwards cell _ _ fun threshold => read_onwards cell _ _ fun speed => ?_
  cases found.2.process? with
  | none => exact .refl cell
  | some value =>
    refine then_onwards cell _ _ (move_axis_onwards cell found.1 found.2 there target speed) fun _ => ?_
    refine Act.within_bind Onwards.trans _ _ (Act.within_get Onwards.refl) fun later => ?_
    dsimp only
    split
    · exact collapse_within Onwards.basis.toFooting found.1 _
    · split
      · exact collapse_within Onwards.basis.toFooting found.1 _
      · exact Act.within_change (fun cell => cell.lookProbe found.1 threshold (cell.instant + call.bound later)) fun cell =>
          Onwards.basis.look_probe cell found.1 threshold _

theorem motion_onwards (operation : Operation) (handler : Handler R) (member : (operation, handler) ∈ HandlerTable.motions)
    (call : Call R) : Act.Within Onwards (handler call) := by
  simp only [HandlerTable.motions, List.mem_cons, Prod.mk.injEq, List.not_mem_nil, or_false] at member
  rcases member with ⟨-, rfl⟩ | ⟨-, rfl⟩ | ⟨-, rfl⟩ | ⟨-, rfl⟩ | ⟨-, rfl⟩ | ⟨-, rfl⟩
  · exact Act.within_bind Onwards.trans _ _ (move_onwards call) fun _ => Act.within_pure Onwards.refl _
  · exact Act.within_bind Onwards.trans _ _ (move_onwards call) fun commanded =>
      await_idle_within Onwards.basis.toFooting call commanded.1
  · exact move_until_onwards call
  · refine with_axis_onwards call.device _ fun found cell there => ?_
    exact then_onwards cell _ _ (command_axis_onwards cell found.1 found.2 there _ none true) fun _ =>
      await_idle_within Onwards.basis.toFooting call found.1
  · exact stop_axis_within Onwards.basis.toFooting call
  · exact read_axis_within Onwards.basis.toFooting call

theorem switch_onwards (call : Call R) : Act.Within Onwards (Switching.command call) := by
  refine with_actuator_onwards call.device _ fun found cell there => read_onwards cell _ _ fun on => ?_
  exact then_onwards cell _ _ (fire_actuator_onwards cell found.1 found.2 there on) fun _ => Act.within_pure Onwards.refl _

theorem switching_onwards (operation : Operation) (handler : Handler R)
    (member : (operation, handler) ∈ HandlerTable.switchings) (call : Call R) : Act.Within Onwards (handler call) := by
  simp only [HandlerTable.switchings, List.mem_cons, Prod.mk.injEq, List.not_mem_nil, or_false] at member
  rcases member with ⟨-, rfl⟩ | ⟨-, rfl⟩ | ⟨-, rfl⟩ | ⟨-, rfl⟩ | ⟨-, rfl⟩
  · exact Act.within_bind Onwards.trans _ _ (switch_onwards call) fun _ => Act.within_pure Onwards.refl _
  · refine Act.within_bind Onwards.trans _ _ (switch_onwards call) fun commanded => ?_
    exact Act.within_change _ fun cell => Onwards.basis.await_settled commanded.1 commanded.2 (call.bound cell) cell
  · exact wait_for_within Onwards.basis.toFooting call
  · exact stop_actuator_within Onwards.basis.toFooting call
  · exact read_actuator_within Onwards.basis.toFooting call

end Action

def HandlerTable.Onwards (handlers : HandlerTable R) : Prop :=
  ∀ cell call handler, handlers.resolve cell call = .ok handler → Act.Within Cell.Onwards (handler call)

theorem HandlerTable.standard_onwards : (standard (R := R)).Onwards := by
  intro cell call handler resolved
  rcases standard_handler cell call handler resolved with motion | switching | service
  · exact Action.motion_onwards call.operation handler motion call
  · exact Action.switching_onwards call.operation handler switching call
  · exact Action.service_within Cell.Onwards.basis call.operation handler service call

end Workcell

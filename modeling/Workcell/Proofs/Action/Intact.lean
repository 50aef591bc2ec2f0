import Workcell.Proofs.Action.Within
import Workcell.Proofs.Bank
import Workcell.Proofs.Exact
import Workcell.Run.Resume

/-!
An action that ends in a fault of its own has changed nothing.

Every handler reads all its arguments and looks everything up before it changes the cell, and what it does from then on
does not fail. The one thing that may have happened before is that the device it is addressed to has been made.
-/

set_option autoImplicit false

namespace Workcell

variable {R : Type}

-- At most the declared device of a name has been made, and stands as devices do that have just been made.
inductive Cell.Made [Scalar R] (id : String) (before : Cell R) : Cell R → Prop where
  | nothing : Made id before before
  | axis (spec : AxisSpec R) (tick : Duration) (axis : Axis R) (declared : before.machine.axis? id = some spec)
      (fresh : before.axes.find? id = none) (simulated : before.driver = .simulation tick)
      (parked : Axis.new? spec tick = some axis) :
      Made id before { before with axes := before.axes.add id (axis.withContact spec.contact) }
  | actuator (spec : ActuatorSpec) (tick : Duration) (declared : before.machine.actuator? id = some spec)
      (fresh : before.actuators.find? id = none) (simulated : before.driver = .simulation tick) :
      Made id before { before with actuators := before.actuators.add id (.new spec tick) }

-- Whatever is not a device is the same, and so is every device that is registered.
structure Cell.Intact (before after : Cell R) : Prop where
  bindings : after.bindings = before.bindings
  materials : after.materials = before.materials
  events : after.events = before.events
  ids : after.ids = before.ids
  axes : ∀ id handle axis, before.axes.find? id = some (handle, axis) → after.axes.find? id = some (handle, axis)
  actuators : ∀ id handle actuator, before.actuators.find? id = some (handle, actuator) →
    after.actuators.find? id = some (handle, actuator)

namespace Bank

variable {D : Type}

theorem find_of_added (bank : Bank D) (id : String) (device : D) (fresh : bank.find? id = none) (other : String)
    (handle : Nat) (found : D) (known : bank.find? other = some (handle, found)) :
    (bank.add id device).find? other = some (handle, found) := by
  have different : other ≠ id := by
    rintro rfl
    rw [fresh] at known
    cases known
  obtain ⟨slot, registered, present⟩ := Option.bind_eq_some_iff.mp known
  obtain ⟨same, there, isFound⟩ := Option.map_eq_some_iff.mp present
  cases isFound
  have registeredStill : (bank.add id device).handle? other = some handle :=
    (Tree.lookup_insert_other id other _ _ different).trans registered
  have presentStill : (bank.add id device).get? handle = some found :=
    (List.getElem?_append_left (List.getElem?_eq_some_iff.mp there).1).trans there
  rw [find?, registeredStill, Option.bind_some, presentStill]
  rfl

end Bank

theorem Cell.Made.intact [Scalar R] {id : String} {before after : Cell R} (made : Cell.Made id before after) :
    Cell.Intact before after := by
  cases made with
  | nothing => exact ⟨rfl, rfl, rfl, rfl, fun _ _ _ known => known, fun _ _ _ known => known⟩
  | axis spec tick axis declared fresh simulated parked =>
      exact ⟨rfl, rfl, rfl, rfl, fun other handle found known => Bank.find_of_added _ id _ fresh other handle found known,
        fun _ _ _ known => known⟩
  | actuator spec tick declared fresh simulated =>
      exact ⟨rfl, rfl, rfl, rfl, fun _ _ _ known => known,
        fun other handle found known => Bank.find_of_added _ id _ fresh other handle found known⟩

namespace Act

variable {A B : Type}

def Atomic (act : Act R A) : Prop := ∀ cell fault after, act cell = (.error (.fault fault), after) → after = cell

abbrev Sure (act : Act R A) : Prop := act.Fails fun failure => ∃ message, failure = .panic message

theorem atomic_of_sure (act : Act R A) (sure : act.Sure) : act.Atomic := by
  intro cell fault after failed
  obtain ⟨message, broken⟩ := sure cell (.fault fault) (by rw [failed])
  cases broken

theorem atomic_fail (fault : Fault) : Atomic (fail fault : Act R A) := by
  intro cell other after failed
  cases failed
  rfl

theorem atomic_get_bind (next : Cell R → Act R A) (later : ∀ cell, Atomic (next cell)) : Atomic (get >>= next) := by
  intro cell fault after failed
  rw [get_bind_apply] at failed
  exact later cell cell fault after failed

theorem atomic_read_bind (result : Except Fault A) (next : A → Act R B) (later : ∀ a, Atomic (next a)) :
    Atomic (ofExcept result >>= next) := by
  intro cell fault after failed
  rw [bind_apply] at failed
  cases result with
  | ok a => exact later a cell fault after failed
  | error reason =>
      cases failed
      rfl

theorem atomic_bind (act : Act R A) (next : A → Act R B) (first : Atomic act) (later : ∀ a, Sure (next a)) :
    Atomic (act >>= next) := by
  intro cell fault after failed
  rw [bind_apply] at failed
  rcases result : act cell with ⟨outcome, between⟩
  rw [result] at failed
  cases outcome with
  | ok a =>
      obtain ⟨message, broken⟩ := later a between (.fault fault) (congrArg Prod.fst failed)
      cases broken
  | error failure =>
      cases failed
      exact first cell fault after result

def Harmless [Scalar R] (id : String) (act : Act R A) : Prop :=
  ∀ cell fault after, act cell = (.error (.fault fault), after) → Cell.Made id cell after

theorem Atomic.harmless [Scalar R] {act : Act R A} (atomic : act.Atomic) (id : String) : act.Harmless id := by
  intro cell fault after failed
  rw [atomic cell fault after failed]
  exact .nothing

end Act

def Act.Seeks {A : Type} [Scalar R] (id : String) (act : Act R A) : Prop :=
  act.Atomic ∧ ∀ cell a after, act cell = (.ok a, after) → Cell.Made id cell after

variable [Scalar R] {A B : Type}

namespace Act

theorem Seeks.bind {id : String} {act : Act R A} (seeks : act.Seeks id) (next : A → Act R B)
    (later : ∀ a, Atomic (next a)) : Harmless id (act >>= next) := by
  intro cell fault after failed
  rw [bind_apply] at failed
  rcases result : act cell with ⟨outcome, between⟩
  rw [result] at failed
  cases outcome with
  | ok a =>
      rw [later a between fault after failed]
      exact seeks.2 cell a between result
  | error failure =>
      cases failed
      rw [seeks.1 cell fault after result]
      exact .nothing

theorem created_axis (driver : Driver) (spec : AxisSpec R) (axis : Axis R)
    (created : driver.createAxis spec = .ok (some axis)) :
    ∃ tick parked, driver = .simulation tick ∧ Axis.new? spec tick = some parked ∧
    axis = parked.withContact spec.contact := by
  cases driver with
  | absent => cases created
  | simulation tick =>
      obtain ⟨parked, isParked, same⟩ := Option.map_eq_some_iff.mp (Except.ok.inj created)
      exact ⟨tick, parked, rfl, isParked, same.symm⟩

theorem created_actuator (driver : Driver) (spec : ActuatorSpec) (actuator : Actuator R)
    (created : driver.createActuator spec = .ok actuator) :
    ∃ tick, driver = .simulation tick ∧ actuator = .new spec tick := by
  cases driver with
  | absent => cases created
  | simulation tick => exact ⟨tick, rfl, (Except.ok.inj created).symm⟩

theorem find_axis_seeks (id : String) : Seeks id (findAxis (R := R) id) := by
  constructor
  · refine atomic_get_bind _ fun cell => ?_
    split
    · exact atomic_of_sure _ (fails_pure _)
    · split
      · refine atomic_get_bind _ fun cell => ?_
        split
        · exact atomic_fail _
        · exact atomic_of_sure _ (fails_panic _ ⟨_, rfl⟩)
        · exact atomic_of_sure _ (fails_bind _ _ (fun _ _ failed => nomatch failed) fun _ => fails_pure _)
      · exact atomic_fail _
  · intro cell found after yields
    unfold findAxis at yields
    rw [get_bind_apply] at yields
    cases known : cell.axes.find? id with
    | some entry =>
        simp only [known] at yields
        cases yields
        exact .nothing
    | none =>
        cases declared : cell.machine.axis? id with
        | none =>
            simp only [known, declared] at yields
            cases yields
        | some spec =>
            have named : spec.id = id := by simpa using List.find?_some declared
            simp only [known, declared] at yields
            unfold makeAxis at yields
            rw [get_bind_apply] at yields
            cases created : cell.driver.createAxis spec with
            | error reason =>
                simp only [created] at yields
                cases yields
            | ok made =>
                cases made with
                | none =>
                    simp only [created] at yields
                    cases yields
                | some axis =>
                    obtain ⟨tick, parked, simulated, isParked, rfl⟩ := created_axis _ spec axis created
                    simp only [created] at yields
                    cases yields
                    rw [named]
                    exact .axis spec tick parked declared known simulated isParked

theorem find_actuator_seeks (id : String) : Seeks id (findActuator (R := R) id) := by
  constructor
  · refine atomic_get_bind _ fun cell => ?_
    split
    · exact atomic_of_sure _ (fails_pure _)
    · split
      · refine atomic_get_bind _ fun cell => ?_
        split
        · exact atomic_fail _
        · exact atomic_of_sure _ (fails_bind _ _ (fun _ _ failed => nomatch failed) fun _ => fails_pure _)
      · exact atomic_fail _
  · intro cell found after yields
    unfold findActuator at yields
    rw [get_bind_apply] at yields
    cases known : cell.actuators.find? id with
    | some entry =>
        simp only [known] at yields
        cases yields
        exact .nothing
    | none =>
        cases declared : cell.machine.actuator? id with
        | none =>
            simp only [known, declared] at yields
            cases yields
        | some spec =>
            have named : spec.id = id := by simpa using List.find?_some declared
            simp only [known, declared] at yields
            unfold makeActuator at yields
            rw [get_bind_apply] at yields
            cases created : cell.driver.createActuator (R := R) spec with
            | error reason =>
                simp only [created] at yields
                cases yields
            | ok actuator =>
                obtain ⟨tick, simulated, rfl⟩ := created_actuator _ spec actuator created
                simp only [created] at yields
                cases yields
                rw [named]
                exact .actuator spec tick declared known simulated

-- The work of a command is all done in one go, once it is known that it can be done.
theorem command_axis_atomic (handle : Nat) (axis : Axis R) (target : R) (speed : Option R) (homing : Bool) :
    Atomic (commandAxis handle axis target speed homing) := by
  refine atomic_get_bind _ fun cell => ?_
  split
  · exact atomic_of_sure _ (fails_bind _ _ (fun _ _ failed => nomatch failed) fun _ => fails_pure _)
  · exact atomic_fail _

theorem move_axis_atomic (handle : Nat) (axis : Axis R) (target : R) (speed : Option R) :
    Atomic (moveAxis handle axis target speed) := by
  unfold moveAxis
  split
  · exact atomic_fail _
  · exact command_axis_atomic handle axis target speed false

theorem fire_actuator_atomic (handle : Nat) (actuator : Actuator R) (on : Bool) :
    Atomic (fireActuator handle actuator on) := by
  refine atomic_get_bind _ fun cell => ?_
  dsimp only
  split
  · exact atomic_of_sure _ (fails_bind _ _ (fun _ _ failed => nomatch failed) fun _ => fails_pure _)
  · split
    · exact atomic_of_sure _ (fails_bind _ _ (fun _ _ failed => nomatch failed) fun _ => fails_pure _)
    · exact atomic_fail _

theorem motion_harmless (operation : Operation) (handler : Handler R)
    (member : (operation, handler) ∈ HandlerTable.motions) (call : Call R) : Harmless call.device (handler call) := by
  have seeks := find_axis_seeks (R := R) call.device
  have collapses : ∀ handle message, Sure (Action.Motion.collapse (R := R) handle message) := fun handle message =>
    fails_bind _ _ (fails_tell _) fun _ => fails_panic message ⟨_, rfl⟩
  -- A move is commanded when its arguments have been read, and what follows the command does not fail.
  have moves : ∀ follow : Nat × R → Act R (Reply R), (∀ sent, Sure (follow sent)) →
      Harmless call.device (Action.Motion.command call >>= follow) := by
    intro follow sure
    simp only [Action.Motion.command, bind_assoc]
    refine seeks.bind _ fun found => atomic_read_bind _ _ fun target => atomic_read_bind _ _ fun speed => ?_
    exact atomic_bind _ _ (move_axis_atomic found.1 found.2 target speed) fun _ =>
      fails_bind _ _ (fails_pure _) fun _ => sure _
  simp only [HandlerTable.motions, List.mem_cons, Prod.mk.injEq, List.not_mem_nil, or_false] at member
  rcases member with ⟨-, rfl⟩ | ⟨-, rfl⟩ | ⟨-, rfl⟩ | ⟨-, rfl⟩ | ⟨-, rfl⟩ | ⟨-, rfl⟩
  · exact moves _ fun _ => fails_pure _
  · exact moves _ fun _ => fails_change _
  · refine seeks.bind _ fun found => atomic_read_bind _ _ fun target => atomic_read_bind _ _ fun threshold =>
      atomic_read_bind _ _ fun speed => ?_
    split
    · exact atomic_fail _
    · refine atomic_bind _ _ (move_axis_atomic found.1 found.2 target speed) fun _ => fails_bind _ _ fails_get fun cell => ?_
      dsimp only
      split
      · exact collapses _ _
      · split
        · exact collapses _ _
        · exact fails_change _
  · exact seeks.bind _ fun found => atomic_bind _ _ (command_axis_atomic found.1 found.2 _ none true) fun _ => fails_change _
  · exact seeks.bind _ fun found => atomic_of_sure _ (fails_bind _ _ (fails_tell _) fun _ => fails_pure _)
  · exact seeks.bind _ fun _ => atomic_of_sure _ (fails_pure _)

theorem switching_harmless (operation : Operation) (handler : Handler R)
    (member : (operation, handler) ∈ HandlerTable.switchings) (call : Call R) : Harmless call.device (handler call) := by
  have seeks := find_actuator_seeks (R := R) call.device
  have fires : ∀ follow : Nat × Bool → Act R (Reply R), (∀ sent, Sure (follow sent)) →
      Harmless call.device (Action.Switching.command call >>= follow) := by
    intro follow sure
    simp only [Action.Switching.command, bind_assoc]
    refine seeks.bind _ fun found => atomic_read_bind _ _ fun on => ?_
    exact atomic_bind _ _ (fire_actuator_atomic found.1 found.2 on) fun _ => fails_bind _ _ (fails_pure _) fun _ => sure _
  simp only [HandlerTable.switchings, List.mem_cons, Prod.mk.injEq, List.not_mem_nil, or_false] at member
  rcases member with ⟨-, rfl⟩ | ⟨-, rfl⟩ | ⟨-, rfl⟩ | ⟨-, rfl⟩ | ⟨-, rfl⟩
  · exact fires _ fun _ => fails_pure _
  · exact fires _ fun _ => fails_change _
  · exact seeks.bind _ fun found => atomic_read_bind _ _ fun _ => atomic_of_sure _ (fails_change _)
  · exact seeks.bind _ fun _ => atomic_of_sure _ (fails_change _)
  · exact seeks.bind _ fun _ => atomic_of_sure _ (fails_pure _)

omit [Scalar R] in
-- An empty station is left as it is.
theorem take_atomic (station : String) : Atomic (Action.Stock.take (R := R) station) := by
  intro cell fault after failed
  unfold Action.Stock.take at failed
  rw [bind_apply] at failed
  cases there : cell.materials.at? station with
  | some material =>
      simp only [change, Cell.takeMaterial, MaterialTable.take, there] at failed
      cases failed
  | none =>
      simp only [change, Cell.takeMaterial, MaterialTable.take, there] at failed
      cases failed
      rfl

theorem service_atomic (operation : Operation) (handler : Handler R)
    (member : (operation, handler) ∈ HandlerTable.services) (call : Call R) : Atomic (handler call) := by
  have told : ∀ (f : Cell R → Cell R) (value : Value R), Sure (tell f >>= fun _ => yield value) := fun f value =>
    fails_bind _ _ (fails_tell _) fun _ => fails_pure _
  simp only [HandlerTable.services, List.mem_cons, Prod.mk.injEq, List.not_mem_nil, or_false] at member
  rcases member with ⟨-, rfl⟩ | ⟨-, rfl⟩ | ⟨-, rfl⟩ | ⟨-, rfl⟩ | ⟨-, rfl⟩ | ⟨-, rfl⟩ | ⟨-, rfl⟩ | ⟨-, rfl⟩ |
    ⟨-, rfl⟩ | ⟨-, rfl⟩ | ⟨-, rfl⟩ | ⟨-, rfl⟩ | ⟨-, rfl⟩
  · exact atomic_read_bind _ _ fun _ => atomic_of_sure _ (fails_change _)
  · exact atomic_read_bind _ _ fun _ => atomic_fail _
  · exact atomic_of_sure _ (fails_pure _)
  · refine atomic_read_bind _ _ fun name => atomic_get_bind _ fun cell => ?_
    split
    · exact atomic_of_sure _ (fails_pure _)
    · split
      · exact atomic_read_bind _ _ fun _ => atomic_of_sure _ (fails_pure _)
      · exact atomic_fail _
  · exact atomic_read_bind _ _ fun _ => atomic_of_sure _ (fails_pure _)
  · exact atomic_read_bind _ _ fun name => atomic_read_bind _ _ fun value => atomic_of_sure _ (told _ _)
  · refine atomic_read_bind _ _ fun station => atomic_read_bind _ _ fun className => atomic_of_sure _ ?_
    exact fails_bind _ _ (fails_change _) fun _ => told _ _
  · refine atomic_read_bind _ _ fun station => atomic_read_bind _ _ fun className => atomic_get_bind _ fun cell => ?_
    split
    · exact atomic_fail _
    · exact atomic_of_sure _ (told _ _)
  · exact atomic_read_bind _ _ fun station => atomic_bind _ _ (take_atomic station) fun _ => told _ _
  · refine atomic_read_bind _ _ fun station => atomic_read_bind _ _ fun id => atomic_read_bind _ _ fun className => ?_
    exact atomic_of_sure _ (told _ _)
  · refine atomic_read_bind _ _ fun station => atomic_of_sure _ (fails_bind _ _ (fails_change _) fun material => ?_)
    split
    · exact fails_pure _
    · exact fails_pure _
  · exact atomic_read_bind _ _ fun holder => atomic_read_bind _ _ fun source =>
      atomic_bind _ _ (take_atomic source) fun _ => told _ _
  · exact atomic_read_bind _ _ fun holder => atomic_read_bind _ _ fun target =>
      atomic_bind _ _ (take_atomic holder) fun _ => told _ _

end Act

theorem HandlerTable.standard_harmless (port : Port) (handler : Handler R)
    (member : (port, handler) ∈ HandlerTable.standard.entries) (call : Call R) :
    Act.Harmless call.device (handler call) := by
  have sorted : ∀ sort handlers, (port, handler) ∈ on (R := R) sort handlers →
      ∃ operation, (operation, handler) ∈ handlers := by
    intro sort handlers inside
    obtain ⟨entry, present, same⟩ := List.mem_map.mp inside
    cases same
    exact ⟨entry.1, present⟩
  simp only [standard, List.mem_append] at member
  rcases member with ((motion | cylinder) | vacuum) | service
  · obtain ⟨operation, listed⟩ := sorted _ _ motion
    exact Act.motion_harmless operation handler listed call
  · obtain ⟨operation, listed⟩ := sorted _ _ cylinder
    exact Act.switching_harmless operation handler listed call
  · obtain ⟨operation, listed⟩ := sorted _ _ vacuum
    exact Act.switching_harmless operation handler listed call
  · obtain ⟨operation, listed⟩ := sorted _ _ service
    exact (Act.service_atomic operation handler listed call).harmless call.device

-- What an action has come to, and the cell that it has left, since it began in a cell: while it waits, others change
-- the cell as they like.
inductive Call.Comes (handlers : HandlerTable R) (call : Call R) (begun : Cell R) : Progress R → Cell R → Prop where
  | first : Comes handlers call begun (Poll.perform handlers call begun).1 (Poll.perform handlers call begun).2
  | later {key wait left} (before : Comes handlers call begun (.pending (.waiting key wait)) left) (met : Cell R) :
      Comes handlers call begun (Poll.look key wait met).1 (Poll.look key wait met).2

-- A look at what is waited for ends in no fault but that the run has been cancelled.
theorem Poll.look_fault (key : Nat) (wait : Wait R) (cell : Cell R) (fault : Fault)
    (failed : (Poll.look key wait cell).1 = .fault fault) : fault = .cancelled := by
  unfold Poll.look at failed
  split at failed
  · cases failed
    rfl
  · split at failed
    · cases failed
    · cases failed

omit [Scalar R] in
theorem HandlerTable.listed_of_resolved (handlers : HandlerTable R) (cell : Cell R) (call : Call R) (handler : Handler R)
    (resolved : handlers.resolve cell call = .ok handler) : ∃ port, (port, handler) ∈ handlers.entries := by
  unfold resolve at resolved
  cases target : target? cell call.device with
  | error reason =>
      rw [target] at resolved
      cases resolved
  | ok kind =>
      rw [target] at resolved
      simp only [bind, Except.bind] at resolved
      split at resolved
      · cases resolved
        exact ⟨_, mem_of_lookup _ _ _ ‹_›⟩
      · cases resolved

theorem Poll.perform_fault (call : Call R) (cell : Cell R) (fault : Fault)
    (failed : (Poll.perform .standard call cell).1 = .fault fault) :
    Cell.Made call.device cell (Poll.perform .standard call cell).2 := by
  unfold Poll.perform at failed ⊢
  cases resolved : HandlerTable.standard.resolve cell call with
  | error reason => exact .nothing
  | ok handler =>
      obtain ⟨port, member⟩ := HandlerTable.standard.listed_of_resolved cell call handler resolved
      rw [resolved] at failed
      dsimp only at failed ⊢
      unfold Poll.ofAct at failed ⊢
      rcases result : handler call cell with ⟨outcome, after⟩
      rw [result] at failed
      cases outcome with
      | ok reply =>
          cases reply with
          | value value => cases failed
          | waiting wait => cases failed
      | error failure =>
          cases failure with
          | panic message => cases failed
          | fault reason => exact HandlerTable.standard_harmless port handler member call cell reason after result

/-- An action that ends in a fault of its own, on whatever device and with whatever arguments, leaves the variables, the
materials, the events, the ids to come and every device that was registered as they were when it began. At most the
device that it is addressed to has been made, and stands as devices do that have just been made. A fault of its own it
ends in within its first turn only. -/
theorem faulting_action_changes_nothing (call : Call R) (begun left : Cell R) (fault : Fault)
    (comes : call.Comes .standard begun (.fault fault) left) (own : fault ≠ .cancelled) :
    Cell.Made call.device begun left ∧ Cell.Intact begun left := by
  have made : Cell.Made call.device begun left := by
    generalize ended : (Progress.fault fault : Progress R) = progress at comes
    cases comes with
    | first => exact Poll.perform_fault call begun fault ended.symm
    | later before met => exact absurd (Poll.look_fault _ _ met fault ended.symm) own
  exact ⟨made, made.intact⟩

theorem faulting_action_changes_nothing_of_a_gripper :
    let call : Call Rat := ⟨"gripper", .fire, [.literal (.text "out")], none⟩
    let fault : Fault := .flawed .fire (.notBoolean "state" : Flaw Rat)
    let gripper : ActuatorSpec := .new "gripper" .cylinder 200
    let left := { gripperCell with actuators := gripperCell.actuators.add "gripper" (.new gripper (.ofMillis 10)) }
    call.Comes .standard gripperCell (.fault fault) left ∧ fault ≠ .cancelled ∧
      Cell.Made "gripper" gripperCell left ∧ Cell.Intact gripperCell left := by
  intro call fault gripper left
  have performed : Poll.perform .standard call gripperCell = (.fault fault, left) := rfl
  have comes : call.Comes .standard gripperCell (Poll.perform .standard call gripperCell).1
    (Poll.perform .standard call gripperCell).2 := .first
  rw [performed] at comes
  have own : fault ≠ .cancelled := nofun
  exact ⟨comes, own, faulting_action_changes_nothing call gripperCell left fault comes own⟩

end Workcell

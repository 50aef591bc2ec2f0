import Workcell.Proofs.Action.Blame
import Workcell.Proofs.Sturdy.Devices
import Workcell.Proofs.Sturdy.Law

/-!
The handlers that come with the cell leave it sound, and only one of them can break down: a motion up to a threshold,
when its deadline has no name.
-/

set_option autoImplicit false

namespace Workcell

variable {R : Type} [Scalar R]

structure Grounds.Sound (grounds : Grounds R) : Prop where
  ordered : ∀ spec ∈ grounds.machine.axes, spec.min ≤ spec.max
  tick : grounds.tick ≠ 0
  sampleTick : grounds.sampleTick ≠ 0

def Grounds.Safe (grounds : Grounds R) (now : Nat) (cell : Cell R) : Prop := cell.Sound grounds ∧ cell.now = now

def Grounds.Late (grounds : Grounds R) (now : Nat) : Prop := Duration.beyond now grounds.waitBound = true

variable {grounds : Grounds R} {now : Nat} {late : Prop} {A B : Type}

theorem Cell.Upkept.safe {before after : Cell R} (upkept : Cell.Upkept grounds before after)
    (held : grounds.Safe now before) : grounds.Safe now after :=
  ⟨upkept.2 held.1, upkept.1.trans held.2⟩

def Act.Upholds (grounds : Grounds R) (now : Nat) (late : Prop) (good : A → Prop) (act : Act R A) : Prop :=
  ∀ cell, grounds.Safe now cell → grounds.Safe now (act cell).2 ∧ match (act cell).1 with
    | .ok a => good a
    | .error (.fault _) => True
    | .error (.panic _) => late

namespace Act.Upholds

theorem bind {good : A → Prop} {fine : B → Prop} {act : Act R A} {next : A → Act R B}
    (first : act.Upholds grounds now late good) (second : ∀ a, good a → (next a).Upholds grounds now late fine) :
    (act >>= next).Upholds grounds now late fine := by
  intro cell held
  have before := first cell held
  rw [bind_apply]
  rcases result : act cell with ⟨outcome, after⟩
  rw [result] at before
  cases outcome with
  | ok a => exact second a before.2 after before.1
  | error failure =>
      cases failure with
      | fault fault => exact before
      | panic message => exact before

theorem pure {good : A → Prop} (a : A) (isGood : good a) : Act.Upholds grounds now late good (Pure.pure a : Act R A) :=
  fun _ held => ⟨held, isGood⟩

theorem get {good : A → Prop} {next : Cell R → Act R A}
    (each : ∀ cell, grounds.Safe now cell → (next cell).Upholds grounds now late good) :
    ((MonadState.get : Act R (Cell R)) >>= next).Upholds grounds now late good := by
  intro cell held
  rw [get_bind_apply]
  exact each cell held cell held

theorem read (result : Except Fault A) :
    Act.Upholds grounds now late (fun _ => True) (ofExcept result : Act R A) := by
  intro cell held
  cases result with
  | ok a => exact ⟨held, trivial⟩
  | error fault => exact ⟨held, trivial⟩

-- Work that is kept up and fails in faults alone.
theorem of_within {act : Act R A} (within : Act.Within (Cell.Upkept grounds) act) (ordinary : act.Ordinary) :
    act.Upholds grounds now late fun _ => True := by
  intro cell held
  refine ⟨(within cell).safe held, ?_⟩
  have fails := ordinary cell
  rcases result : act cell with ⟨outcome, after⟩
  rw [result] at fails
  cases outcome with
  | ok a => trivial
  | error failure =>
      cases failure with
      | fault fault => trivial
      | panic message => exact absurd (fails _ rfl) Bool.false_ne_true

theorem change (f : Cell R → A × Cell R) (changes : ∀ cell, Cell.Upkept grounds cell (f cell).2) :
    Act.Upholds grounds now late (fun _ => True) (Act.change fun cell => f cell) :=
  fun cell held => ⟨(changes cell).safe held, trivial⟩

end Act.Upholds

namespace Action

open Act.Upholds

variable (steady : Scalar.Steady R) (firm : grounds.Sound)

include steady

include firm in
theorem find_axis_upholds (id : String) :
    (findAxis id).Upholds grounds now late fun found => found.2.Sound grounds := by
  intro cell held
  refine ⟨((Cell.Upkept.basis steady).toRegisters.find_axis id cell).safe held, ?_⟩
  rw [findAxis, Act.get_bind_apply]
  cases registered : cell.axes.find? id with
  | some entry =>
      obtain ⟨handle, -, found⟩ := Option.bind_eq_some_iff.mp registered
      obtain ⟨axis, there, rfl⟩ := Option.map_eq_some_iff.mp found
      exact held.1.axes axis (List.mem_of_getElem? there)
  | none =>
      cases declared : cell.machine.axis? id with
      | none => trivial
      | some spec =>
          -- The limits of a declared axis are in order, so it can be made.
          have member : spec ∈ grounds.machine.axes := held.1.machine ▸ List.mem_of_find?_eq_some declared
          have ranged := firm.ordered spec member
          dsimp only
          rw [makeAxis, Act.get_bind_apply, held.1.driver]
          cases made : (Driver.simulation grounds.tick).createAxis spec with
          | error error => trivial
          | ok axis =>
              cases axis with
              | some axis => exact Axis.sound_of_created spec axis made
              | none =>
                  simp [Driver.createAxis, Axis.new?, AxisSpec.homePosition?, AxisSpec.clamp?, ranged] at made

theorem find_actuator_upholds (id : String) :
    (findActuator id).Upholds grounds now late fun found => found.2.Sound grounds := by
  intro cell held
  refine ⟨((Cell.Upkept.basis steady).toRegisters.find_actuator id cell).safe held, ?_⟩
  rw [findActuator, Act.get_bind_apply]
  cases registered : cell.actuators.find? id with
  | some entry =>
      obtain ⟨handle, -, found⟩ := Option.bind_eq_some_iff.mp registered
      obtain ⟨actuator, there, rfl⟩ := Option.map_eq_some_iff.mp found
      exact held.1.actuators actuator (List.mem_of_getElem? there)
  | none =>
      cases declared : cell.machine.actuator? id with
      | none => trivial
      | some spec =>
          dsimp only
          rw [makeActuator, Act.get_bind_apply, held.1.driver]
          exact Actuator.sound_of_created steady spec _ rfl

omit steady

theorem command_axis_upholds (handle : Nat) (axis : Axis R) (sound : axis.Sound grounds) (target : R)
    (speed : Option R) (homing : Bool) :
    (commandAxis handle axis target speed homing).Upholds grounds now late fun _ => True := by
  intro cell held
  rw [commandAxis, Act.get_bind_apply]
  by_cases live : cell.live = true
  · have put := held.1.put_axis handle axis _ (sound.commanded target speed homing)
    have still : (cell.putAxis handle axis (axis.command target speed homing).2.2).now = now := by
      unfold Cell.putAxis
      split
      · exact held.2
      · exact held.2
    rw [if_pos live]
    rcases commanded : axis.command target speed homing with ⟨reached, motion, moved⟩
    rw [commanded] at put still
    cases motion with
    | none => exact ⟨⟨put, still⟩, trivial⟩
    | some motion => exact ⟨⟨put.effect _ trivial, still⟩, trivial⟩
  · rw [if_neg live]
    exact ⟨held, trivial⟩

theorem move_axis_upholds (handle : Nat) (axis : Axis R) (sound : axis.Sound grounds) (target : R)
    (speed : Option R) : (moveAxis handle axis target speed).Upholds grounds now late fun _ => True := by
  unfold moveAxis
  split
  · exact read (.error _)
  · exact command_axis_upholds handle axis sound target speed false

include steady

theorem fire_actuator_upholds (handle : Nat) (actuator : Actuator R) (sound : actuator.Sound grounds) (on : Bool) :
    (fireActuator handle actuator on).Upholds grounds now late fun _ => True := by
  intro cell held
  rw [fireActuator, Act.get_bind_apply]
  obtain ⟨isSound, carries⟩ := sound.fired steady on
  have put := held.1.put_actuator handle actuator _ isSound
  have still : (cell.putActuator handle actuator (actuator.fire on).2).now = now := by
    unfold Cell.putActuator
    split
    · exact held.2
    · exact held.2
  rcases fired : actuator.fire on with ⟨stroke, after⟩
  rw [fired] at put still carries
  cases stroke with
  | none => exact ⟨⟨put, still⟩, trivial⟩
  | some stroke =>
      by_cases live : cell.live = true
      · simp only [if_pos live]
        exact ⟨⟨put.effect _ (carries stroke rfl), still⟩, trivial⟩
      · simp only [if_neg live]
        exact ⟨held, trivial⟩

theorem await_idle_upholds (call : Call R) (handle : Nat) :
    (Motion.awaitIdle call handle).Upholds grounds now late fun _ => True :=
  change _ fun cell => (Cell.Upkept.basis steady).await_idle handle (call.bound cell) cell

-- The one breakdown that is left: a deadline without a name.
theorem collapse_upholds (handle : Nat) (message : String) (isLate : late) :
    (Motion.collapse handle message).Upholds grounds now late fun _ => True :=
  bind (change _ fun cell => (Cell.Upkept.basis steady).stopAxis cell handle) fun _ _ _ held => ⟨held, isLate⟩

include firm

theorem command_upholds (call : Call R) : (Motion.command call).Upholds grounds now late fun _ => True := by
  refine bind (find_axis_upholds steady firm call.device) fun found sound => ?_
  refine bind (read _) fun target _ => bind (read _) fun speed _ => ?_
  exact bind (move_axis_upholds found.1 found.2 sound target speed) fun _ _ => pure _ trivial

theorem move_until_upholds (call : Call R) (unbounded : call.timeout = none) :
    (Motion.moveUntil call).Upholds grounds now (grounds.Late now) fun _ => True := by
  refine bind (find_axis_upholds steady firm call.device) fun found sound => ?_
  refine bind (read _) fun target _ => bind (read _) fun threshold _ => bind (read _) fun speed _ => ?_
  split
  · exact read _
  · refine bind (move_axis_upholds found.1 found.2 sound target speed) fun _ _ => get fun cell held => ?_
    have bounded : call.bound cell = grounds.waitBound := by
      rw [Call.bound, unbounded, Option.getD_none, held.1.waitBound]
    dsimp only
    split
    · next beyond =>
        rw [bounded, held.2] at beyond
        exact collapse_upholds steady found.1 _ beyond
    · split
      · next period => exact absurd (held.1.sampleTick ▸ period) firm.sampleTick
      · exact change _ fun cell => (Cell.Upkept.basis steady).look_probe cell found.1 threshold _

theorem motion_upholds (operation : Operation) (handler : Handler R)
    (member : (operation, handler) ∈ HandlerTable.motions) (call : Call R) (unbounded : call.timeout = none) :
    (handler call).Upholds grounds now (grounds.Late now) fun _ => True := by
  have found : (findAxis call.device).Upholds grounds now (grounds.Late now) fun found => found.2.Sound grounds :=
    find_axis_upholds steady firm call.device
  simp only [HandlerTable.motions, List.mem_cons, Prod.mk.injEq, List.not_mem_nil, or_false] at member
  rcases member with ⟨-, rfl⟩ | ⟨-, rfl⟩ | ⟨-, rfl⟩ | ⟨-, rfl⟩ | ⟨-, rfl⟩ | ⟨-, rfl⟩
  · exact bind (command_upholds steady firm call) fun _ _ => pure _ trivial
  · exact bind (command_upholds steady firm call) fun commanded _ => await_idle_upholds steady call commanded.1
  · exact move_until_upholds steady firm call unbounded
  · refine bind found fun found sound => ?_
    refine bind (command_axis_upholds found.1 found.2 sound _ none true) fun _ _ => ?_
    exact await_idle_upholds steady call found.1
  · refine bind found fun found _ => ?_
    refine bind (change _ fun cell => (Cell.Upkept.basis steady).stopAxis cell found.1) fun _ _ => ?_
    exact pure _ trivial
  · exact bind found fun _ _ => pure _ trivial

omit firm

theorem switching_upholds (operation : Operation) (handler : Handler R)
    (member : (operation, handler) ∈ HandlerTable.switchings) (call : Call R) :
    (handler call).Upholds grounds now late fun _ => True := by
  have found : (findActuator call.device).Upholds grounds now late fun found => found.2.Sound grounds :=
    find_actuator_upholds steady call.device
  have commanded : (Switching.command call).Upholds grounds now late fun _ => True := by
    refine bind found fun found sound => bind (read _) fun on _ => ?_
    exact bind (fire_actuator_upholds steady found.1 found.2 sound on) fun _ _ => pure _ trivial
  have awaits : ∀ handle on, (Switching.awaitSettled call handle on).Upholds grounds now late fun _ => True :=
    fun handle on => change _ fun cell => (Cell.Upkept.basis steady).await_settled handle on (call.bound cell) cell
  simp only [HandlerTable.switchings, List.mem_cons, Prod.mk.injEq, List.not_mem_nil, or_false] at member
  rcases member with ⟨-, rfl⟩ | ⟨-, rfl⟩ | ⟨-, rfl⟩ | ⟨-, rfl⟩ | ⟨-, rfl⟩
  · exact bind commanded fun _ _ => pure _ trivial
  · exact bind commanded fun commanded _ => awaits commanded.1 commanded.2
  · exact bind found fun found _ => bind (read _) fun on _ => awaits found.1 on
  · refine bind found fun found _ => ?_
    exact change _ fun cell => (Cell.Upkept.basis steady).stopActuator cell found.1
  · exact bind found fun _ _ => pure _ trivial

include firm

theorem standard_upholds (cell : Cell R) (call : Call R) (unbounded : call.timeout = none) (handler : Handler R)
    (resolved : HandlerTable.standard.resolve cell call = .ok handler) :
    (handler call).Upholds grounds now (grounds.Late now) fun _ => True := by
  rcases HandlerTable.standard_handler cell call handler resolved with motion | switching | service
  · exact motion_upholds steady firm call.operation handler motion call unbounded
  · exact switching_upholds steady call.operation handler switching call
  · exact of_within (service_within (Cell.Upkept.basis steady) call.operation handler service call)
      (Act.Ordinary.service call.operation handler service call)

end Action

theorem Fault.not_breakdown_of_ordinary (fault : Fault) (ordinary : fault.isOrdinary = true) :
    fault.isBreakdown = false := by
  cases fault with
  | panicked message => cases ordinary
  | _ => rfl

-- Sound cells at a millisecond are sheltered from all but breakdowns of waits that end too late.
theorem Grounds.Sound.shelter (steady : Scalar.Steady R) (firm : grounds.Sound) (now : Nat) :
    Shelter HandlerTable.standard (grounds.Safe now) (grounds.Late now) where
  trace held _ _ _ := ⟨{ held.1 with }, held.2⟩
  appeal held _ _ := ⟨{ held.1 with }, held.2⟩
  issue held := ⟨{ held.1 with }, held.2⟩
  again held _ := ⟨held.1.effect _ trivial, held.2⟩
  rest held _ := ⟨held.1.effect _ trivial, held.2⟩
  refused {cell call fault} refuses := fault.not_breakdown_of_ordinary (resolve_ordinary _ cell call fault refuses)
  act := by
    intro cell call handler held unbounded resolved
    have acted := Action.standard_upholds steady firm cell call unbounded handler resolved cell held
    have mild := Act.Mild.standard cell call handler resolved cell
    rcases result : handler call cell with ⟨outcome, after⟩
    rw [result] at acted mild
    cases outcome with
    | ok reply => exact acted
    | error failure =>
        cases failure with
        | panic message => exact acted
        | fault fault =>
            rcases mild (.fault fault) rfl with ordinary | ⟨message, same⟩
            · exact ⟨acted.1, fault.not_breakdown_of_ordinary ordinary⟩
            · cases same
  look {cell} held wait := ((Cell.Upkept.basis steady).look cell wait).safe held
  abandon {cell} held wait := ((Cell.Upkept.basis steady).abandon wait cell).safe held

end Workcell

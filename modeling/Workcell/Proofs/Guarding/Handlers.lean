import Workcell.Proofs.Guarding.Guarded
import Workcell.Proofs.Upkeep.Law

/-!
The handlers that wait for what they set in motion leave a guard on it, or stop it before they end.
-/

set_option autoImplicit false

namespace Workcell

variable {R : Type}

namespace Act

variable {A B : Type}

def Leads (pre : Cell R → Prop) (act : Act R A) (post : A → Cell R → Prop) (failed : Cell R → Prop) : Prop :=
  ∀ cell, pre cell → match act cell with
    | (.ok a, after) => post a after
    | (.error _, after) => failed after

variable {pre failed : Cell R → Prop}

theorem leads_bind (act : Act R A) (next : A → Act R B) (middle : A → Cell R → Prop) (post : B → Cell R → Prop)
    (first : Leads pre act middle failed) (second : ∀ a, Leads (middle a) (next a) post failed) :
    Leads pre (act >>= next) post failed := by
  intro cell before
  have between := first cell before
  rw [bind_apply]
  rcases result : act cell with ⟨outcome, after⟩
  rw [result] at between
  cases outcome with
  | ok a => exact second a after between
  | error failure => exact between

theorem leads_of_within (rel : Cell R → Cell R → Prop) (act : Act R A) (kept : ∀ before after, rel before after →
    pre before → pre after) (within : Within rel act) : Leads pre act (fun _ => pre) pre := by
  intro cell before
  have after := kept _ _ (within cell) before
  rcases result : act cell with ⟨outcome, next⟩
  rw [result] at after
  cases outcome with
  | ok a => exact after
  | error failure => exact after

end Act

namespace Guarded

variable {wait : Wait R} {waits : List (Wait R)} {before after : Cell R}

-- A wait is over once what it answered for is at rest.
theorem released (guarded : Guarded (wait :: waits) before)
    (axes : ∀ handle, after.MovesAxis handle → before.MovesAxis handle ∧ ¬ wait.GuardsAxis handle)
    (actuators : ∀ handle, after.ChangesActuator handle →
      before.ChangesActuator handle ∧ ¬ wait.GuardsActuator handle) : Guarded waits after := by
  refine ⟨fun handle moves => ?_, fun handle changes => ?_⟩
  · obtain ⟨moved, unguarded⟩ := axes handle moves
    obtain ⟨other, member, guards⟩ := guarded.axes handle moved
    rcases List.mem_cons.mp member with rfl | inside
    · exact absurd guards unguarded
    · exact ⟨other, inside, guards⟩
  · obtain ⟨changed, unguarded⟩ := actuators handle changes
    obtain ⟨other, member, guards⟩ := guarded.actuators handle changed
    rcases List.mem_cons.mp member with rfl | inside
    · exact absurd guards unguarded
    · exact ⟨other, inside, guards⟩

theorem unchanged (guarded : Guarded waits before) (after : Cell R) (axes : after.axes = before.axes)
    (actuators : after.actuators = before.actuators) : Guarded waits after :=
  guarded.calm _ _ _ (Cell.Calm.of_same before after axes actuators)

-- Another wait may answer for the same devices.
theorem handed_over (guarded : Guarded (wait :: waits) before) (other : Wait R)
    (axes : ∀ handle, wait.GuardsAxis handle → other.GuardsAxis handle)
    (actuators : ∀ handle, wait.GuardsActuator handle → other.GuardsActuator handle) :
    Guarded (other :: waits) before := by
  refine ⟨fun handle moves => ?_, fun handle changes => ?_⟩
  · obtain ⟨guard, member, guards⟩ := guarded.axes handle moves
    rcases List.mem_cons.mp member with rfl | inside
    · exact ⟨other, by simp, axes handle guards⟩
    · exact ⟨guard, List.mem_cons_of_mem _ inside, guards⟩
  · obtain ⟨guard, member, guards⟩ := guarded.actuators handle changes
    rcases List.mem_cons.mp member with rfl | inside
    · exact ⟨other, by simp, actuators handle guards⟩
    · exact ⟨guard, List.mem_cons_of_mem _ inside, guards⟩

theorem stopped_axis (guarded : Guarded (wait :: waits) before) (slot : Nat)
    (own : ∀ handle, wait.GuardsAxis handle → slot = handle)
    (none : ∀ handle, ¬ wait.GuardsActuator handle) : Guarded waits (before.stopAxis slot) := by
  refine guarded.released ?_ ?_
  · intro handle moves
    obtain ⟨different, moved⟩ := Cell.moves_of_stop slot handle before moves
    exact ⟨moved, fun guards => different (own handle guards).symm⟩
  · intro handle changes
    exact ⟨(Cell.Calm.stop_axis before slot).actuators handle changes, none handle⟩

theorem stopped_actuator (guarded : Guarded (wait :: waits) before) (slot : Nat)
    (own : ∀ handle, wait.GuardsActuator handle → slot = handle)
    (none : ∀ handle, ¬ wait.GuardsAxis handle) : Guarded waits (before.stopActuator slot) := by
  refine guarded.released ?_ ?_
  · intro handle moves
    exact ⟨(Cell.Calm.stop_actuator before slot).axes handle moves, none handle⟩
  · intro handle changes
    obtain ⟨different, changed⟩ := Cell.changes_of_stop slot handle before changes
    exact ⟨changed, fun guards => different (own handle guards).symm⟩

theorem abandoned (guarded : Guarded (wait :: waits) before) : Guarded waits (wait.abandon before) := by
  cases wait with
  | delay timer => exact guarded.released (fun _ moves => ⟨moves, id⟩) (fun _ changes => ⟨changes, id⟩)
  | idle axis timer => exact guarded.stopped_axis axis (fun _ guards => guards) fun _ => id
  | settled actuator on timer => exact guarded.stopped_actuator actuator (fun _ guards => guards) fun _ => id
  | probe axis threshold deadline timer => exact guarded.stopped_axis axis (fun _ guards => guards) fun _ => id

theorem still_axis (guarded : Guarded (wait :: waits) before) (slot : Nat) (still : before.moving slot = false)
    (own : ∀ handle, wait.GuardsAxis handle → slot = handle) (none : ∀ handle, ¬ wait.GuardsActuator handle) :
    Guarded waits before := by
  refine guarded.released ?_ fun handle changes => ⟨changes, none handle⟩
  intro handle moves
  refine ⟨moves, fun guards => ?_⟩
  obtain ⟨-, axis, present, moving⟩ := moves
  have same := own handle guards
  subst same
  simp [Cell.moving, present, moving] at still

theorem looked_idle (axis : Nat) (timer : Timer) (due : Option Timer)
    (guarded : Guarded (.idle axis timer :: waits) before) :
    Guarded ((before.lookIdle axis due).1.waits ++ waits) (before.lookIdle axis due).2 := by
  have stopped : Guarded waits (before.stopAxis axis) :=
    guarded.stopped_axis axis (fun _ guards => guards) fun _ => id
  unfold Cell.lookIdle
  split
  · split
    · split
      · exact stopped
      · rename_i due _
        have kept : Guarded (.idle axis due :: waits) before :=
          guarded.handed_over _ (fun _ guards => guards) fun _ => id
        exact kept
    · exact stopped
  · rename_i still
    exact guarded.still_axis axis (by simpa using still) (fun _ guards => guards) fun _ => id

theorem looked_settled (actuator : Nat) (on : Bool) (timer : Timer) (due : Option Timer)
    (guarded : Guarded (.settled actuator on timer :: waits) before) :
    Guarded ((before.lookSettled actuator on due).1.waits ++ waits) (before.lookSettled actuator on due).2 := by
  have stopped : Guarded waits (before.stopActuator actuator) :=
    guarded.stopped_actuator actuator (fun _ guards => guards) fun _ => id
  simp only [Cell.lookSettled]
  split
  · rename_i settled
    refine guarded.released (fun _ moves => ⟨moves, id⟩) ?_
    intro handle changes
    refine ⟨changes, fun guards => ?_⟩
    obtain ⟨-, device, present, changing⟩ := changes
    have same : actuator = handle := guards
    subst same
    simp [Cell.settledAt, present, ActuatorState.settledAt, changing] at settled
  · split
    · split
      · exact stopped
      · rename_i due _
        have kept : Guarded (.settled actuator on due :: waits) before :=
          guarded.handed_over _ (fun _ => id) fun _ guards => guards
        exact kept
    · exact stopped

variable [Scalar R]

theorem looked_probe (guarded : Guarded (wait :: waits) before) (axis : Nat) (threshold : R) (deadline : Duration)
    (own : ∀ handle, wait.GuardsAxis handle ↔ axis = handle) (none : ∀ handle, ¬ wait.GuardsActuator handle) :
    Guarded ((before.lookProbe axis threshold deadline).1.waits ++ waits)
      (before.lookProbe axis threshold deadline).2 := by
  have stopped : Guarded waits (before.stopAxis axis) :=
    guarded.stopped_axis axis (fun handle guards => (own handle).mp guards) none
  unfold Cell.lookProbe
  split
  · exact stopped
  · split
    · rename_i still
      exact guarded.still_axis axis (by simpa using still) (fun handle guards => (own handle).mp guards) none
    · split
      · exact stopped
      · have issued := guarded.calm _ _ _ (Cell.Calm.basis.timer before (Duration.due before.now before.sampleTick))
        have kept := issued.handed_over
          (.probe axis threshold deadline (before.timer (Duration.due before.now before.sampleTick)).1)
          (fun handle guards => (own handle).mp guards) fun handle guards => none handle guards
        exact kept

theorem looked (guarded : Guarded (wait :: waits) before) :
    Guarded ((before.look wait).1.waits ++ waits) (before.look wait).2 := by
  cases wait with
  | delay timer =>
      simp only [Cell.look]
      split
      · exact guarded.released (fun _ moves => ⟨moves, id⟩) (fun _ changes => ⟨changes, id⟩)
      · exact guarded
  | idle axis timer => exact guarded.looked_idle axis timer _
  | settled actuator on timer => exact guarded.looked_settled actuator on timer _
  | probe axis threshold deadline timer =>
      simp only [Cell.look]
      split
      · exact guarded.looked_probe axis threshold deadline (fun _ => Iff.rfl) fun _ => id
      · exact guarded

theorem awaited_idle (axis : Nat) (timer : Timer) (bound : Duration)
    (guarded : Guarded (.idle axis timer :: waits) before) :
    Guarded ((before.awaitIdle axis bound).1.waits ++ waits) (before.awaitIdle axis bound).2 := by
  have rung := guarded.calm _ _ _ (Cell.Calm.basis.alarm before bound)
  unfold Cell.awaitIdle
  split
  · generalize before.alarm bound = alarm at rung ⊢
    obtain ⟨set, after⟩ := alarm
    exact rung.looked_idle axis timer set
  · exact guarded.looked_idle axis timer none

theorem awaited_settled (actuator : Nat) (on : Bool) (timer : Timer) (bound : Duration)
    (guarded : Guarded (.settled actuator on timer :: waits) before) :
    Guarded ((before.awaitSettled actuator on bound).1.waits ++ waits) (before.awaitSettled actuator on bound).2 := by
  have rung := guarded.calm _ _ _ (Cell.Calm.basis.alarm before bound)
  unfold Cell.awaitSettled
  split
  · exact guarded.looked_settled actuator on timer none
  · generalize before.alarm bound = alarm at rung ⊢
    obtain ⟨set, after⟩ := alarm
    exact rung.looked_settled actuator on timer set

end Guarded

namespace Action

variable (waits : List (Wait R))

abbrev Guards (act : Act R (Reply R)) : Prop :=
  act.Leads (Guarded waits) (fun reply => Guarded (reply.waits ++ waits)) (Guarded waits)

theorem guards_of_calm (act : Act R (Reply R)) (within : Act.Within Cell.Calm act) : Guards waits act := by
  intro cell guarded
  have kept := guarded.calm _ _ _ (within cell)
  rcases result : act cell with ⟨outcome, after⟩
  rw [result] at kept
  cases outcome with
  | ok reply => exact kept.mono _ _ _ (List.subset_append_right _ _)
  | error failure => exact kept

theorem leads_of_calm {A : Type} (act : Act R A) (within : Act.Within Cell.Calm act) :
    act.Leads (Guarded waits) (fun _ => Guarded waits) (Guarded waits) :=
  Act.leads_of_within Cell.Calm act (fun _ _ calm guarded => guarded.calm _ _ _ calm) within

theorem collapse_leads (handle : Nat) (message : String) (timer : Timer) :
    (Motion.collapse (R := R) handle message).Leads (Guarded (.idle handle timer :: waits))
      (fun reply => Guarded (reply.waits ++ waits)) (Guarded waits) :=
  fun _ guarded => guarded.stopped_axis handle (fun _ guards => guards) fun _ => id

variable [Scalar R]

-- An axis that has been commanded is as if it had a guard that is about to be named.
theorem command_axis_leads (handle : Nat) (axis : Axis R) (target : R) (speed : Option R) (homing : Bool)
    (timer : Timer) : (commandAxis handle axis target speed homing).Leads (Guarded waits)
      (fun _ => Guarded (.idle handle timer :: waits)) (Guarded waits) := by
  intro cell guarded
  rw [commandAxis, Act.get_bind_apply]
  by_cases live : cell.live = true
  · rw [if_pos live]
    rcases axis.command target speed homing with ⟨reached, motion, moved⟩
    have put : Guarded (.idle handle timer :: waits) (cell.putAxis handle axis moved) := by
      refine ⟨fun slot moves => ?_, fun slot changes => ?_⟩
      · rcases Cell.moves_of_put handle slot axis moved cell moves with ⟨same, -⟩ | ⟨-, moved⟩
        · exact ⟨_, List.mem_cons_self, same.symm⟩
        · obtain ⟨wait, member, guards⟩ := guarded.axes slot moved
          exact ⟨wait, List.mem_cons_of_mem _ member, guards⟩
      · have changed := Cell.changes_of_same cell _ (Cell.put_axis_actuators handle axis moved cell) slot changes
        obtain ⟨wait, member, guards⟩ := guarded.actuators slot changed
        exact ⟨wait, List.mem_cons_of_mem _ member, guards⟩
    cases motion with
    | none => exact put
    | some motion => exact put.unchanged _ rfl rfl
  · rw [if_neg live]
    exact guarded

theorem move_axis_leads (handle : Nat) (axis : Axis R) (target : R) (speed : Option R) (timer : Timer) :
    (moveAxis handle axis target speed).Leads (Guarded waits) (fun _ => Guarded (.idle handle timer :: waits))
      (Guarded waits) := by
  unfold moveAxis
  split
  · exact fun _ guarded => guarded
  · exact command_axis_leads waits handle axis target speed false timer

theorem fire_actuator_leads (handle : Nat) (actuator : Actuator R) (on : Bool) (timer : Timer) :
    (fireActuator handle actuator on).Leads (Guarded waits) (fun _ => Guarded (.settled handle on timer :: waits))
      (Guarded waits) := by
  intro cell guarded
  rw [fireActuator, Act.get_bind_apply]
  rcases actuator.fire on with ⟨stroke, fired⟩
  have put : Guarded (.settled handle on timer :: waits) (cell.putActuator handle actuator fired) := by
    refine ⟨fun slot moves => ?_, fun slot changes => ?_⟩
    · have moved := Cell.moves_of_same cell _ (Cell.put_actuator_axes handle actuator fired cell) slot moves
      obtain ⟨wait, member, guards⟩ := guarded.axes slot moved
      exact ⟨wait, List.mem_cons_of_mem _ member, guards⟩
    · rcases Cell.changes_of_put handle slot actuator fired cell changes with ⟨same, -⟩ | ⟨-, changed⟩
      · exact ⟨_, List.mem_cons_self, same.symm⟩
      · obtain ⟨wait, member, guards⟩ := guarded.actuators slot changed
        exact ⟨wait, List.mem_cons_of_mem _ member, guards⟩
  cases stroke with
  | none => exact put
  | some stroke =>
      by_cases live : cell.live = true
      · simp only [if_pos live]
        exact put.unchanged _ rfl rfl
      · simp only [if_neg live]
        exact guarded

theorem await_idle_leads (call : Call R) (handle : Nat) (timer : Timer) :
    (Motion.awaitIdle call handle).Leads (Guarded (.idle handle timer :: waits))
      (fun reply => Guarded (reply.waits ++ waits)) (Guarded waits) :=
  fun cell guarded => guarded.awaited_idle handle timer (call.bound cell)

-- The timer of the guard that is about to be named; no handler looks at it.
def unnamed : Timer := ⟨0, 0⟩

theorem guarded_motion (operation : Operation) (waiting : operation ≠ .moveTo) (handler : Handler R)
    (member : (operation, handler) ∈ HandlerTable.motions) (call : Call R) : Guards waits (handler call) := by
  have found := leads_of_calm waits _ (Cell.Calm.basis.find_axis (R := R) call.device)
  have read : ∀ {A : Type} (result : Except Fault A),
      (Act.ofExcept result).Leads (Guarded waits) (fun _ => Guarded waits) (Guarded waits) :=
    fun result => leads_of_calm waits _ (Act.within_of_except Cell.Calm.refl result)
  simp only [HandlerTable.motions, List.mem_cons, Prod.mk.injEq, List.not_mem_nil, or_false] at member
  rcases member with ⟨same, rfl⟩ | ⟨-, rfl⟩ | ⟨-, rfl⟩ | ⟨-, rfl⟩ | ⟨-, rfl⟩ | ⟨-, rfl⟩
  · exact absurd same waiting
  · have commanded : (Motion.command call).Leads (Guarded waits)
        (fun commanded => Guarded (.idle commanded.1 unnamed :: waits)) (Guarded waits) := by
      refine Act.leads_bind _ _ _ _ found fun found => ?_
      refine Act.leads_bind _ _ _ _ (read _) fun target => Act.leads_bind _ _ _ _ (read _) fun speed => ?_
      refine Act.leads_bind _ _ _ _ (move_axis_leads waits found.1 found.2 target speed unnamed) fun _ => ?_
      exact fun _ guarded => guarded
    exact Act.leads_bind _ _ _ _ commanded fun commanded => await_idle_leads waits call commanded.1 unnamed
  · refine Act.leads_bind _ _ _ _ found fun found => Act.leads_bind _ _ _ _ (read _) fun target => ?_
    refine Act.leads_bind _ _ _ _ (read _) fun threshold => Act.leads_bind _ _ _ _ (read _) fun speed => ?_
    split
    · exact guards_of_calm waits _ (Act.within_of_except Cell.Calm.refl _)
    · refine Act.leads_bind _ _ _ _ (move_axis_leads waits found.1 found.2 target speed unnamed) fun _ => ?_
      refine Act.leads_bind _ _ (fun _ => Guarded (.idle found.1 unnamed :: waits)) _ (fun _ guarded => guarded)
        fun cell => ?_
      dsimp only
      split
      · exact collapse_leads waits found.1 _ unnamed
      · split
        · exact collapse_leads waits found.1 _ unnamed
        · exact fun cell guarded => guarded.looked_probe found.1 threshold _ (fun _ => Iff.rfl) fun _ => id
  · refine Act.leads_bind _ _ _ _ found fun found => ?_
    refine Act.leads_bind _ _ _ _ (command_axis_leads waits found.1 found.2 _ none true unnamed) fun _ => ?_
    exact await_idle_leads waits call found.1 unnamed
  · exact guards_of_calm waits _ (stop_axis_within Cell.Calm.basis.toFooting call)
  · exact guards_of_calm waits _ (read_axis_within Cell.Calm.basis.toFooting call)

theorem guarded_switching (operation : Operation) (waiting : operation ≠ .fire) (handler : Handler R)
    (member : (operation, handler) ∈ HandlerTable.switchings) (call : Call R) : Guards waits (handler call) := by
  simp only [HandlerTable.switchings, List.mem_cons, Prod.mk.injEq, List.not_mem_nil, or_false] at member
  rcases member with ⟨same, rfl⟩ | ⟨-, rfl⟩ | ⟨-, rfl⟩ | ⟨-, rfl⟩ | ⟨-, rfl⟩
  · exact absurd same waiting
  · have commanded : (Switching.command call).Leads (Guarded waits)
        (fun commanded => Guarded (.settled commanded.1 commanded.2 unnamed :: waits)) (Guarded waits) := by
      refine Act.leads_bind _ _ _ _ (leads_of_calm waits _ (Cell.Calm.basis.find_actuator call.device)) fun found => ?_
      refine Act.leads_bind _ _ _ _ (leads_of_calm waits _ (Act.within_of_except Cell.Calm.refl _)) fun on => ?_
      refine Act.leads_bind _ _ _ _ (fire_actuator_leads waits found.1 found.2 on unnamed) fun _ => ?_
      exact fun _ guarded => guarded
    refine Act.leads_bind _ _ _ _ commanded fun commanded => ?_
    exact fun cell guarded => guarded.awaited_settled commanded.1 commanded.2 unnamed (call.bound cell)
  · exact guards_of_calm waits _ (wait_for_within Cell.Calm.basis.toFooting call)
  · exact guards_of_calm waits _ (stop_actuator_within Cell.Calm.basis.toFooting call)
  · exact guards_of_calm waits _ (read_actuator_within Cell.Calm.basis.toFooting call)

end Action

-- A call that does not leave a device in motion on purpose.
def Call.Waits (call : Call R) : Prop := call.operation ≠ .moveTo ∧ call.operation ≠ .fire

-- Runs with the standard handlers keep a guard on every device that they set in motion.
theorem guarded_upkeep [Scalar R] :
    Upkeep (R := R) HandlerTable.standard Call.Waits (fun _ => True) Guarded where
  perm order guarded := guarded.mono _ _ _ order.subset
  trace guarded _ _ _ := guarded.unchanged _ rfl rfl
  appeal guarded _ _ := guarded.unchanged _ rfl rfl
  issue guarded := guarded.unchanged _ rfl rfl
  again guarded _ := guarded.unchanged _ rfl rfl
  rest guarded _ := guarded.unchanged _ rfl rfl
  cancelled _ _ := trivial
  refused _ _ _ := trivial
  act := by
    intro waits cell call handler guarded waiting resolved
    have guards : Action.Guards waits (handler call) := by
      rcases HandlerTable.standard_handler cell call handler resolved with motion | switching | service
      · exact Action.guarded_motion waits call.operation waiting.1 handler motion call
      · exact Action.guarded_switching waits call.operation waiting.2 handler switching call
      · exact Action.guards_of_calm waits _ (Action.service_within Cell.Calm.basis call.operation handler service call)
    have after := guards cell guarded
    rcases result : handler call cell with ⟨outcome, next⟩
    rw [result] at after
    cases outcome with
    | ok reply => exact after
    | error failure =>
        cases failure with
        | fault fault => exact ⟨after, trivial⟩
        | panic message => exact after
  look guarded _ := guarded.looked
  abandon guarded := guarded.abandoned

end Workcell

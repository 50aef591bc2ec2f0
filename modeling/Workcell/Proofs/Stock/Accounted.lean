import Workcell.Proofs.Action.Later
import Workcell.Proofs.Exact
import Workcell.Proofs.Stock.Replay
import Workcell.Proofs.Telemetry.History
import Workcell.Proofs.Upkeep.Life

/-!
The events of a run account for its materials: every handler that changes the table queues the event that tells how,
and nothing else does either. The two corrections, `bind` and `unbind`, change the table behind the log.

Between two turns frames carry queued events away, and others may queue events of their own that tell of no material.
-/

set_option autoImplicit false

namespace Workcell

variable {R : Type}

def Cell.Accounted (before after : Cell R) : Prop :=
  ∃ news, after.events = before.events ++ news ∧
    ∀ log, Accounts log before.materials → Accounts (log ++ news) after.materials

namespace Cell.Accounted

theorem of_same (before after : Cell R) (events : after.events = before.events)
    (materials : after.materials = before.materials) : Accounted before after :=
  ⟨[], by simp [events], fun log accounts => by simpa [materials] using accounts⟩

theorem refl (cell : Cell R) : Accounted cell cell := of_same cell cell rfl rfl

theorem trans (first second third : Cell R) (before : Accounted first second) (after : Accounted second third) :
    Accounted first third := by
  obtain ⟨news, told, tells⟩ := before
  obtain ⟨more, toldMore, tellsMore⟩ := after
  refine ⟨news ++ more, by rw [toldMore, told, List.append_assoc], fun log accounts => ?_⟩
  rw [← List.append_assoc]
  exact tellsMore (log ++ news) (tells log accounts)

theorem placing : Placing (R := R) Accounted where
  refl := refl
  trans := trans
  putAxis cell handle before after := by
    obtain ⟨-, -, materials, events, -⟩ := cell.put_axis_keeps handle before after
    exact of_same _ _ events materials
  putActuator cell handle before after := by
    obtain ⟨-, -, materials, events, -⟩ := cell.put_actuator_keeps handle before after
    exact of_same _ _ events materials
  effect _ _ := of_same _ _ rfl rfl

theorem footing [Scalar R] : Footing (R := R) Accounted where
  refl := refl
  trans := trans
  addAxis _ _ _ _ _ _ := of_same _ _ rfl rfl
  addActuator _ _ _ _ _ _ := of_same _ _ rfl rfl
  timer _ _ := of_same _ _ rfl rfl
  assign _ _ _ := of_same _ _ rfl rfl
  stopAxis := placing.stop_axis
  stopActuator := placing.stop_actuator

end Cell.Accounted

namespace Action

theorem take_apply (station : String) (cell : Cell R) :
    Stock.take station cell = match cell.materials.at? station with
      | some material => (.ok material, { cell with materials := cell.materials.clear station })
      | none => (.error (.fault (.emptyStation station)), cell) := by
  rw [Stock.take, Act.bind_apply]
  simp only [Act.change, Cell.takeMaterial, MaterialTable.take]
  cases cell.materials.at? station with
  | some material => rfl
  | none => rfl

variable [Scalar R]

theorem spawn_accounted (call : Call R) : Act.Within Cell.Accounted (Stock.spawn call) := by
  have footing := Cell.Accounted.footing (R := R)
  refine Act.within_bind footing.trans _ _ (Act.within_of_except footing.refl _) fun station => ?_
  refine Act.within_bind footing.trans _ _ (Act.within_of_except footing.refl _) fun className => ?_
  refine Act.within_bind footing.trans _ _ (Act.within_change _ fun cell => .of_same _ _ rfl rfl) fun id => ?_
  refine Act.within_bind footing.trans _ _ (Act.within_tell _ fun cell => ?_) fun _ => Act.within_pure footing.refl _
  exact ⟨[_], rfl, fun log accounts => accounts.spawn log _ station ⟨id, className⟩⟩

theorem transform_accounted (call : Call R) : Act.Within Cell.Accounted (Stock.transform call) := by
  have footing := Cell.Accounted.footing (R := R)
  refine Act.within_bind footing.trans _ _ (Act.within_of_except footing.refl _) fun station => ?_
  refine Act.within_bind footing.trans _ _ (Act.within_of_except footing.refl _) fun className => ?_
  intro cell
  rw [Act.get_bind_apply]
  cases stands : cell.materials.at? station with
  | none => exact footing.refl cell
  | some before => exact ⟨[_], rfl, fun log accounts => accounts.transform log _ station className before stands⟩

theorem consume_accounted (call : Call R) : Act.Within Cell.Accounted (Stock.consume call) := by
  have footing := Cell.Accounted.footing (R := R)
  refine Act.within_bind footing.trans _ _ (Act.within_of_except footing.refl _) fun station => ?_
  intro cell
  rw [Act.bind_apply, take_apply]
  cases stands : cell.materials.at? station with
  | none => exact footing.refl cell
  | some material => exact ⟨[_], rfl, fun log accounts => accounts.consume log _ station material stands⟩

theorem attach_accounted (call : Call R) : Act.Within Cell.Accounted (Stock.attach call) := by
  have footing := Cell.Accounted.footing (R := R)
  refine Act.within_bind footing.trans _ _ (Act.within_of_except footing.refl _) fun holder => ?_
  refine Act.within_bind footing.trans _ _ (Act.within_of_except footing.refl _) fun source => ?_
  intro cell
  rw [Act.bind_apply, take_apply]
  cases stands : cell.materials.at? source with
  | none => exact footing.refl cell
  | some material => exact ⟨[_], rfl, fun log accounts => accounts.attach log _ holder source material stands⟩

theorem detach_accounted (call : Call R) : Act.Within Cell.Accounted (Stock.detach call) := by
  have footing := Cell.Accounted.footing (R := R)
  refine Act.within_bind footing.trans _ _ (Act.within_of_except footing.refl _) fun holder => ?_
  refine Act.within_bind footing.trans _ _ (Act.within_of_except footing.refl _) fun target => ?_
  intro cell
  rw [Act.bind_apply, take_apply]
  cases stands : cell.materials.at? holder with
  | none => exact footing.refl cell
  | some material => exact ⟨[_], rfl, fun log accounts => accounts.detach log _ holder target material stands⟩

end Action

-- Calls for anything but a correction of the table.
def Call.Regular (call : Call R) : Prop := call.operation ≠ .bind ∧ call.operation ≠ .unbind

variable [Scalar R]

theorem regular_accounted (cell : Cell R) (call : Call R) (handler : Handler R) (regular : call.Regular)
    (resolved : HandlerTable.standard.resolve cell call = .ok handler) :
    Act.Within Cell.Accounted (handler call) := by
  have placing := Cell.Accounted.placing (R := R)
  refine Action.standard_within_of_stock Cell.Accounted.footing placing.command_axis placing.fire_actuator cell call ?_
    handler resolved
  intro handler member
  simp only [Action.stocks, List.mem_cons, Prod.mk.injEq, List.not_mem_nil, or_false] at member
  rcases member with ⟨-, rfl⟩ | ⟨-, rfl⟩ | ⟨-, rfl⟩ | ⟨bound, -⟩ | ⟨unbound, -⟩ | ⟨-, rfl⟩ | ⟨-, rfl⟩
  · exact Action.spawn_accounted call
  · exact Action.transform_accounted call
  · exact Action.consume_accounted call
  · exact absurd bound regular.1
  · exact absurd unbound regular.2
  · exact Action.attach_accounted call
  · exact Action.detach_accounted call

def Cell.Tells (first taken : List (Event R)) (cell : Cell R) : Prop :=
  ∃ log, taken ++ cell.events = first ++ log ∧ Accounts log cell.materials

theorem tells_upkeep (first taken : List (Event R)) :
    Upkeep HandlerTable.standard Call.Regular (fun _ => True) fun _ => Cell.Tells (R := R) first taken := by
  refine Cell.Accounted.footing.upkeep (fun _ _ _ _ _ _ => .of_same _ _ rfl rfl) _ regular_accounted _ _ ?_
    (fun _ _ => trivial) (fun _ _ _ => trivial)
  rintro before after ⟨news, added, accounted⟩ ⟨log, told, accounts⟩
  exact ⟨log ++ news, by rw [added, ← List.append_assoc, told, List.append_assoc], accounted log accounts⟩

-- What a task has come to in the last of its turns, and the events carried away between its turns.
inductive Reported (task : Task R) (cell : Cell R) : List (Event R) → Progress R → Cell R → Prop where
  | first {progress after} (keys : List Nat)
      (turn : (task.wake keys).poll HandlerTable.standard cell = (progress, after)) :
      Reported task cell [] progress after
  | next {taken run before between progress after} (keys : List Nat) (carried left more : List (Event R))
      (earlier : Reported task cell taken (.pending run) before) (split : before.events = carried ++ left)
      (queue : between.events = left ++ more) (others : ∀ event ∈ more, event.kind.tellsMaterial = false)
      (same : between.materials = before.materials)
      (turn : (Task.running (run.wake keys)).poll HandlerTable.standard between = (progress, after)) :
      Reported task cell (taken ++ carried) progress after

theorem reported_tells (step : Step R) (every : step.Every Call.Regular) (cell : Cell R)
    (bare : cell.materials.entries = []) (taken : List (Event R)) (progress : Progress R) (after : Cell R)
    (reported : Reported (.fresh step) cell taken progress after) :
    Upkeep.After Call.Regular (fun _ => True) (fun _ => Cell.Tells cell.events taken) [] (progress, after) := by
  induction reported with
  | first keys turn =>
      have kept := (tells_upkeep cell.events []).start_keeps step every [] cell ⟨[], by simp, .empty _ bare⟩
      exact (show step.start _ cell = _ from turn) ▸ kept
  | next keys carried left more earlier split queue others same turn ih =>
      rename_i taken run before between progress after
      obtain ⟨⟨log, told, accounts⟩, fit⟩ := ih
      have heldBetween : Cell.Tells cell.events (taken ++ carried) between := by
        refine ⟨log ++ more, ?_, ?_⟩
        · calc taken ++ carried ++ between.events
              _ = taken ++ before.events ++ more := by simp [queue, split]
              _ = cell.events ++ (log ++ more) := by rw [told, List.append_assoc]
        · rw [same]
          exact accounts.push_others log more _ others
      have kept := (tells_upkeep cell.events (taken ++ carried)).resume_keeps (run.wake keys) (wake_fit keys run fit) []
        between heldBetween
      exact (show (run.wake keys).resume _ between = _ from turn) ▸ kept

/-- The material events of a run, replayed from empty stations, give the table of materials at every turn and at the
end, and each is true of the stations that those before it give. -/
theorem events_account_for_the_materials (step : Step R) (every : step.Every Call.Regular) (cell : Cell R)
    (bare : cell.materials.entries = []) (taken : List (Event R)) (progress : Progress R) (after : Cell R)
    (reported : Reported (.fresh step) cell taken progress after) :
    ∃ log, taken ++ after.events = cell.events ++ log ∧ Accounts log after.materials := by
  have told := reported_tells step every cell bare taken progress after reported
  cases progress with
  | done value => exact told
  | fault fault => exact told.1
  | panicked message => exact told
  | pending run => exact told.1

def boltAfterBolt : Step Rat :=
  Flow.repeated (Flow.andThen (Flow.spawn "nest" "bolt") (Flow.attach "gripper" "nest")) (-1)

theorem events_account_for_the_bolts :
    boltAfterBolt.Every Call.Regular ∧ gripperCell.materials.entries = [] ∧
      ∃ run before progress after, boltAfterBolt.start .standard gripperCell = (.pending run, before) ∧
        run.resume .standard before.drainEvents.2 = (progress, after) ∧
        (before.events ++ after.events).map Event.kind = [.materialSpawn, .attach, .materialSpawn, .attach] ∧
        (after.materials.at? "gripper").map Material.className = some "bolt" ∧
        replay (before.events ++ after.events) = some after.materials.at? := by
  have regular : boltAfterBolt.Every Call.Regular := by
    refine ⟨?_, fun _ => ?_⟩
    · exact ⟨by decide, by decide⟩
    · exact ⟨by decide, by decide⟩
  have begun : (boltAfterBolt.start .standard gripperCell).1.isPending = true := by decide +kernel
  have kinds : ((boltAfterBolt.start .standard gripperCell).2.events ++
      (boltAfterBolt.twoTurns .standard (fun cell => cell.drainEvents.2) gripperCell).2.events).map Event.kind =
        [.materialSpawn, .attach, .materialSpawn, .attach] := by
    decide +kernel
  have gripped : ((boltAfterBolt.twoTurns .standard (fun cell => cell.drainEvents.2) gripperCell).2.materials.at?
      "gripper").map Material.className = some "bolt" := by
    decide +kernel
  refine ⟨regular, rfl, ?_⟩
  rcases result : boltAfterBolt.start .standard gripperCell with ⟨first, before⟩
  rw [result] at begun kinds
  simp only [Step.twoTurns, result] at kinds gripped
  cases first with
  | pending run =>
      rcases turn : run.resume .standard before.drainEvents.2 with ⟨progress, after⟩
      simp only [turn] at kinds gripped
      have drained : before.drainEvents.2.events = [] ++ [] := rfl
      have untouched : before.drainEvents.2.materials = before.materials := rfl
      have reported : Reported (.fresh boltAfterBolt) gripperCell ([] ++ before.events) progress after :=
        .next [] before.events [] [] (.first [] result) (by simp) drained (by simp) untouched turn
      obtain ⟨log, told, accounts⟩ :=
        events_account_for_the_materials boltAfterBolt regular gripperCell rfl _ _ _ reported
      have whole : before.events ++ after.events = log := told
      exact ⟨run, before, progress, after, rfl, turn, kinds, gripped, whole ▸ accounts.replays⟩
  | done value => cases begun
  | fault fault => cases begun
  | panicked message => cases begun

end Workcell

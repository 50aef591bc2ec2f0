import Workcell.Proofs.Completion.Attended
import Workcell.Proofs.Completion.Carrying

/-!
The rounds of carrying complete. On a machine that is fit to run and has two axes, a cylinder and a vacuum effector they
can be built, and on the bench they come to a value, leave no material behind, and tell of three rounds; on any other
machine there is no such flow.
-/

set_option autoImplicit false

namespace Workcell

variable {R A : Type} [Scalar R]

open Schedule

structure Scenario.Equipped (machine : Machine R) : Prop where
  axes : 2 ≤ machine.axes.length
  cylinder : ∃ spec ∈ machine.actuators, spec.kind = .cylinder
  vacuum : ∃ spec ∈ machine.actuators, spec.kind = .vacuum

-- A cell in which no run has begun: there is a scheduler, no material, and no event.
structure Cell.Unused (machine : Machine R) (cell : Cell R) : Prop where
  machine : cell.machine = machine
  simulated : ∃ tick, cell.driver = .simulation tick
  paced : cell.Paced
  live : cell.live = true
  going : cell.cancelled = false
  bare : cell.materials.entries = []
  silent : cell.events = []

theorem MaterialTable.entries_of_bare (table : MaterialTable) (bare : table.at? = fun _ => none) : table.entries = [] := by
  cases entries : table.entries with
  | nil => rfl
  | cons entry rest =>
      have there : table.at? entry.1 = some entry.2 := by rw [at?, entries, List.lookup_cons, beq_self_eq_true]
      rw [bare] at there
      cases there

namespace Scenario

omit [Scalar R] in
theorem first_of_some (machine : Machine R) (kind : ActuatorKind) (has : ∃ spec ∈ machine.actuators, spec.kind = kind) :
    ∃ id, firstOf machine kind = some id := by
  obtain ⟨spec, member, same⟩ := has
  cases found : machine.actuators.find? fun spec => spec.kind == kind with
  | some other => exact ⟨other.id, by rw [firstOf, found]; rfl⟩
  | none => exact absurd (List.find?_eq_none.mp found spec member) (by simp [same])

theorem build_of_equipped (ranges : Scalar.Ranges R) (machine : Machine R) (valid : machine.validate = .ok ())
    (finite : ∀ spec ∈ machine.axes, spec.Finite) (equipped : Equipped machine) :
    ∃ x z gripper suction stops, build builtin pickAndPlaceName machine = .ok (carrying x z gripper suction stops) ∧
      firstOf machine .vacuum = some suction ∧ Scenario.Set machine x z gripper suction stops := by
  have fit := machine.fit_of_valid valid
  obtain ⟨gripper, isGripper⟩ := first_of_some machine .cylinder equipped.cylinder
  obtain ⟨suction, isSuction⟩ := first_of_some machine .vacuum equipped.vacuum
  obtain ⟨x, z, others, axes⟩ : ∃ x z others, machine.axes = x :: z :: others := by
    rcases axes : machine.axes with _ | ⟨x, _ | ⟨z, others⟩⟩
    · exact absurd equipped.axes (by simp [axes])
    · exact absurd equipped.axes (by simp [axes])
    · exact ⟨x, z, others, rfl⟩
  have first : x ∈ machine.axes := axes ▸ List.mem_cons_self
  have second : z ∈ machine.axes := axes ▸ List.mem_cons_of_mem _ List.mem_cons_self
  have ordered := ranges.le_of_lt _ _ (fit.axes z second).2
  obtain ⟨stops, stopped, places⟩ := stops_finite ranges x z (finite x first) (finite z second) ordered
  refine ⟨x.id, z.id, gripper, suction, stops, ?_, isSuction, ?_⟩
  · show pickAndPlace machine = _
    rw [pickAndPlace, axes]
    simp only [isGripper, isSuction, stopped]
  · exact ⟨fit.moves ranges x first, fit.moves ranges z second, fit.fires .cylinder gripper isGripper,
      fit.fires .vacuum suction isSuction, places⟩

theorem build_of_unequipped (machine : Machine R) (lacks : ¬ Equipped machine) :
    ∃ reason, build builtin pickAndPlaceName machine = .error (.fault (.scenarioUnavailable pickAndPlaceName reason)) := by
  show ∃ reason, pickAndPlace machine = _
  rw [pickAndPlace]
  rcases axes : machine.axes with _ | ⟨x, _ | ⟨z, others⟩⟩
  · exact ⟨_, rfl⟩
  · exact ⟨_, rfl⟩
  · have has : ∀ kind id, firstOf machine kind = some id → ∃ spec ∈ machine.actuators, spec.kind = kind := by
      intro kind id first
      obtain ⟨spec, found, -⟩ := Option.map_eq_some_iff.mp first
      exact ⟨spec, List.mem_of_find?_eq_some found, by simpa using List.find?_some found⟩
    cases cylinder : firstOf machine .cylinder with
    | none => exact ⟨_, rfl⟩
    | some gripper =>
        cases vacuum : firstOf machine .vacuum with
        | none => exact ⟨_, rfl⟩
        | some suction =>
            exact absurd ⟨by simp [axes], has _ _ cylinder, has _ _ vacuum⟩ lacks

end Scenario

open Scenario

/-- On a machine that is fit to run, with finite values, the rounds of carrying run to a value whatever the seed, the
bounds of waits and the tick are. They leave no material behind and tell of three rounds, each of one material. Where a
device is lacking there is no such flow, and nothing else is wrong. -/
theorem pick_and_place_completes (ranges : Scalar.Ranges R) (machine : Machine R) :
    (machine.validate = .ok () → (∀ spec ∈ machine.axes, spec.Finite) → Equipped machine →
      ∃ flow suction, build builtin pickAndPlaceName machine = .ok flow ∧ firstOf machine .vacuum = some suction ∧
        ∀ (cell : Cell R), cell.Unused machine → ∀ (epsilon : R) (answer : Outcome R → A), ∃ fuel value,
          let bench := (Bench.new cell .standard epsilon).execute [.run flow answer] fuel
          bench.finished = true ∧ bench.broken = false ∧ bench.log.toList.map Prod.fst = [answer (.value value)] ∧
            bench.cell.materials.entries = [] ∧
            bench.cell.events = (cell.ids.materials [blank, blank, blank]).flatMap (Scene.carriage suction)) ∧
    (¬ Equipped machine →
      ∃ reason, build builtin pickAndPlaceName machine =
      .error (.fault (.scenarioUnavailable pickAndPlaceName reason))) := by
  refine ⟨fun valid finite equipped => ?_, build_of_unequipped machine⟩
  obtain ⟨x, z, gripper, suction, stops, built, isSuction, set⟩ := build_of_equipped ranges machine valid finite equipped
  refine ⟨_, suction, built, isSuction, fun cell unused epsilon answer => ?_⟩
  obtain ⟨tick, simulated⟩ := unused.simulated
  have ready : cell.scene.Ready tick := ⟨simulated, unused.paced, unused.live, unused.going⟩
  have there : Scenario.Set cell.scene.machine x z gripper suction stops := by
    show Scenario.Set cell.machine x z gripper suction stops
    rw [unused.machine]
    exact set
  obtain ⟨budget, takes⟩ := Scenario.Set.carrying_takes ready there
  obtain ⟨fuel, served⟩ := Bench.execute_served cell takes epsilon answer
  obtain ⟨value, answered⟩ := served.answered
  refine ⟨fuel, value, served.finished, served.unbroken, answered, ?_, ?_⟩
  · have bare : cell.scene.Bare := by
      funext station
      show cell.materials.entries.lookup station = none
      rw [unused.bare]
      rfl
    have left := Scene.rounds_bare cell.scene suction bare 3
    rw [← served.left] at left
    exact MaterialTable.entries_of_bare _ left
  · have told := Scene.rounds_events cell.scene suction 3
    rw [← served.left] at told
    have silent : cell.scene.events = [] := unused.silent
    rw [silent, List.nil_append] at told
    exact told

def stationMachine : Machine Rat :=
  ⟨"cell", [.new "X" 0 100, .new "Z" (-20) 30], [.new "Infeed" .vacuum 50, .new "Outfeed" .cylinder 200]⟩

def stationCell : Cell Rat := Cell.new stationMachine (.simulation (.ofMillis 10))

theorem exact_ranges : Scalar.Ranges Rat :=
  ⟨fun _ _ => Rat.le_of_lt, rfl, fun _ _ _ _ _ _ _ => rfl, fun _ _ _ _ _ _ _ => rfl⟩

theorem pick_and_place_completes_among_stations :
    (stationMachine.validate = .ok () ∧ (∀ spec ∈ stationMachine.axes, spec.Finite) ∧ Equipped stationMachine ∧
      stationCell.Unused stationMachine ∧
      ∃ flow, build builtin pickAndPlaceName stationMachine = .ok flow ∧ ∃ fuel value,
        let bench := (Bench.new stationCell .standard (0 : Rat)).execute [.run flow id] fuel
        bench.finished = true ∧ bench.broken = false ∧ bench.log.toList.map Prod.fst = [.value value] ∧
          bench.cell.materials.entries = [] ∧
          bench.cell.events = (stationCell.ids.materials [blank, blank, blank]).flatMap (Scene.carriage "Infeed")) ∧
    ∃ reason, build builtin pickAndPlaceName gripperCell.machine =
      .error (.fault (.scenarioUnavailable pickAndPlaceName reason)) := by
  have valid : stationMachine.validate = .ok () := by rfl
  have finite : ∀ spec ∈ stationMachine.axes, spec.Finite := fun _ _ => ⟨rfl, rfl, rfl, fun _ _ => rfl⟩
  have equipped : Equipped stationMachine :=
    ⟨by decide, ⟨.new "Outfeed" .cylinder 200, by decide, rfl⟩, ⟨.new "Infeed" .vacuum 50, by decide, rfl⟩⟩
  have paced : stationCell.Paced := by simp [Cell.Paced, stationCell, Cell.new, Bank.empty]
  have unused : stationCell.Unused stationMachine := ⟨rfl, ⟨_, rfl⟩, paced, rfl, rfl, rfl, rfl⟩
  have lacks : ¬ Equipped gripperCell.machine := fun equipped => absurd equipped.axes (by decide)
  obtain ⟨flow, suction, built, first, runs⟩ :=
    (pick_and_place_completes exact_ranges stationMachine).1 valid finite equipped
  cases first
  exact ⟨⟨valid, finite, equipped, unused, flow, built, runs stationCell unused 0 id⟩,
    (pick_and_place_completes (A := Nat) exact_ranges gripperCell.machine).2 lacks⟩

end Workcell

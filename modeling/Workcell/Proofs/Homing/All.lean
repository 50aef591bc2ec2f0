import Workcell.Proofs.Homing.Sending

/-!
All axes are homed together. The run takes as long as the longest of its waits; each axis comes home in its own time, or is
stopped at the limit on its way.
-/

set_option autoImplicit false

namespace Workcell

open Exact (fractions)
open Scenario (outsetOf)

-- A drive that whatever is commanded now takes the place of.
def Drive.Older {R : Type} (cell : Cell R) : Drive R → Prop
  | .axis handle motion => ∃ axis, cell.axes.get? handle = some axis ∧ motion.generation ≤ axis.generation
  | .actuator .. => True

-- An operator is about to have a step run, with nobody at work beside it but motors of earlier commands.
structure Schedule.Poised {R A : Type} [Scalar R] (runner : Nat) (step : Step R) (answer : Outcome R → A)
    (schedule : BenchSchedule R A) : Prop where
  slot : schedule.Slot runner (some (.operator .ready [.run step answer]))
  head : schedule.ready.head? = some runner
  beside : ∀ entry ∈ schedule.jobs, entry.1 ≠ runner → ∃ work, entry.2 = .motor work ∧ work.drive.Older schedule.world.cell ∧
    ∀ timer, work.timer = some timer → timer.due ≤ schedule.world.cell.now → entry.1 ∈ schedule.ready
  standard : schedule.world.handlers = .standard
  unfinished : schedule.world.finished = false
  live : schedule.world.cell.live = true
  uncut : schedule.world.cell.cancelled = false
  quiet : schedule.world.cell.outbox = []
  ticking : schedule.world.cell.Ticking
  tidy : schedule.world.cell.axes.Tidy

namespace Schedule.Poised

variable {A : Type} {runner : Nat} {answer : Outcome Rat → A} {schedule : BenchSchedule Rat A}

theorem secluded {step : Step Rat} (poised : schedule.Poised runner step answer) (handle generation : Nat)
    (newer : ∀ axis, schedule.world.cell.axes.get? handle = some axis → axis.generation < generation) (mover : Option Nat) :
    schedule.Secluded Bench.workload .motor (Drive.LeavesAxis handle generation) mover runner := by
  intro entry member other
  obtain ⟨work, isMotor, older, prompt⟩ := poised.beside entry member other
  refine ⟨work, isMotor, fun _ => ?_, prompt⟩
  cases drives : work.drive with
  | axis held motion =>
      rintro rfl
      rw [drives] at older
      obtain ⟨axis, there, most⟩ := older
      exact (most.trans_lt (newer axis there)).ne
  | actuator handle stroke began => trivial

end Schedule.Poised

namespace Cell.Outset

variable {A : Type} {bench home : Bench Rat A} {runner number key : Nat} {answer : Outcome Rat → A}
  {departures : List Departure} {after last : Cell Rat} {values : List (Value Rat)}

theorem at_once (outset : (outsetOf bench.cell).Outset number departures after)
    (same : last = after ∨ last = after.effect (.again key))
    (ended : departures.map (Departure.branch (Duration.due bench.cell.now bench.cell.waitBound) bench.cell.now) =
      values.map .ended) (finished : home.finished = true) (broken : home.broken = bench.broken)
    (axes : home.cell.axes = last.axes) (now : home.cell.now = bench.cell.now)
    (logged : ∃ cell, home.log = bench.log.push (answer (.value (.list values)), cell)) :
    (Departure.convoy bench runner answer departures last).Home fractions home := by
  let limit := Duration.due bench.cell.now bench.cell.waitBound
  let since := bench.cell.now
  have lastAxes : last.axes = after.axes := by
    rcases same with rfl | rfl
    · rfl
    · rfl
  have ends : ∀ (index : Nat) (departure : Departure), departures[index]? = some departure →
      values[index]? = some (.number departure.axis.sentHome.state.position) ∧
        (departure.axis.wayHome.ticks = 0 ∨ limit ≤ since) := by
    intro index departure there
    have isBranch := congrArg (fun branches : List (Branch Rat) => branches[index]?) ended
    simp only [List.getElem?_map, there, Option.map_some] at isBranch
    obtain ⟨value, isValue, isEnd⟩ := Option.map_eq_some_iff.mp isBranch.symm
    rw [Departure.branch] at isEnd
    split at isEnd
    · cases isEnd
      exact ⟨isValue, ‹_›⟩
    · cases isEnd
  have halts : ∀ departure ∈ departures, departure.homing.Ended fractions since limit departure.axis.sentHome.halt ∧
      min (departure.homing.arrival since) limit ≤ since := by
    intro departure member
    obtain ⟨index, there⟩ := List.getElem?_of_mem member
    have off := outset.each departure member
    have sound : departure.homing.Sound := ⟨departure.axis.way_moves off.valid off.lasts, off.lasts⟩
    have begun : tickAt departure.homing.axis.tick since 0 ≤ since := Nat.le_refl _
    obtain ⟨isEnd, least, -⟩ := Homing.ended_of_halt fractions sound (Nat.zero_le _) begun
      (fun _ => Duration.due_least ..) (Duration.due_least ..) <| (ends index departure there).2.imp_left fun arrived =>
        (Schedule.Returning.rests_iff fractions since (Nat.zero_le _)).mpr arrived.symm
    exact ⟨isEnd, least⟩
  refine ⟨finished, broken, congrArg Bank.index axes, ?_, ?_⟩
  · obtain ⟨cell, log⟩ := logged
    refine ⟨values, cell, log, ?_, fun index homing known => ?_⟩
    · have lengths := congrArg List.length ended
      rw [List.length_map, List.length_map] at lengths
      exact lengths.symm.trans (List.length_map _).symm
    · obtain ⟨departure, there, rfl⟩ := Option.map_eq_some_iff.mp (List.getElem?_map ▸ known)
      have member := List.mem_of_getElem? there
      obtain ⟨isValue, isOver⟩ := ends index departure there
      refine ⟨departure.axis.sentHome.halt, ?_, ?_, (halts departure member).1⟩
      · rw [axes, lastAxes]
        refine (outset.each departure member).there.trans ?_
        split
        · rfl
        · rw [Departure.sent_halt _ (isOver.resolve_right ‹_›)]
      · rw [Homing.halt_position]
        exact isValue
  · refine now.trans (foldl_max_eq _ _ _ (Nat.le_refl _) (fun time member => ?_) (Or.inl rfl)).symm
    obtain ⟨homing, inside, rfl⟩ := List.mem_map.mp member
    obtain ⟨departure, known, rfl⟩ := List.mem_map.mp inside
    exact (halts departure known).2

end Cell.Outset

namespace Schedule.Poised

variable {A : Type} {runner : Nat} {answer : Outcome Rat → A} {schedule : BenchSchedule Rat A}

theorem turn_ends {step : Step Rat} (poised : schedule.Poised runner step answer) {value : Value Rat}
    {cell : Cell Rat} (started : step.start .standard schedule.world.cell = (.done value, cell)) :
    ∃ next, schedule.step Bench.workload = some next ∧ next.world.finished = true ∧
      next.world.broken = schedule.world.broken ∧ next.world.cell.axes = cell.axes ∧ next.world.cell.now = cell.now ∧
      next.world.log = schedule.world.log.push (answer (.value value), cell) := by
  obtain ⟨rest, ready⟩ := Trip.ready_of_head poised.head
  have advanced : schedule.world.advance (.fresh step) = (.ok (.value value), schedule.world.withCell cell) := by
    have advanced : schedule.world.advance (.fresh step) =
      ((step.start schedule.world.handlers schedule.world.cell).1.outcome,
        schedule.world.withCell (step.start schedule.world.handlers schedule.world.cell).2) := rfl
    rw [advanced, poised.standard, started]
    rfl
  have polled := (Bench.poll_ready [.run step answer] schedule.world).trans (Bench.follow_answered _ [] schedule.world _ _
    (Bench.begin_run_ended step answer schedule.world _ _ advanced))
  refine ⟨_, by rw [Schedule.step, ready], ?_⟩
  rw [turn_of_poll rest poised.slot.found polled, grants_world, leave_world]
  exact ⟨rfl, rfl, rfl, rfl, rfl⟩

theorem turn_waits {step : Step Rat} (poised : schedule.Poised runner step answer) {run : Run Rat} {cell : Cell Rat}
    (started : step.start .standard schedule.world.cell = (.pending run, cell))
    (still : cell.now = schedule.world.cell.now) :
    ∃ base : BenchSchedule Rat A, schedule.step Bench.workload = some ((cell.outbox.map (Effect.request .motor)).foldl
        (fun schedule request => schedule.grant Bench.workload runner request) base) ∧
      base.world = schedule.world.withCell { cell with outbox := [] } ∧ base.next = schedule.next ∧
      base.Slot runner (some (Bench.watching answer run)) ∧
      ∀ spares mover, schedule.Secluded Bench.workload .motor spares mover runner →
        base.Secluded Bench.workload .motor spares mover runner := by
  obtain ⟨rest, ready⟩ := Trip.ready_of_head poised.head
  have advanced := schedule.world.advance_fresh_waits step run cell (poised.standard.symm ▸ started)
  have polled := (Bench.poll_ready [.run step answer] schedule.world).trans (Bench.follow_waits _ [] schedule.world _ _
    (Bench.begin_run_waits step answer schedule.world _ _ advanced))
  let world := schedule.world.withCell { cell with outbox := [] }
  let popped : BenchSchedule Rat A := { schedule with ready := rest, world := world }
  refine ⟨popped.leave runner (some (Bench.watching answer run)), ?_, rfl, rfl, leave_slot poised.slot world rest _,
    fun spares mover secluded => ?_⟩
  · rw [Schedule.step, ready]
    exact congrArg some (turn_of_poll rest poised.slot.found polled)
  · exact secluded.leave ready world still _ fun other => absurd rfl other

theorem homes (poised : schedule.Poised runner (Scenario.homingAll schedule.world.cell.machine) answer)
    (valid : schedule.world.cell.machine.validate = .ok ())
    (offers : ∀ spec ∈ schedule.world.cell.machine.axes, ∃ axis, schedule.world.cell.axisAt? spec = some axis ∧
      axis.spec.validate = .ok () ∧ axis.tick ≠ 0) :
    ∃ departures after last fuel, departures.map Departure.spec = schedule.world.cell.machine.axes ∧
      (outsetOf schedule.world.cell).Outset schedule.next departures after ∧ last.axes = after.axes ∧
      (Departure.convoy schedule.world runner answer departures last).Home fractions
        (schedule.run Bench.workload (fun bench => bench.finished) fuel).world := by
  let cell := schedule.world.cell
  obtain ⟨departures, after, last, specs, outset, same, ending⟩ := Scenario.home_all_starts schedule.next valid poised.tidy
    poised.ticking poised.quiet poised.uncut poised.live offers
  have axes : last.axes = after.axes := by
    rcases same with rfl | rfl
    · rfl
    · rfl
  have now : last.now = cell.now := by
    rcases same with rfl | rfl
    · exact outset.now
    · exact outset.now
  have run_on : ∀ fuel next, schedule.step Bench.workload = some next →
      schedule.run Bench.workload (fun bench => bench.finished) (fuel + 1) =
        next.run Bench.workload (fun bench => bench.finished) fuel := by
    intro fuel next stepped
    rw [Schedule.run, if_neg (by simp [poised.unfinished])]
    simp only [stepped]
  rcases ending with ⟨values, ended, started⟩ | ⟨⟨index, branch, present, isOpen⟩, started⟩
  · obtain ⟨next, stepped, finished, broken, isAxes, isNow, log⟩ := poised.turn_ends started
    refine ⟨departures, after, last, 1, specs, outset, axes, ?_⟩
    rw [run_on 0 next stepped]
    exact outset.at_once same ended finished broken isAxes (isNow.trans now) ⟨_, log⟩
  · obtain ⟨base, stepped, world, next, slot, secluded⟩ := poised.turn_waits started now
    have distinct : (departures.map fun departure => departure.spec.id).Nodup := by
      have ids := (List.nodup_append'.mp (cell.machine.valid_iff.mp valid).2.2.1).1
      rw [← specs, List.map_map] at ids
      exact ids
    have sound : (Departure.convoy schedule.world runner answer departures last).Sound :=
      outset.convoy_sound distinct poised.unfinished
    obtain ⟨woken, returning⟩ := outset.returning same poised.uncut present isOpen world next slot
      fun departure member mover => secluded _ mover <| poised.secluded _ _ (fun axis there =>
        Nat.lt_succ_of_le ((outset.each departure member).older axis there)) mover
    obtain ⟨fuel, home⟩ := Schedule.Returning.ends sound _ woken _ returning
    exact ⟨departures, after, last, fuel + 1, specs, outset, axes, by rw [run_on fuel _ stepped]; exact home⟩

end Schedule.Poised

theorem home_position_exact (spec : AxisSpec Rat) (ordered : spec.min ≤ spec.max) :
    spec.homePosition? = some (max spec.min (min (spec.home.getD 0) spec.max)) := by
  rw [AxisSpec.homePosition?]
  show spec.clamp? (fractions.of (spec.home.getD 0)) = _
  exact clamp_exact fractions spec spec.min spec.max _ rfl rfl ordered

namespace Axis

def homeBy (since : Nat) (axis : Axis Rat) : Nat := tickAt axis.tick since axis.wayHome.ticks

-- How an axis stands that has been sent home, and has been waited for up to a limit: it is at home where it could be
-- in time; else it was stopped on its way, after so many of its ticks as the limit left.
structure Homed (since limit : Nat) (axis after : Axis Rat) : Prop where
  idle : after.state.moving = false
  home : axis.homeBy since < limit → axis.spec.homePosition? = some after.state.position ∧ after.state.homed = true
  short : limit < axis.homeBy since → after.state.homed = false ∧ ∃ ticks < axis.wayHome.ticks,
    tickAt axis.tick since ticks ≤ limit ∧ limit ≤ tickAt axis.tick since (ticks + 1) ∧
      after.state.position = axis.wayHome.place ticks

theorem homed_of_waited {axis after : Axis Rat} {since limit now : Nat} {progress : Progress Rat}
    (valid : axis.spec.validate = .ok ())
    (waited : axis.wayHome.Waited fractions axis.state.homed true axis.tick since limit now progress after) :
    axis.Homed since limit after where
  idle := waited.idle
  home early := by
    rw [(waited.arrives early).2]
    exact ⟨home_position_exact axis.spec (Travel.limits_of_valid axis.spec valid).1.le, Bool.or_true _⟩
  short late := by
    obtain ⟨-, ticks, short, past, ahead, state⟩ := waited.frozen late
    rw [state]
    exact ⟨Bool.and_false _, ticks, short, past, ahead, rfl⟩

end Axis

theorem Cell.axis_at_of_simulation (cell : Cell Rat) {tick : Duration} (simulated : cell.driver = .simulation tick)
    (lasts : tick ≠ 0) (ticking : cell.Ticking) (spec : AxisSpec Rat) (valid : spec.validate = .ok ())
    (registered : ∀ handle axis, cell.axes.find? spec.id = some (handle, axis) → axis.spec.validate = .ok ()) :
    ∃ axis, cell.axisAt? spec = some axis ∧ axis.spec.validate = .ok () ∧ axis.tick ≠ 0 := by
  unfold axisAt?
  cases found : cell.axes.find? spec.id with
  | some entry =>
      obtain ⟨handle, axis⟩ := entry
      have there := ((cell.axes.find_iff _ _ _).mp found).2
      exact ⟨axis, rfl, registered handle axis found, ticking.axes axis (List.mem_of_getElem? there)⟩
  | none =>
      have parks := home_position_exact spec (Travel.limits_of_valid spec valid).1.le
      simp only [simulated, Driver.createAxis, Axis.new?, parks, Option.map_some]
      exact ⟨_, rfl, valid, lasts⟩

-- What becomes of a bench that homes its machine: `axes` are the ones that are sent home, `after` what they are then.
structure Bench.Homecoming {A : Type} (answer : Outcome Rat → A) (begun ended : Bench Rat A) (limit : Nat)
    (axes after : List (Axis Rat)) : Prop where
  sent : begun.cell.machine.axes.map (fun spec => begun.cell.axisAt? spec) = axes.map some
  finished : ended.finished = true
  broken : ended.broken = begun.broken
  answered : ∃ last, ended.log = begun.log.push
    (answer (.value (.list (after.map fun axis => .number axis.state.position))), last)
  stand : begun.cell.machine.axes.map (fun spec => (ended.cell.axes.find? spec.id).map Prod.snd) = after.map some
  homed : List.Forall₂ (Axis.Homed begun.cell.now limit) axes after
  lasted : ended.cell.now = (axes.map fun axis => min (axis.homeBy begun.cell.now) limit).foldl max begun.cell.now
  prompt : (∀ axis ∈ axes, axis.homeBy begun.cell.now < limit) →
    ended.cell.now = (axes.map (Axis.homeBy begun.cell.now)).foldl max begun.cell.now

/-- All axes are sent home together, from wherever they are, be they registered or still to be made, and the run that sends
them waits for them all. With the limit at which the time for waiting is over, counted from when the run begins:

* The run comes to its end, and is answered with a list of one number for each axis in the order of the machine: where that
  axis stands then.
* Each axis is idle then. If it could be home before the limit it is, and is homed; if it could not be home by the limit it
  was stopped on its way, and is not homed.
* The run takes as long as the slowest of the axes, or up to the limit. -/
theorem all_axes_come_home {A : Type} (runner : Nat) (step : Step Rat) (answer : Outcome Rat → A)
    (begun : BenchSchedule Rat A) (built : Scenario.homeAll begun.world.cell.machine = .ok step)
    (poised : begun.Poised runner step answer) (valid : begun.world.cell.machine.validate = .ok ()) (tick : Duration)
    (simulated : begun.world.cell.driver = .simulation tick) (lasts : tick ≠ 0)
    (registered : ∀ spec ∈ begun.world.cell.machine.axes, ∀ handle axis,
      begun.world.cell.axes.find? spec.id = some (handle, axis) → axis.spec.validate = .ok ()) :
    ∃ (axes after : List (Axis Rat)) (fuel : Nat), Bench.Homecoming answer begun.world
      (begun.run Bench.workload (fun bench => bench.finished) fuel).world
      (Duration.due begun.world.cell.now begun.world.cell.waitBound) axes after := by
  let cell := begun.world.cell
  let limit := Duration.due cell.now cell.waitBound
  obtain rfl : Scenario.homingAll cell.machine = step := Except.ok.inj built
  obtain ⟨-, named, -, ranges⟩ := cell.machine.valid_iff.mp valid
  have offers : ∀ spec ∈ cell.machine.axes, ∃ axis, cell.axisAt? spec = some axis ∧ axis.spec.validate = .ok () ∧
      axis.tick ≠ 0 := fun spec member =>
    cell.axis_at_of_simulation simulated lasts poised.ticking spec
      (spec.valid_iff.mpr ⟨named spec.id (List.mem_append_left _ (List.mem_map_of_mem member)), ranges spec member⟩)
      (registered spec member)
  obtain ⟨departures, sent, last, fuel, specs, outset, lastAxes, home⟩ := poised.homes valid offers
  let ended := (begun.run Bench.workload (fun bench => bench.finished) fuel).world
  obtain ⟨values, final, log, length, each⟩ := home.answered
  let stands (departure : Departure) : Axis Rat := (ended.cell.axes.get? departure.handle).getD departure.axis
  have stand : ∀ (index : Nat) (departure : Departure), departures[index]? = some departure →
      ended.cell.axes.get? departure.handle = some (stands departure) ∧
        values[index]? = some (.number (stands departure).state.position) ∧
        departure.axis.Homed cell.now limit (stands departure) := by
    intro index departure there
    obtain ⟨axis, isThere, isValue, isEnd⟩ := each index departure.homing (by
      show (departures.map Departure.homing)[index]? = _
      rw [List.getElem?_map, there, Option.map_some])
    have same : stands departure = axis := congrArg (fun held => Option.getD held departure.axis) isThere
    rw [same]
    exact ⟨isThere, isValue, Axis.homed_of_waited (outset.each departure (List.mem_of_getElem? there)).valid isEnd⟩
  have isHomed : ∀ departure ∈ departures, departure.axis.Homed cell.now limit (stands departure) ∧
      ended.cell.axes.get? departure.handle = some (stands departure) := fun departure member =>
    let ⟨index, there⟩ := List.getElem?_of_mem member
    ⟨(stand index departure there).2.2, (stand index departure there).1⟩
  have isValues : values = (departures.map stands).map fun axis => .number axis.state.position := by
    refine List.ext_getElem? fun index => ?_
    rw [List.getElem?_map, List.getElem?_map]
    cases there : departures[index]? with
    | some departure => exact (stand index departure there).2.1
    | none =>
        have beyond : values.length ≤ index := by
          rw [length]
          exact (List.length_map _).le.trans (List.getElem?_eq_none_iff.mp there)
        exact List.getElem?_eq_none beyond
  have lasted : ended.cell.now = ((departures.map Departure.axis).map fun axis => min (axis.homeBy cell.now) limit).foldl max
      cell.now := by
    refine home.lasted.trans ?_
    show ((departures.map Departure.homing).map _).foldl max _ = _
    rw [List.map_map, List.map_map]
    rfl
  refine ⟨departures.map Departure.axis, departures.map stands, fuel,
    { sent := ?sent, finished := home.finished, broken := home.broken, answered := ⟨final, isValues ▸ log⟩, stand := ?stand,
      homed := ?homed, lasted := lasted, prompt := fun early => lasted.trans ?prompt }⟩
  case sent =>
    rw [← specs, List.map_map, List.map_map]
    exact List.map_congr_left fun departure member => (outset.each departure member).offered
  case stand =>
    rw [← specs, List.map_map, List.map_map]
    refine List.map_congr_left fun departure member => ?_
    have handle : ended.cell.axes.handle? departure.spec.id = some departure.handle := by
      rw [Bank.handle?, home.index]
      show last.axes.handle? departure.spec.id = _
      rw [lastAxes]
      exact (outset.each departure member).handle
    have found := (Bank.find_iff _ _ _ _).mpr ⟨handle, (isHomed departure member).2⟩
    exact congrArg (Option.map Prod.snd) found
  case homed =>
    rw [List.forall₂_map_left_iff, List.forall₂_map_right_iff, List.forall₂_same]
    exact fun departure member => (isHomed departure member).1
  case prompt =>
    exact congrArg (List.foldl max cell.now) (List.map_congr_left fun axis member => min_eq_left (early axis member).le)

def portalAxis (id : String) (home place : Rat) : Axis Rat :=
  ⟨⟨id, 0, 0, 0, 100, 100, some home, none⟩, .ofMillis 10, none, ⟨place, place, false, false⟩, 0, 0⟩

def portalCell : Cell Rat :=
  { Cell.new ⟨"portal", [(portalAxis "x" 0 0).spec, (portalAxis "y" 10 0).spec, (portalAxis "z" 5 0).spec], []⟩
      (.simulation (.ofMillis 10)) with
    axes := (Bank.empty.add "x" (portalAxis "x" 0 30)).add "z" (portalAxis "z" 5 50) }

def portalBench : BenchSchedule Rat (Outcome Rat) :=
  (Bench.new portalCell .standard 1).schedule [.run (Scenario.homingAll portalCell.machine) id]

theorem portal_comes_home :
    ∃ fuel last, let ended := (portalBench.run Bench.workload (fun bench => bench.finished) fuel).world
      ended.finished = true ∧ ended.log = #[(.value (.list [.number 0, .number 10, .number 5]), last)] ∧
      (∀ spec ∈ portalCell.machine.axes, ∃ axis, (ended.cell.axes.find? spec.id).map Prod.snd = some axis ∧
        axis.state.moving = false ∧ axis.state.homed = true) ∧ ended.cell.now = 450 := by
  have members : ∀ axis ∈ portalCell.axes.slots, axis.tick ≠ 0 ∧ axis.spec.validate = .ok () := by
    intro axis member
    rcases List.mem_cons.mp member with rfl | other
    · exact ⟨by decide, rfl⟩
    · rw [List.mem_singleton.mp other]
      exact ⟨by decide, rfl⟩
  have poised : portalBench.Poised 0 (Scenario.homingAll portalCell.machine) id :=
    ⟨⟨⟨by decide, by decide⟩, by decide, rfl⟩, rfl,
      fun entry member other => absurd (congrArg Prod.fst (List.mem_singleton.mp member)) other, rfl, rfl, rfl, rfl, rfl,
      ⟨fun axis member => (members axis member).1, fun _ member => nomatch member⟩, (Bank.tidy_empty.add _ _).add _ _⟩
  have registered : ∀ spec ∈ portalCell.machine.axes, ∀ handle axis, portalCell.axes.find? spec.id = some (handle, axis) →
      axis.spec.validate = .ok () := fun spec _ handle axis found =>
    (members axis (List.mem_of_getElem? ((Bank.find_iff _ _ _ _).mp found).2)).2
  obtain ⟨axes, after, fuel, come⟩ := all_axes_come_home 0 (Scenario.homingAll portalCell.machine) id portalBench rfl poised
    rfl (.ofMillis 10) rfl (by decide) registered
  obtain ⟨last, log⟩ := come.answered
  obtain rfl : [portalAxis "x" 0 30, portalAxis "y" 10 10, portalAxis "z" 5 50] = axes :=
    List.map_injective_iff.mpr (Option.some_injective _) (come.sent ▸ rfl)
  have times : [portalAxis "x" 0 30, portalAxis "y" 10 10, portalAxis "z" 5 50].map (Axis.homeBy 0) = [300, 0, 450] := by
    decide +kernel
  have early : ∀ axis ∈ [portalAxis "x" 0 30, portalAxis "y" 10 10, portalAxis "z" 5 50],
      axis.homeBy portalCell.now < Duration.due portalCell.now portalCell.waitBound := by
    intro axis member
    have listed : axis.homeBy 0 ∈ [300, 0, 450] := times ▸ List.mem_map_of_mem member
    have most : axis.homeBy 0 ≤ 450 := by
      simp only [List.mem_cons, List.not_mem_nil, or_false] at listed
      omega
    exact most.trans_lt (by decide +kernel)
  obtain ⟨first, two, x, pastX, rfl⟩ := List.forall₂_cons_left_iff.mp come.homed
  obtain ⟨second, one, y, pastY, rfl⟩ := List.forall₂_cons_left_iff.mp pastX
  obtain ⟨third, rest, z, pastZ, rfl⟩ := List.forall₂_cons_left_iff.mp pastY
  obtain rfl := List.forall₂_nil_left_iff.mp pastZ
  obtain ⟨atX, homedX⟩ := x.home (early _ (by simp))
  obtain ⟨atY, homedY⟩ := y.home (early _ (by simp))
  obtain ⟨atZ, homedZ⟩ := z.home (early _ (by simp))
  have isX : 0 = first.state.position := Option.some.inj (.trans (by decide +kernel) atX)
  have isY : 10 = second.state.position := Option.some.inj (.trans (by decide +kernel) atY)
  have isZ : 5 = third.state.position := Option.some.inj (.trans (by decide +kernel) atZ)
  refine ⟨fuel, last, come.finished, ?_, ?_, (come.prompt early).trans (congrArg (List.foldl max 0) times)⟩
  · rw [log, List.map_cons, List.map_cons, List.map_cons, ← isX, ← isY, ← isZ]
    rfl
  · intro spec member
    obtain ⟨axis, listed, found⟩ := List.mem_map.mp (come.stand ▸ List.mem_map_of_mem member)
    refine ⟨axis, found.symm, ?_⟩
    simp only [List.mem_cons, List.not_mem_nil, or_false] at listed
    rcases listed with rfl | rfl | rfl
    · exact ⟨x.idle, homedX⟩
    · exact ⟨y.idle, homedY⟩
    · exact ⟨z.idle, homedZ⟩

end Workcell

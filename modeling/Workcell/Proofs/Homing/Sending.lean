import Workcell.Proofs.Homing.Outset

/-!
The turn in which all axes are sent home: the branches and the axes as it leaves them, each axis with a motor of its own to
take it home.
-/

set_option autoImplicit false

namespace Workcell

open Exact (fractions)

namespace Step

variable {R : Type}

theorem attempted_done (step : Step R) {body : Poll R} {cell after : Cell R} {value : Value R}
    (uncut : cell.cancelled = false) (polled : body (cell.trace step .running 1) = (.done value, after)) :
    step.attempted body cell = (.done value, after.trace step .completed 1) := by
  obtain ⟨again, exhausted, settles⟩ := step.attempted_once body cell uncut
  rw [settles, polled]
  rfl

theorem attempted_waits (step : Step R) {body : Poll R} {cell after : Cell R} {run : Run R} (uncut : cell.cancelled = false)
    (polled : body (cell.trace step .running 1) = (.pending run, after)) :
    step.attempted body cell = (.pending (.attempt step 1 run), after) := by
  obtain ⟨again, exhausted, settles⟩ := step.attempted_once body cell uncut
  rw [settles, polled]
  rfl

end Step

namespace Scenario

def homings (machine : Machine Rat) : Step Rat := Flow.parallel (machine.axes.map fun spec => Flow.home spec.id)

def homingAll (machine : Machine Rat) : Step Rat := Flow.scope "Home all axes" (homings machine)

variable {cell : Cell Rat}

def outsetOf (cell : Cell Rat) : Cell Rat :=
  ((cell.trace (homingAll cell.machine) .running 1).trace (homings cell.machine) .running 1).issue.2

theorem branches_fine (limit now : Nat) (departures : List Departure) :
    Branch.Fine (departures.map (Departure.branch limit now)) := by
  intro fault member
  obtain ⟨departure, -, same⟩ := List.mem_map.mp member
  unfold Departure.branch at same
  split at same
  · cases same
  · cases same

theorem home_all_starts (number : Nat) (valid : cell.machine.validate = .ok ()) (tidy : cell.axes.Tidy)
    (ticking : cell.Ticking) (quiet : cell.outbox = []) (uncut : cell.cancelled = false) (live : cell.live = true)
    (offers : ∀ spec ∈ cell.machine.axes, ∃ axis, cell.axisAt? spec = some axis ∧ axis.spec.validate = .ok () ∧
      axis.tick ≠ 0) :
    ∃ departures after last, departures.map Departure.spec = cell.machine.axes ∧
      (outsetOf cell).Outset number departures after ∧ (last = after ∨ last = after.effect (.again cell.issued)) ∧
      let branches := departures.map (Departure.branch (Duration.due cell.now cell.waitBound) cell.now)
      (∃ values, branches = values.map .ended ∧ (homingAll cell.machine).start .standard cell =
        (.done (.list values), (last.trace (homings cell.machine) .completed 1).trace (homingAll cell.machine)
          .completed 1)) ∨
      (∃ (index : Nat) (branch : Branch Rat), branches[index]? = some branch ∧ branch.isOpen = true) ∧
        (homingAll cell.machine).start .standard cell =
          (.pending (Run.abreast (homingAll cell.machine) (homings cell.machine) cell.issued [] branches), last) := by
  have outset : (outsetOf cell).Outset number [] (outsetOf cell) := .begins quiet tidy ⟨ticking.axes, ticking.actuators⟩
  obtain ⟨departures, after, begun, specs, sent⟩ := outset.all valid offers uncut live cell.machine.axes rfl
  let steps := cell.machine.axes.map fun spec => Flow.home (R := Rat) spec.id
  let traced := cell.trace (homingAll cell.machine) .running 1
  have sameLength := Upkeep.start_all_length .standard steps
  have isBegun : Poll.Begun (Step.startAll .standard steps) (traced.trace (homings cell.machine) .running 1).issue.2 _
      after :=
    begun
  obtain ⟨last, forked, same⟩ := Poll.fork_begun steps _ sameLength isBegun
  refine ⟨departures, after, last, specs, sent, same, ?_⟩
  intro branches
  have tracedUncut : traced.cancelled = false := uncut
  cases all : Branch.values? branches with
  | some values =>
      obtain isEnded := Branch.ended_of_values branches values all
      refine Or.inl ⟨values, isEnded, ?_⟩
      have gathered : Poll.gather cell.issued [] branches = .done (.list values) := by simp only [Poll.gather, all]
      have inner := Step.attempted_done (homings cell.machine) tracedUncut (forked.trans (by rw [← gathered]; rfl))
      exact Step.attempted_done _ uncut inner
  | none =>
      refine Or.inr ⟨Branch.open_of_unsettled branches all (Branch.due_of_fine branches (branches_fine _ _ departures)), ?_⟩
      have gathered : Poll.gather cell.issued [] branches = .pending (.joined cell.issued [] branches) := by
        simp only [Poll.gather, all]
      have inner := Step.attempted_waits (homings cell.machine) tracedUncut (forked.trans (by rw [← gathered]; rfl))
      exact Step.attempted_waits _ uncut inner

end Scenario

namespace Schedule

variable {R W J : Type} [Scalar R] {load : Workload W J} {cell? : W → Option (Cell R)} {motor : Motor R → J}
  {spares : Drive R → Prop} {mover : Option Nat} {runner : Nat} {schedule : Schedule W J}

theorem Secluded.grants (secluded : schedule.Secluded load motor spares mover runner) (houses : load.Houses cell? motor)
    (sort : Nat → Prop) (spared : ∀ handle way, sort handle → spares (Motor.ofMotion handle way).drive)
    (effects : List (Effect R)) (all : ∀ effect ∈ effects, effect.Moves sort) :
    ((effects.map (Effect.request motor)).foldl (fun schedule request => schedule.grant load runner request)
      schedule).Secluded load motor spares mover runner := by
  induction effects generalizing schedule with
  | nil => exact secluded
  | cons effect rest ih =>
      refine ih ?_ fun other member => all other (List.mem_cons_of_mem _ member)
      have own := all effect List.mem_cons_self
      cases effect with
      | signal signal => exact (secluded.signals_ring houses runner [signal]).called.secluded secluded
      | again key => exact (wake_called (secluded.steady houses) runner key).secluded secluded
      | rest key => exact secluded
      | stroke handle way => cases own
      | motion handle way =>
          intro entry member differs
          rcases List.mem_append.mp member with old | last
          · obtain ⟨work, isMotor, known, prompt⟩ := secluded entry old differs
            exact ⟨work, isMotor, known, fun timer timed due => List.mem_append_left _ (prompt timer timed due)⟩
          · rw [List.mem_singleton.mp last]
            exact ⟨_, rfl, fun _ => spared handle way own, fun timer timed => by cases timed⟩

theorem Secluded.sends (secluded : schedule.Secluded load motor spares (some schedule.next) runner) (handle : Nat)
    (way : AxisMotion R) :
    (schedule.grant load runner (Effect.request motor (.motion handle way))).Secluded load motor spares (some schedule.next)
      runner := by
  intro entry member differs
  rcases List.mem_append.mp member with old | last
  · obtain ⟨work, isMotor, known, prompt⟩ := secluded entry old differs
    exact ⟨work, isMotor, known, fun timer timed due => List.mem_append_left _ (prompt timer timed due)⟩
  · rw [List.mem_singleton.mp last]
    exact ⟨_, rfl, fun theirs => absurd rfl theirs, fun timer timed => by cases timed⟩

end Schedule

theorem Axis.way_moves (axis : Axis Rat) (valid : axis.spec.validate = .ok ()) (lasts : axis.tick ≠ 0) :
    0 < axis.wayHome.step := by
  have speedy : 0 < axis.spec.maxSpeed := (Travel.limits_of_valid axis.spec valid).2
  have spans : (0 : Rat) < axis.tick := by exact_mod_cast Nat.pos_of_ne_zero lasts
  exact mul_pos speedy (div_pos spans (by norm_num))

def Departure.convoy {A : Type} (bench : Bench Rat A) (runner : Nat) (answer : Outcome Rat → A) (departures : List Departure)
    (last : Cell Rat) : Convoy Rat A :=
  ⟨bench.cell.now, Duration.due bench.cell.now bench.cell.waitBound, runner, Scenario.homingAll bench.cell.machine,
    Scenario.homings bench.cell.machine, bench.cell.issued, answer, departures.map Departure.homing,
    bench.withCell { last with outbox := [] }⟩

namespace Cell.Outset

open Scenario (outsetOf)

variable {A : Type} {bench : Bench Rat A} {runner number : Nat} {answer : Outcome Rat → A} {departures : List Departure}
  {after last : Cell Rat}

theorem convoy_sound (outset : (outsetOf bench.cell).Outset number departures after)
    (distinct : (departures.map fun departure => departure.spec.id).Nodup) (unfinished : bench.finished = false) :
    (Departure.convoy bench runner answer departures last).Sound where
  sound homing member := by
    obtain ⟨departure, inside, rfl⟩ := List.mem_map.mp member
    have off := outset.each departure inside
    exact ⟨departure.axis.way_moves off.valid off.lasts, off.lasts⟩
  apart index other homing another isHoming isAnother differs := by
    obtain ⟨departure, isFirst, rfl⟩ := Option.map_eq_some_iff.mp (List.getElem?_map ▸ isHoming)
    obtain ⟨second, isSecond, rfl⟩ := Option.map_eq_some_iff.mp (List.getElem?_map ▸ isAnother)
    intro same
    have sameHandle : second.handle = departure.handle := same.symm
    have one := (outset.each departure (List.mem_of_getElem? isFirst)).handle
    have two := (outset.each second (List.mem_of_getElem? isSecond)).handle
    have sameId := outset.tidy.apart _ _ _ one (sameHandle ▸ two)
    have inside : index < (departures.map fun departure => departure.spec.id).length := by
      rw [List.length_map]
      exact (List.getElem?_eq_some_iff.mp isFirst).1
    refine differs ((List.getElem?_inj inside distinct).mp ?_)
    rw [List.getElem?_map, List.getElem?_map, isFirst, isSecond, Option.map_some, Option.map_some, sameId]
  keyed homing member := by
    obtain ⟨departure, inside, rfl⟩ := List.mem_map.mp member
    exact (Nat.lt_of_succ_le (outset.each departure inside).keyed).ne'
  unfinished := unfinished

theorem asked_for (outset : (outsetOf bench.cell).Outset number departures after) {key : Nat}
    (same : last = after ∨ last = after.effect (.again key)) {departure : Departure} (member : departure ∈ departures) :
    last.axes = after.axes ∧ (departure.axis.wayHome.ticks = 0 → departure.mover = none ∧
      ∀ effect ∈ last.outbox, effect.Moves (· ≠ departure.handle)) ∧
    (departure.axis.wayHome.ticks ≠ 0 → ∃ first later,
      last.outbox = first ++ .motion departure.handle departure.motion :: later ∧
      (∀ effect ∈ first, effect.Moves (· ≠ departure.handle)) ∧ (∀ effect ∈ later, effect.Moves (· ≠ departure.handle)) ∧
      departure.mover = some (number + first.countP Effect.begins)) := by
  have off := outset.each departure member
  obtain ⟨axes, more, outbox, harmless⟩ : last.axes = after.axes ∧ ∃ more : List (Effect Rat),
      last.outbox = after.outbox ++ more ∧ ∀ effect ∈ more, effect.Moves (· ≠ departure.handle) := by
    rcases same with rfl | rfl
    · exact ⟨rfl, [], (List.append_nil _).symm, fun _ member => nomatch member⟩
    · refine ⟨rfl, [.again key], rfl, fun effect inside => ?_⟩
      rw [List.mem_singleton.mp inside]
      trivial
  refine ⟨axes, fun still => ⟨(off.still still).1, fun effect inside => ?_⟩, fun going => ?_⟩
  · rw [outbox] at inside
    exact (List.mem_append.mp inside).elim ((off.still still).2 effect) (harmless effect)
  · obtain ⟨first, later, sent, moves, mover⟩ := off.sent going
    refine ⟨first, later ++ more, by rw [outbox, sent, List.append_assoc, List.cons_append], fun effect inside =>
      moves effect (List.mem_append_left _ inside), fun effect inside => ?_, mover⟩
    exact (List.mem_append.mp inside).elim (fun old => moves effect (List.mem_append_right _ old)) (harmless effect)

theorem sends (outset : (outsetOf bench.cell).Outset number departures after) {key : Nat}
    (same : last = after ∨ last = after.effect (.again key)) {departure : Departure} (member : departure ∈ departures)
    (early : ¬ Duration.due bench.cell.now bench.cell.waitBound ≤ bench.cell.now) {base : BenchSchedule Rat A}
    (world : base.world = bench.withCell { last with outbox := [] }) (now : last.now = bench.cell.now)
    (numbered : base.Numbered) (next : base.next = number)
    (secluded : ∀ mover, base.Secluded Bench.workload .motor
      (Drive.LeavesAxis departure.handle departure.axis.sentHome.generation) mover runner) :
    let reached := (last.outbox.map (Effect.request .motor)).foldl
      (fun schedule request => schedule.grant Bench.workload runner request) base
    (departure.homing.trip fractions bench.cell.now).Underway Bench.workload
        (fun bench => (some bench.cell).bind fun cell => cell.axes.get? departure.handle) .motor departure.mover 0 reached ∧
      reached.Secluded Bench.workload .motor (Drive.LeavesAxis departure.handle departure.axis.sentHome.generation)
        departure.mover runner := by
  intro reached
  have off := outset.each departure member
  obtain ⟨axes, still, going⟩ := outset.asked_for same member
  have there : base.world.cell.axes.get? departure.handle = some departure.axis.sentHome := by
    rw [world]
    show last.axes.get? departure.handle = _
    rw [axes, off.there]
    exact congrArg some (if_neg early)
  have spared : ∀ handle (way : AxisMotion Rat), handle ≠ departure.handle →
      Drive.LeavesAxis departure.handle departure.axis.sentHome.generation (Motor.ofMotion handle way).drive :=
    fun handle way differs same => absurd same differs
  by_cases ended : departure.axis.wayHome.ticks = 0
  · obtain ⟨mover, elsewhere⟩ := still ended
    have final : reached.world = base.world := Schedule.grants_world _ _ _ _
    rw [mover]
    refine ⟨⟨Nat.zero_le _, ?_, fun short => absurd short (Nat.not_lt_of_le ended.le), fun _ _ none => nomatch none⟩,
      (secluded none).grants bench_houses _ spared _ elsewhere⟩
    show reached.world.cell.axes.get? departure.handle = _
    rw [final]
    exact there
  · obtain ⟨first, later, outbox, before, behind, mover⟩ := going ended
    let met := (first.map (Effect.request .motor)).foldl
      (fun schedule request => schedule.grant Bench.workload runner request) base
    have isReached : reached = (later.map (Effect.request .motor)).foldl
        (fun schedule request => schedule.grant Bench.workload runner request)
          (met.grant Bench.workload runner (Effect.request .motor (.motion departure.handle departure.motion))) := by
      simp only [reached, met, outbox, List.map_append, List.map_cons, List.foldl_append, List.foldl_cons]
    have isNext : met.next = number + first.countP Effect.begins := by
      rw [Schedule.grants_next, begun_length, next]
    have metWorld : met.world = base.world := Schedule.grants_world _ _ _ _
    have metNumbered : met.Numbered := (Schedule.grants_stand (Schedule.anything_lawful Bench.workload) () runner
      (first.map (Effect.request .motor)) base ⟨numbered, trivial⟩).numbered
    have clock : bench.cell.now = met.world.cell.now := by
      rw [metWorld, world]
      exact now.symm
    rw [mover, ← isNext, isReached]
    refine ⟨?_, ?_⟩
    · exact Trip.sets_out (bench_houses.shows (fun cell => cell.axes.get? departure.handle) fun _ _ => rfl)
        (Nat.pos_of_ne_zero ended) metNumbered clock (metWorld.symm ▸ there) runner (later.map (Effect.request .motor))
    · refine Schedule.Secluded.grants (Schedule.Secluded.sends ?_ _ _) bench_houses _ spared _ behind
      exact (secluded _).grants bench_houses _ spared _ before

theorem returning (outset : (outsetOf bench.cell).Outset number departures after)
    (same : last = after ∨ last = after.effect (.again bench.cell.issued)) (uncut : bench.cell.cancelled = false)
    {index : Nat} {branch : Branch Rat}
    (present : (departures.map (Departure.branch (Duration.due bench.cell.now bench.cell.waitBound)
      bench.cell.now))[index]? = some branch) (isOpen : branch.isOpen = true) {base : BenchSchedule Rat A}
    (world : base.world = bench.withCell { last with outbox := [] }) (next : base.next = number)
    (slot : base.Slot runner (some ((Departure.convoy bench runner answer departures last).job []
      (departures.map (Departure.branch (Duration.due bench.cell.now bench.cell.waitBound) bench.cell.now)))))
    (secluded : ∀ departure ∈ departures, ∀ mover, base.Secluded Bench.workload .motor
      (Drive.LeavesAxis departure.handle departure.axis.sentHome.generation) mover runner) :
    ∃ woken, Schedule.Returning fractions (Departure.convoy bench runner answer departures last) woken
      (departures.map (Departure.branch (Duration.due bench.cell.now bench.cell.waitBound) bench.cell.now))
      ((last.outbox.map (Effect.request .motor)).foldl
        (fun schedule request => schedule.grant Bench.workload runner request) base) := by
  let limit := Duration.due bench.cell.now bench.cell.waitBound
  let branches := departures.map (Departure.branch limit bench.cell.now)
  let convoy := Departure.convoy bench runner answer departures last
  let reached := (last.outbox.map (Effect.request .motor)).foldl
    (fun schedule request => schedule.grant Bench.workload runner request) base
  show ∃ woken, reached.Returning fractions convoy woken branches
  have final : reached.world = bench.withCell { last with outbox := [] } := (Schedule.grants_world _ _ _ _).trans world
  obtain ⟨now, cancelled, ticking⟩ : last.now = bench.cell.now ∧ last.cancelled = bench.cell.cancelled ∧ last.Ticking := by
    rcases same with rfl | rfl
    · exact ⟨outset.now, outset.cancelled, outset.ticking⟩
    · exact ⟨outset.now, outset.cancelled, outset.ticking.axes, outset.ticking.actuators⟩
  have clock : reached.world.cell.now = bench.cell.now := by
    rw [final]
    exact now
  -- A branch waits only if there is a way to go, and time to wait.
  have running : ∀ (place : Nat) (homing : Homing Rat), convoy.homings[place]? = some homing →
      branches[place]? = some (.running (homing.run limit)) →
      ∃ departure ∈ departures, departure.homing = homing ∧ departure.axis.wayHome.ticks ≠ 0 ∧ ¬ limit ≤ bench.cell.now := by
    intro place homing known runs
    obtain ⟨departure, inside, rfl⟩ := Option.map_eq_some_iff.mp (List.getElem?_map ▸ known)
    obtain ⟨other, isOther, isBranch⟩ := Option.map_eq_some_iff.mp (List.getElem?_map ▸ runs)
    cases inside.symm.trans isOther
    refine ⟨departure, List.mem_of_getElem? inside, rfl, not_or.mp fun isOver => ?_⟩
    rw [Departure.branch, if_pos isOver] at isBranch
    cases isBranch
  obtain ⟨first, isFirst, isBranch⟩ := Option.map_eq_some_iff.mp (List.getElem?_map ▸ present)
  have waits : ¬ (first.axis.wayHome.ticks = 0 ∨ limit ≤ bench.cell.now) := by
    intro isOver
    rw [Departure.branch, if_pos isOver] at isBranch
    cases isBranch
    cases isOpen
  have early : ¬ limit ≤ bench.cell.now := fun late => waits (Or.inr late)
  have firm : ∀ branch ∈ branches, ∀ key, branch.touch key = branch := by
    intro branch member key
    obtain ⟨departure, -, rfl⟩ := List.mem_map.mp member
    unfold Departure.branch
    split
    · rfl
    · rfl
  have seated : Schedule.Seated runner (convoy.Knows [] branches) base reached :=
    Schedule.grants_seated (Schedule.Returning.knows_stable firm []) runner _
      (slot.seat (Schedule.Returning.knows_itself convoy [] branches))
  obtain ⟨_, ⟨_, ⟨woken, -, rfl⟩, rfl⟩, held⟩ := seated.seat.slot
  have sent : ∀ departure ∈ departures, _ := fun departure member => outset.sends same member early world now
    slot.numbered next (secluded departure member)
  have known : ∀ homing ∈ convoy.homings, ∃ departure ∈ departures, departure.homing = homing := fun homing member =>
    List.mem_map.mp member
  refine ⟨woken, held, (List.length_map _).trans (List.length_map _).symm, fun place homing isHoming => ⟨0, ?_⟩,
    fun place homing axis isHoming runs there isOver => ?_, ⟨index, first.homing, ?_, ?_⟩,
    fun homing member => ?_, ?_, ?_, ?_, ?_, ?_⟩
  · obtain ⟨departure, inside, rfl⟩ := Option.map_eq_some_iff.mp (List.getElem?_map ▸ isHoming)
    have member := List.mem_of_getElem? inside
    refine ⟨(sent departure member).1, clock.ge, ?_⟩
    have isBranch : branches[place]? = some (departure.branch limit bench.cell.now) := by
      rw [List.getElem?_map, inside, Option.map_some]
    rw [isBranch, Departure.branch]
    by_cases arrived : departure.axis.wayHome.ticks = 0
    · rw [if_pos (Or.inl arrived)]
      refine Or.inr ⟨?_, arrived.symm⟩
      simp [Axis.sentHome, Axis.publish, Leg.state, Leg.place, arrived, Departure.homing]
    · rw [if_neg (not_or.mpr ⟨arrived, early⟩)]
      exact Or.inl ⟨rfl, fun none => absurd none.symm arrived⟩
  · obtain ⟨departure, member, rfl, going, -⟩ := running place homing isHoming runs
    cases there.symm.trans (sent departure member).1.there
    rcases isOver with still | late
    · have goes := still.symm.trans (decide_eq_true (Nat.pos_of_ne_zero going) :
        ((departure.homing.trip fractions bench.cell.now).stand 0).state.moving = true)
      cases goes
    · rw [clock] at late
      exact absurd late early
  · show (departures.map Departure.homing)[index]? = _
    rw [List.getElem?_map, isFirst, Option.map_some]
  · rw [List.getElem?_map, isFirst, Option.map_some, Departure.branch, if_neg waits]
    rfl
  · obtain ⟨departure, inside, rfl⟩ := known homing member
    exact (sent departure inside).2
  · rw [clock]
    exact Nat.le_of_lt (Nat.lt_of_not_le early)
  · rw [final]
    exact cancelled.trans uncut
  · rw [final]
    rfl
  · rw [final]
    exact ⟨ticking.axes, ticking.actuators⟩
  · rw [final]
    exact ⟨rfl, rfl, rfl, rfl⟩

end Cell.Outset

end Workcell

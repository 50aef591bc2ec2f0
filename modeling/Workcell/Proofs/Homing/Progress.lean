import Workcell.Proofs.Homing.Branches
import Workcell.Proofs.Schedule.Seats

/-!
Axes on their way home side by side, and nobody at work beside the run that waits for them but motors. Between two turns
every axis has gone a part of its way; whoever has arrived is to be looked at before the clock goes on, and when the time
for waiting is over everybody is. So each step takes the clock on, or spends a turn that was due, until all have ended.
-/

set_option autoImplicit false

namespace Workcell

variable {R A : Type} [Scalar R]

namespace Homing

def trip (exact : Scalar.Exact R) (since : Nat) (homing : Homing R) : Trip R (Axis R) :=
  homing.leg.trip exact homing.homed true homing.axis homing.handle since

omit [Scalar R] in
def arrival (since : Nat) (homing : Homing R) : Nat := tickAt homing.axis.tick since homing.leg.ticks

structure Sound (homing : Homing R) : Prop where
  moves : 0 < homing.leg.step
  lasts : homing.axis.tick ≠ 0

def Ended (exact : Scalar.Exact R) (since limit : Nat) (homing : Homing R) (axis : Axis R) : Prop :=
  homing.leg.Waited exact homing.homed true homing.axis.tick since limit (min (homing.arrival since) limit)
    (.done (.number axis.state.position)) axis

variable {exact : Scalar.Exact R} {since limit now ticks : Nat} {homing : Homing R}

omit [Scalar R] in
theorem halt_position (axis : Axis R) : axis.halt.state.position = axis.state.position := by
  unfold Axis.halt
  split
  · exact axis.stop_position
  · rfl

theorem ended_of_halt (exact : Scalar.Exact R) (sound : homing.Sound) (bounded : ticks ≤ homing.leg.ticks)
    (past : tickAt homing.axis.tick since ticks ≤ now)
    (ahead : ticks < homing.leg.ticks → now ≤ tickAt homing.axis.tick since (ticks + 1)) (within : now ≤ limit)
    (isOver : ((homing.trip exact since).stand ticks).state.moving = false ∨ limit ≤ now) :
    homing.Ended exact since limit ((homing.trip exact since).stand ticks).halt ∧
      min (homing.arrival since) limit ≤ now ∧
      ((ticks = homing.leg.ticks → now = homing.arrival since) → min (homing.arrival since) limit = now) := by
  have steady := (tickAt_mono homing.axis.tick sound.lasts since).monotone
  have moving : ((homing.trip exact since).stand ticks).state.moving = decide (ticks < homing.leg.ticks) := rfl
  rcases Nat.lt_or_eq_of_le bounded with short | arrived
  · have goes : ((homing.trip exact since).stand ticks).state.moving = true := moving.trans (decide_eq_true short)
    have halted : ((homing.trip exact since).stand ticks).halt = ((homing.trip exact since).stand ticks).stop := by
      rw [Axis.halt, goes, if_pos rfl]
    have late : limit ≤ now := isOver.resolve_left (by simp [goes])
    have exactly : now = limit := Nat.le_antisymm within late
    have coming : now ≤ homing.arrival since := (ahead short).trans (steady short)
    have least : min (homing.arrival since) limit = now := by omega
    refine ⟨?_, least.le, fun _ => least⟩
    rw [halted]
    refine ⟨rfl, Nat.min_le_right _ _, Axis.stop_idle _, fun early => ?_, fun _ => ⟨by omega, ticks, short, ?_, ?_, ?_⟩⟩
    · have early : homing.arrival since < limit := early
      omega
    · omega
    · have next := ahead short
      omega
    · have stopped : ((homing.trip exact since).stand ticks).stop.state =
          ⟨exact.of (homing.leg.place ticks), exact.of homing.leg.target, false, homing.homed && !true⟩ := by
        rw [Axis.stop, goes, if_pos rfl]
        simp [trip, Leg.trip, Axis.along, Axis.publish, Leg.state, short]
      exact stopped
  · subst arrived
    have rests : ((homing.trip exact since).stand homing.leg.ticks).state.moving = false :=
      moving.trans (decide_eq_false (Nat.lt_irrefl _))
    have halted : ((homing.trip exact since).stand homing.leg.ticks).halt =
        (homing.trip exact since).stand homing.leg.ticks := by
      rw [Axis.halt, rests, if_neg Bool.false_ne_true]
    have come : homing.arrival since ≤ now := past
    have least : min (homing.arrival since) limit = homing.arrival since := by omega
    rw [halted]
    refine ⟨⟨rfl, Nat.min_le_right _ _, rests, fun _ => ⟨least, ?_⟩, fun late => ?_⟩, least.symm ▸ come,
      fun exactly => least.trans (exactly rfl).symm⟩
    · simp [trip, Leg.trip, Axis.along, Leg.state, Leg.place]
    · have late : limit < homing.arrival since := late
      omega

-- How far an axis has come between two turns: a branch that has ended has seen it arrive, and of one that has arrived
-- its branch is to know at once.
structure Stage (exact : Scalar.Exact R) (since limit : Nat) (homing : Homing R) (branch : Option (Branch R)) (ticks : Nat)
    (schedule : BenchSchedule R A) : Prop where
  goes : (homing.trip exact since).Underway Bench.workload
    (fun bench => (some bench.cell).bind fun cell => cell.axes.get? homing.handle) .motor homing.mover ticks schedule
  past : tickAt homing.axis.tick since ticks ≤ schedule.world.cell.now
  branch : branch = some (.running (homing.run limit)) ∧
      (ticks = homing.leg.ticks → schedule.world.cell.now = homing.arrival since) ∨
    branch = some (.ended (.number (exact.of homing.leg.target))) ∧ ticks = homing.leg.ticks

namespace Stage

variable {branch : Option (Branch R)} {schedule next : BenchSchedule R A} {number : Nat}

theorem lawful (sound : homing.Sound) :
    (homing.trip exact since).Lawful (fun cell => cell.axes.get? homing.handle) (.axis homing.handle) :=
  homing.leg.trip_lawful sound.moves sound.lasts

theorem still (stage : homing.Stage exact since limit branch ticks schedule) (sound : homing.Sound)
    (stepped : schedule.step Bench.workload = some next)
    (same : next.world.cell.axes.get? homing.handle = schedule.world.cell.axes.get? homing.handle)
    (clock : schedule.ready ≠ [] → next.world.cell.now = schedule.world.cell.now)
    (forward : schedule.world.cell.now ≤ next.world.cell.now)
    (told : branch = some (.running (homing.run limit)) → ticks = homing.leg.ticks →
      next.world.cell.now = schedule.world.cell.now) : homing.Stage exact since limit branch ticks next :=
  ⟨stage.goes.still (lawful sound) (bench_houses.shows _ fun _ _ => rfl) stepped same clock, stage.past.trans forward,
    stage.branch.imp_left fun ⟨running, arrives⟩ => ⟨running, fun arrived => (told running arrived).trans (arrives arrived)⟩⟩

theorem tick (stage : homing.Stage exact since limit branch ticks schedule) (sound : homing.Sound)
    (stepped : schedule.step Bench.workload = some next) (own : schedule.ready.head? = some number)
    (mover : homing.mover = some number)
    (moved : next.world.cell.axes.get? homing.handle ≠ schedule.world.cell.axes.get? homing.handle) :
    homing.Stage exact since limit branch (ticks + 1) next ∧
      (homing.trip exact since).Ticked Bench.workload (fun bench => some bench.cell) .motor (.axis homing.handle)
      number ticks
        schedule next := by
  have goes := stage.goes
  rw [mover] at goes
  obtain ⟨onward, ticked⟩ := goes.tick (lawful sound) (bench_houses.shows _ fun _ _ => rfl) stepped own moved
  have now : next.world.cell.now = tickAt homing.axis.tick since (ticks + 1) := ticked.clock.trans ticked.exactly
  refine ⟨⟨mover ▸ onward, now.ge, ?_⟩, ticked⟩
  rcases stage.branch with ⟨running, -⟩ | ⟨-, arrived⟩
  · exact Or.inl ⟨running, fun arrived => now.trans (congrArg _ arrived)⟩
  · exact absurd arrived (Nat.ne_of_lt ticked.short)

end Stage

end Homing

structure Bench.Untold (before after : Bench R A) : Prop where
  log : after.log = before.log
  finished : after.finished = before.finished
  broken : after.broken = before.broken
  index : after.cell.axes.index = before.cell.axes.index

omit [Scalar R] in
theorem Bench.Untold.trans {first second third : Bench R A} (before : first.Untold second) (after : second.Untold third) :
    first.Untold third :=
  ⟨after.log.trans before.log, after.finished.trans before.finished,
    after.broken.trans before.broken, after.index.trans before.index⟩

theorem Motor.poll_index (work : Motor R) (cell : Cell R) : (work.poll cell).2.axes.index = cell.axes.index := by
  have stepped : ∀ drive done after, Motor.step cell drive = some (done, after) → after.axes.index = cell.axes.index := by
    intro drive done after stepped
    cases drive with
    | axis handle motion =>
        obtain ⟨axis, -, later⟩ := Option.bind_eq_some_iff.mp stepped
        obtain ⟨moved, -, same⟩ := Option.bind_eq_some_iff.mp later
        cases same
        rfl
    | actuator handle stroke began =>
        obtain ⟨actuator, -, later⟩ := Option.bind_eq_some_iff.mp stepped
        obtain ⟨moved, -, same⟩ := Option.bind_eq_some_iff.mp later
        cases same
        rfl
  unfold Motor.poll
  split
  · split
    · rfl
    · rfl
  · split
    · cases outcome : Motor.step cell work.drive with
      | none => rfl
      | some result =>
          obtain ⟨done, after⟩ := result
          cases done with
          | true => exact stepped work.drive true after outcome
          | false => exact stepped work.drive false after outcome
    · rfl

-- Axes that are homed together: since when and until when at most, the number and the run of the job that waits for
-- them, what its outcome is answered with, and the bench as it was at first.
structure Convoy (R A : Type) where
  since : Nat
  limit : Nat
  runner : Nat
  outer : Step R
  inner : Step R
  key : Nat
  answer : Outcome R → A
  homings : List (Homing R)
  first : Bench R A

def Convoy.job (convoy : Convoy R A) (woken : List Nat) (branches : List (Branch R)) : BenchJob R A :=
  Bench.watching convoy.answer (Run.abreast convoy.outer convoy.inner convoy.key woken branches)

def Convoy.Knows (convoy : Convoy R A) (least : List Nat) (branches : List (Branch R)) (job : BenchJob R A) : Prop :=
  ∃ run : Run R, run.Awake convoy.outer convoy.inner convoy.key least branches ∧ job = Bench.watching convoy.answer run

structure Convoy.Sound (convoy : Convoy R A) : Prop where
  sound : ∀ homing ∈ convoy.homings, homing.Sound
  apart : ∀ (index other : Nat) (homing another : Homing R), convoy.homings[index]? = some homing →
    convoy.homings[other]? = some another → index ≠ other → homing.handle ≠ another.handle
  keyed : ∀ homing ∈ convoy.homings, homing.key ≠ convoy.key
  unfinished : convoy.first.finished = false

structure Convoy.Home (exact : Scalar.Exact R) (convoy : Convoy R A) (bench : Bench R A) : Prop where
  finished : bench.finished = true
  broken : bench.broken = convoy.first.broken
  index : bench.cell.axes.index = convoy.first.cell.axes.index
  answered : ∃ values cell, bench.log = convoy.first.log.push (convoy.answer (.value (.list values)), cell) ∧
    values.length = convoy.homings.length ∧ ∀ (index : Nat) (homing : Homing R), convoy.homings[index]? = some homing →
      ∃ axis, bench.cell.axes.get? homing.handle = some axis ∧ values[index]? = some (.number axis.state.position) ∧
        homing.Ended exact convoy.since convoy.limit axis
  lasted : bench.cell.now =
    (convoy.homings.map fun homing => min (homing.arrival convoy.since) convoy.limit).foldl max convoy.since

theorem foldl_max_eq (times : List Nat) (first last : Nat) (least : first ≤ last) (all : ∀ time ∈ times, time ≤ last)
    (hit : last = first ∨ last ∈ times) : times.foldl max first = last := by
  induction times generalizing first with
  | nil => exact (hit.resolve_right List.not_mem_nil).symm
  | cons time rest ih =>
      have most := all time List.mem_cons_self
      refine ih (max first time) (max_le least most) (fun other member => all other (List.mem_cons_of_mem _ member)) ?_
      rcases hit with own | member
      · exact Or.inl (by omega)
      · rcases List.mem_cons.mp member with own | later
        · exact Or.inl (by omega)
        · exact Or.inr later

-- What there is of a convoy between two turns of the bench.
structure Schedule.Returning (exact : Scalar.Exact R) (convoy : Convoy R A) (woken : List Nat) (branches : List (Branch R))
    (schedule : BenchSchedule R A) : Prop where
  slot : schedule.Slot convoy.runner (some (convoy.job woken branches))
  length : branches.length = convoy.homings.length
  each : ∀ (index : Nat) (homing : Homing R), convoy.homings[index]? = some homing →
    ∃ ticks, homing.Stage exact convoy.since convoy.limit branches[index]? ticks schedule
  told : ∀ (index : Nat) (homing : Homing R) (axis : Axis R), convoy.homings[index]? = some homing →
    branches[index]? = some (.running (homing.run convoy.limit)) →
    schedule.world.cell.axes.get? homing.handle = some axis →
    (axis.state.moving = false ∨ convoy.limit ≤ schedule.world.cell.now) → index ∈ woken ∧ convoy.runner ∈ schedule.ready
  unfinished : ∃ (index : Nat) (homing : Homing R), convoy.homings[index]? = some homing ∧
    branches[index]? = some (.running (homing.run convoy.limit))
  secluded : ∀ homing ∈ convoy.homings, schedule.Secluded Bench.workload .motor
    (Drive.LeavesAxis homing.handle homing.axis.generation) homing.mover convoy.runner
  within : schedule.world.cell.now ≤ convoy.limit
  uncut : schedule.world.cell.cancelled = false
  quiet : schedule.world.cell.outbox = []
  ticking : schedule.world.cell.Ticking
  untold : convoy.first.Untold schedule.world

namespace Schedule.Returning

variable {exact : Scalar.Exact R} {convoy : Convoy R A} {woken : List Nat} {branches : List (Branch R)}
  {schedule next : BenchSchedule R A}

theorem view {homing : Homing R} {since limit ticks : Nat} {branch : Option (Branch R)}
    (stage : homing.Stage exact since limit branch ticks schedule) :
    schedule.world.cell.axes.get? homing.handle = some ((homing.trip exact since).stand ticks) := stage.goes.there

theorem rests_iff (exact : Scalar.Exact R) {homing : Homing R} (since : Nat) {ticks : Nat}
    (bounded : ticks ≤ homing.leg.ticks) :
    ((homing.trip exact since).stand ticks).state.moving = false ↔ ticks = homing.leg.ticks := by
  show decide (ticks < homing.leg.ticks) = false ↔ _
  rw [decide_eq_false_iff_not]
  omega

theorem firm (returning : schedule.Returning exact convoy woken branches) :
    ∀ branch ∈ branches, ∀ key, branch.touch key = branch := by
  intro branch member key
  obtain ⟨index, inside, same⟩ := List.getElem_of_mem member
  have present : branches[index]? = some branch := List.getElem?_eq_some_iff.mpr ⟨inside, same⟩
  obtain ⟨homing, known⟩ : ∃ homing, convoy.homings[index]? = some homing :=
    ⟨_, List.getElem?_eq_getElem (returning.length ▸ inside)⟩
  obtain ⟨ticks, stage⟩ := returning.each index homing known
  rcases stage.branch with ⟨running, -⟩ | ⟨ended, -⟩
  · cases present.symm.trans running
    rfl
  · cases present.symm.trans ended
    rfl

theorem knows_stable {convoy : Convoy R A} {branches : List (Branch R)}
    (firm : ∀ branch ∈ branches, ∀ key, branch.touch key = branch) (least : List Nat) :
    (Bench.workload : Workload (Bench R A) (BenchJob R A)).Stable (convoy.Knows least branches) := by
  rintro key _ ⟨run, awake, rfl⟩
  exact ⟨_, awake.touch firm key, rfl⟩

theorem abreast (returning : schedule.Returning exact convoy woken branches) (sound : convoy.Sound) :
    Homing.Abreast convoy.limit convoy.homings branches schedule.world.cell where
  length := returning.length
  apart := sound.apart
  each index homing known := by
    obtain ⟨ticks, stage⟩ := returning.each index homing known
    exact stage.branch.symm.imp (fun ended => ⟨_, ended.1⟩) fun running => ⟨running.1, _, view stage⟩
  uncut := returning.uncut

end Schedule.Returning

end Workcell

import Workcell.Proofs.Homing.Progress
import Workcell.Proofs.Joining.AllOrNothing

/-!
What a step of the scheduler makes of axes on their way home: a turn of a motor, a turn of the run that waits for them, or a
jump of the clock. Each of them leads on, and the last turn of the run is the end.
-/

set_option autoImplicit false

namespace Workcell

variable {R A : Type} [Scalar R]

namespace Schedule.Returning

variable {exact : Scalar.Exact R} {convoy : Convoy R A} {woken : List Nat} {branches : List (Branch R)}
  {schedule next : BenchSchedule R A} {number : Nat} {rest : List Nat}

theorem onward (returning : schedule.Returning exact convoy woken branches) (sound : convoy.Sound)
    (stepped : schedule.step Bench.workload = some next) (seat : next.Seat convoy.runner (convoy.Knows woken branches))
    (kept : convoy.runner ∈ schedule.ready → convoy.runner ∈ next.ready)
    (clock : schedule.ready ≠ [] → next.world.cell.now = schedule.world.cell.now)
    (forward : schedule.world.cell.now ≤ next.world.cell.now) (within : next.world.cell.now ≤ convoy.limit)
    (moves : ∀ homing ∈ convoy.homings, next.Secluded Bench.workload .motor
        (Drive.LeavesAxis homing.handle homing.axis.generation) homing.mover convoy.runner ∧
      (next.world.cell.axes.get? homing.handle = schedule.world.cell.axes.get? homing.handle ∨
        ∃ number, homing.mover = some number ∧ schedule.ready.head? = some number))
    (heard : ∀ (index : Nat) (homing : Homing R), convoy.homings[index]? = some homing →
      branches[index]? = some (.running (homing.run convoy.limit)) →
      (schedule.world.cell.now < convoy.limit ∧ convoy.limit ≤ next.world.cell.now ∨
        next.world.cell.axes.get? homing.handle ≠ schedule.world.cell.axes.get? homing.handle) →
      next.Seat convoy.runner (convoy.Knows (index :: woken) branches) ∧ convoy.runner ∈ next.ready)
    (uncut : next.world.cell.cancelled = false) (quiet : next.world.cell.outbox = []) (ticking : next.world.cell.Ticking)
    (untold : schedule.world.Untold next.world) : ∃ more, next.Returning exact convoy more branches := by
  obtain ⟨_, ⟨_, ⟨more, has, rfl⟩, rfl⟩, slot⟩ := seat.slot
  -- Whatever else is known of the run is known of the same places.
  have same : ∀ index, next.Seat convoy.runner (convoy.Knows (index :: woken) branches) → index ∈ more := by
    intro index seat
    obtain ⟨_, ⟨_, ⟨other, includes, rfl⟩, rfl⟩, there⟩ := seat.slot
    have isSame : convoy.job other branches = convoy.job more branches := Option.some.inj (there.found.symm.trans slot.found)
    injection isSame with pause
    injection pause with task
    injection task with run
    injection run with _ _ run
    injection run with _ _ run
    injection run with _ woken
    exact woken ▸ includes List.mem_cons_self
  have member : ∀ (index : Nat) (homing : Homing R), convoy.homings[index]? = some homing → homing ∈ convoy.homings :=
    fun index homing known => List.mem_of_getElem? known
  refine ⟨more, slot, returning.length, fun index homing known => ?_, fun index homing axis known running there isOver => ?_,
    returning.unfinished, fun homing member => (moves homing member).1, within, uncut, quiet, ticking,
    returning.untold.trans untold⟩
  · obtain ⟨ticks, stage⟩ := returning.each index homing known
    have isSound := sound.sound homing (member index homing known)
    by_cases unmoved : next.world.cell.axes.get? homing.handle = schedule.world.cell.axes.get? homing.handle
    · refine ⟨ticks, stage.still isSound stepped unmoved clock forward fun running arrived => clock ?_⟩
      have rests := (rests_iff exact convoy.since stage.goes.bounded).mpr arrived
      exact List.ne_nil_of_mem (returning.told index homing _ known running (view stage) (Or.inl rests)).2
    · obtain ⟨number, mover, head⟩ := (moves homing (member index homing known)).2.resolve_left unmoved
      exact ⟨ticks + 1, (stage.tick isSound stepped head mover unmoved).1⟩
  · by_cases unmoved : next.world.cell.axes.get? homing.handle = schedule.world.cell.axes.get? homing.handle
    · rw [unmoved] at there
      by_cases before : axis.state.moving = false ∨ convoy.limit ≤ schedule.world.cell.now
      · obtain ⟨inside, ready⟩ := returning.told index homing axis known running there before
        exact ⟨has inside, kept ready⟩
      · obtain ⟨moving, early⟩ := not_or.mp before
        obtain ⟨knows, ready⟩ := heard index homing known running
          (Or.inl ⟨Nat.lt_of_not_le early, isOver.resolve_left moving⟩)
        exact ⟨same index knows, ready⟩
    · obtain ⟨knows, ready⟩ := heard index homing known running (Or.inr unmoved)
      exact ⟨same index knows, ready⟩

omit [Scalar R] in
theorem knows_itself (convoy : Convoy R A) (woken : List Nat) (branches : List (Branch R)) :
    convoy.Knows woken branches (convoy.job woken branches) := ⟨_, ⟨woken, fun _ member => member, rfl⟩, rfl⟩

theorem seat (returning : schedule.Returning exact convoy woken branches) :
    schedule.Seat convoy.runner (convoy.Knows woken branches) := returning.slot.seat (knows_itself convoy woken branches)

theorem motor_tells {spares : Drive R → Prop} {mover : Option Nat} {runner : Nat}
    (secluded : schedule.Secluded Bench.workload .motor spares mover runner) (other : number ≠ runner) :
    schedule.world.Untold (({ schedule with ready := rest } : BenchSchedule R A).turn Bench.workload number).world := by
  cases found : schedule.jobs.lookup number with
  | none =>
      rw [turn_of_nobody rest found]
      exact ⟨rfl, rfl, rfl, rfl⟩
  | some job =>
      obtain ⟨work, rfl, -⟩ := secluded _ (HandlerTable.mem_of_lookup number job schedule.jobs found) other
      rw [turn_of_poll rest found (Bench.poll_motor work schedule.world), grants_world, leave_world]
      exact ⟨rfl, rfl, rfl, work.poll_index schedule.world.cell⟩

theorem other_turn (returning : schedule.Returning exact convoy woken branches) (sound : convoy.Sound)
    (ready : schedule.ready = number :: rest) (other : number ≠ convoy.runner) :
    ∃ next more, schedule.step Bench.workload = some next ∧ next.Returning exact convoy more branches ∧
      next.world.cell.now = schedule.world.cell.now ∧ next.dues convoy.runner < schedule.dues convoy.runner := by
  let next := ({ schedule with ready := rest } : BenchSchedule R A).turn Bench.workload number
  have stepped : schedule.step Bench.workload = some next := by rw [Schedule.step, ready]
  have head : schedule.ready.head? = some number := by rw [ready, List.head?_cons]
  have turned : ∀ (index : Nat) (homing : Homing R), convoy.homings[index]? = some homing → _ :=
    fun index homing known => (returning.each index homing known).elim fun _ stage =>
      (returning.secluded homing (List.mem_of_getElem? known)).other_turn bench_houses
        (homing.leg.trip_spared exact homing.homed true homing.axis homing.handle convoy.since) (fun _ _ => rfl) rfl
        returning.ticking returning.quiet (view stage) ready other
  obtain ⟨first, going, isFirst, -⟩ := returning.unfinished
  obtain ⟨-, less, after, keeps, now, -⟩ := turned first going isFirst
  obtain rfl : next.world.cell = after := Option.some.inj keeps.held
  have popped : ({ schedule with ready := rest } : BenchSchedule R A).Seat convoy.runner (convoy.Knows woken branches) :=
    ⟨⟨returning.seat.numbered.nodup, returning.seat.numbered.below⟩, returning.seat.known, returning.seat.held⟩
  obtain ⟨seat, still⟩ := turn_seated (knows_stable returning.firm woken) popped number (Ne.symm other)
  have kept : convoy.runner ∈ schedule.ready → convoy.runner ∈ next.ready := by
    intro waits
    rw [ready] at waits
    exact still ((List.mem_cons.mp waits).resolve_left (Ne.symm other))
  obtain ⟨more, onward⟩ : ∃ more, next.Returning exact convoy more branches := by
    refine returning.onward sound stepped seat kept (fun _ => now) now.ge (now.le.trans returning.within) ?_ ?_
      (keeps.uncut.trans returning.uncut) keeps.quiet keeps.ticking
      (motor_tells (returning.secluded going (List.mem_of_getElem? isFirst)) other)
    · intro homing member
      obtain ⟨index, known⟩ := List.getElem?_of_mem member
      obtain ⟨secluded, -, after, keeps, -, moved⟩ := turned index homing known
      obtain rfl : next.world.cell = after := Option.some.inj keeps.held
      exact ⟨secluded, moved.imp_right fun mover => ⟨number, mover, head⟩⟩
    · rintro index homing known running (⟨early, late⟩ | moved)
      · exact absurd (early.trans_le (now ▸ late)) (Nat.lt_irrefl _)
      · obtain ⟨-, -, after, keeps, -, mover⟩ := turned index homing known
        obtain rfl : next.world.cell = after := Option.some.inj keeps.held
        obtain ⟨ticks, stage⟩ := returning.each index homing known
        obtain ⟨-, ticked⟩ := stage.tick (sound.sound homing (List.mem_of_getElem? known)) stepped head
          (mover.resolve_left moved) moved
        obtain ⟨work, cell, slot, held, signalled⟩ := ticked.told
        cases held
        refine turn_told (knows_stable returning.firm woken) (knows_stable returning.firm (index :: woken)) popped number
          (.motor work) slot.found (Ne.symm other) (.axis homing.handle) ?_
          ⟨homing.key, some ⟨convoy.limit, homing.order⟩, [.cancelled, .axis homing.handle]⟩ ?_ (by simp) ?_
        · exact List.mem_map.mpr ⟨_, signalled, rfl⟩
        · rintro _ ⟨run, awake, rfl⟩
          exact awake.leaf running
        · rintro _ ⟨run, awake, rfl⟩
          exact ⟨_, awake.told returning.firm running, rfl⟩
  exact ⟨next, more, stepped, onward, now, less⟩

theorem stirs (returning : schedule.Returning exact convoy woken branches) (sound : convoy.Sound)
    (ready : schedule.ready = []) (resting : schedule.resting ≠ []) :
    ∃ next more, schedule.step Bench.workload = some next ∧ next.Returning exact convoy more branches ∧
      next.world.cell.now = schedule.world.cell.now ∧ next.dues convoy.runner < schedule.dues convoy.runner := by
  have stepped : schedule.step Bench.workload = some (schedule.stir Bench.workload) := by
    obtain ⟨entry, others, same⟩ := List.exists_cons_of_ne_nil resting
    rw [Schedule.step, ready, same]
  have cleared : ({ schedule with resting := [] } : BenchSchedule R A).Seat convoy.runner (convoy.Knows woken branches) :=
    ⟨⟨returning.seat.numbered.nodup, returning.seat.numbered.below⟩, returning.seat.known, returning.seat.held⟩
  have stirred := foldl_seated (fun schedule (entry : Nat × Nat) => schedule.wake Bench.workload entry.1 entry.2)
    (fun _ _ seat => wake_seated (knows_stable returning.firm woken) seat _ _) schedule.resting cleared
  have world : (schedule.stir Bench.workload).world = schedule.world := stirred.world
  have kept : convoy.runner ∈ schedule.ready → convoy.runner ∈ (schedule.stir Bench.workload).ready := fun waits =>
    stirred.ready waits
  obtain ⟨more, onward⟩ : ∃ more, (schedule.stir Bench.workload).Returning exact convoy more branches := by
    refine returning.onward sound stepped stirred.seat kept (fun _ => by rw [world]) (by rw [world])
      (by rw [world]; exact returning.within) (fun homing member => ?_) ?_ (by rw [world]; exact returning.uncut)
      (by rw [world]; exact returning.quiet) (by rw [world]; exact returning.ticking)
      (by rw [world]; exact ⟨rfl, rfl, rfl, rfl⟩)
    · exact ⟨((returning.secluded homing member).stirred bench_houses resting).1, Or.inl (by rw [world])⟩
    · rw [world]
      rintro index homing known running (⟨early, late⟩ | moved)
      · exact absurd (early.trans_le late) (Nat.lt_irrefl _)
      · exact absurd rfl moved
  exact ⟨_, more, stepped, onward, by rw [world], stir_dues convoy.runner resting⟩

theorem jumps (returning : schedule.Returning exact convoy woken branches) (sound : convoy.Sound)
    (ready : schedule.ready = []) (resting : schedule.resting = []) :
    ∃ next more, schedule.step Bench.workload = some next ∧ next.Returning exact convoy more branches ∧
      schedule.world.cell.now < next.world.cell.now := by
  have leaf : ∀ (index : Nat) (homing : Homing R), branches[index]? = some (.running (homing.run convoy.limit)) →
      ∀ job, convoy.Knows woken branches job →
        (⟨homing.key, some ⟨convoy.limit, homing.order⟩, [.cancelled, .axis homing.handle]⟩ : Leaf) ∈
          (Bench.workload : Workload (Bench R A) (BenchJob R A)).leaves job := by
    rintro index homing running _ ⟨run, awake, rfl⟩
    exact awake.leaf running
  have prompt : ∀ leaf ∈ (Bench.workload : Workload (Bench R A) (BenchJob R A)).leaves (convoy.job woken branches), ∀ timer,
      leaf.timer = some timer → timer.due ≤ Bench.workload.now schedule.world → convoy.runner ∈ schedule.ready := by
    intro leaf member timer timed late
    obtain ⟨index, branch, present, inside⟩ := Run.branch_of_leaf member
    obtain ⟨homing, known⟩ : ∃ homing, convoy.homings[index]? = some homing :=
      ⟨_, List.getElem?_eq_getElem (returning.length ▸ (List.getElem?_eq_some_iff.mp present).1)⟩
    obtain ⟨ticks, stage⟩ := returning.each index homing known
    rcases stage.branch with ⟨running, -⟩ | ⟨ended, -⟩
    · cases present.symm.trans running
      rw [List.mem_singleton.mp inside] at timed
      cases timed
      exact (returning.told index homing _ known running (view stage) (Or.inr late)).2
    · cases present.symm.trans ended
      cases inside
  obtain ⟨first, going, isFirst, runs⟩ := returning.unfinished
  have jumping : ∀ homing ∈ convoy.homings, _ := fun homing member =>
    (returning.secluded homing member).jumped bench_houses returning.slot _
      (leaf first going runs _ (knows_itself convoy woken branches)) _ rfl prompt ready
  obtain ⟨next, due, jumped, world, ahead, -⟩ := jumping going (List.mem_of_getElem? isFirst)
  have stepped : schedule.step Bench.workload = some next := by
    rw [Schedule.step, ready, resting]
    exact jumped
  obtain ⟨seat, due', world', waits⟩ := jump_seated (knows_stable returning.firm woken) returning.seat jumped
  have now : next.world.cell.now = due := congrArg (fun bench : Bench R A => bench.cell.now) world
  have same : due' = due := (congrArg (fun bench : Bench R A => bench.cell.now) world').symm.trans now
  subst same
  have within : due' ≤ convoy.limit := (waits _ (leaf first going runs) _ rfl).1
  obtain ⟨more, onward⟩ : ∃ more, next.Returning exact convoy more branches := by
    refine returning.onward sound stepped seat (fun waits => ?_) (fun busy => absurd ready busy) (now.symm ▸ ahead.le)
      (now.symm ▸ within) (fun homing member => ?_) ?_ (by rw [world]; exact returning.uncut)
      (by rw [world]; exact returning.quiet) (by rw [world]; exact ⟨returning.ticking.axes, returning.ticking.actuators⟩)
      (by rw [world]; exact ⟨rfl, rfl, rfl, rfl⟩)
    · rw [ready] at waits
      cases waits
    · obtain ⟨other, -, isOther, -, -, secluded⟩ := jumping homing member
      cases jumped.symm.trans isOther
      exact ⟨secluded, Or.inl (by rw [world]; rfl)⟩
    · rintro index homing known running (⟨-, late⟩ | moved)
      · obtain ⟨-, told⟩ := waits _ (leaf index homing running) _ rfl
        obtain ⟨ready, knows⟩ := told (now ▸ late)
        refine ⟨knows (convoy.Knows (index :: woken) branches) (knows_stable returning.firm (index :: woken)) ?_, ready⟩
        rintro _ ⟨run, awake, rfl⟩
        exact ⟨_, awake.told returning.firm running, rfl⟩
      · exact absurd (by rw [world]; rfl) moved
  exact ⟨next, more, stepped, onward, now.symm ▸ ahead⟩

section

variable {left : List Nat} {later : List (Branch R)} {after : Cell R}

theorem early (returning : schedule.Returning exact convoy woken branches) (sound : convoy.Sound)
    (served : Poll.Served convoy.key (Homing.Course convoy.limit convoy.homings branches schedule.world.cell)
      (Homing.Settled convoy.limit convoy.homings branches schedule.world.cell) woken left later after)
    {index : Nat} {branch : Branch R} (present : later[index]? = some branch) (isOpen : branch.isOpen = true) :
    schedule.world.cell.now < convoy.limit := by
  have abreast := returning.abreast sound
  have settled_waits : ∀ {between : Cell R} {place : Nat} {waits : Branch R},
      Homing.Course convoy.limit convoy.homings branches schedule.world.cell later between → later[place]? = some waits →
      waits.isOpen = true → (convoy.limit ≤ schedule.world.cell.now →
        Homing.Settled convoy.limit convoy.homings branches schedule.world.cell place later) →
      schedule.world.cell.now < convoy.limit := by
    intro between place waits course there isOpen settled
    obtain ⟨homing, axis, known, rfl, running, axisThere, -⟩ := abreast.open_waits course there isOpen
    refine Nat.lt_of_not_le fun late => ?_
    cases there.symm.trans (settled late homing axis known running axisThere (Or.inr late))
  cases served with
  | all none course met =>
      refine settled_waits course present isOpen fun late => met index ?_
      obtain ⟨homing, axis, known, rfl, running, there, -⟩ := abreast.open_waits course present isOpen
      exact (returning.told index homing axis known running there (Or.inr late)).1
  | yields course fewer met waits =>
      obtain ⟨place, run, settled, there⟩ := waits
      exact settled_waits course there rfl fun _ => settled

structure Quietly (convoy : Convoy R A) (woken left : List Nat) (cell after : Cell R) : Prop where
  same : ∃ traces, ({ after with outbox := [] } : Cell R) = { cell with traces := traces, outbox := [] }
  asks : left = [] ∧ after.outbox = [] ∨ left.length < woken.length ∧ after.outbox = [.again convoy.key]

theorem quietly (returning : schedule.Returning exact convoy woken branches)
    (served : Poll.Served convoy.key (Homing.Course convoy.limit convoy.homings branches schedule.world.cell)
      (Homing.Settled convoy.limit convoy.homings branches schedule.world.cell) woken left later after)
    (soon : schedule.world.cell.now < convoy.limit) : Quietly convoy woken left schedule.world.cell after := by
  cases served with
  | all none course met =>
      obtain ⟨traces, rfl⟩ := course.early soon
      exact ⟨⟨traces, rfl⟩, Or.inl ⟨none, returning.quiet⟩⟩
  | yields course fewer met waits =>
      obtain ⟨traces, rfl⟩ := course.early soon
      refine ⟨⟨traces, rfl⟩, Or.inr ⟨fewer, ?_⟩⟩
      show schedule.world.cell.outbox ++ [.again convoy.key] = _
      rw [returning.quiet, List.nil_append]

theorem later_branch (returning : schedule.Returning exact convoy woken branches) (sound : convoy.Sound)
    {between : Cell R} (course : Homing.Course convoy.limit convoy.homings branches schedule.world.cell later between)
    {branch : Branch R} (member : branch ∈ later) :
    (∃ homing ∈ convoy.homings, branch = .running (homing.run convoy.limit)) ∨ ∃ value, branch = .ended value := by
  obtain ⟨index, present⟩ := List.getElem?_of_mem member
  cases branch with
  | ended value => exact Or.inr ⟨value, rfl⟩
  | failed fault => exact absurd member ((returning.abreast sound).course_fine course fault)
  | fresh step =>
      obtain ⟨homing, axis, known, same, -⟩ := (returning.abreast sound).open_waits course present rfl
      cases same
  | running run =>
      obtain ⟨homing, axis, known, same, -⟩ := (returning.abreast sound).open_waits course present rfl
      exact Or.inl ⟨homing, List.mem_of_getElem? known, same⟩

theorem asked {base : BenchSchedule R A} (slot : base.Slot convoy.runner (some (convoy.job left later)))
    (steady : base.Steady Bench.workload convoy.runner) (firm : ∀ branch ∈ later, ∀ key, branch.touch key = branch)
    (free : ∀ branch ∈ later, branch.holds convoy.key = false)
    (asks : left = [] ∧ after.outbox = [] ∨ left.length < woken.length ∧ after.outbox = [.again convoy.key]) :
    let next := (after.outbox.map (Effect.request .motor)).foldl
      (fun schedule request => schedule.grant Bench.workload convoy.runner request) base
    Rung convoy.runner base next ∧ next.Slot convoy.runner (some (convoy.job left later)) ∧
      (left ≠ [] → convoy.runner ∈ next.ready) ∧ (next.dues convoy.runner ≤ base.dues convoy.runner ∨
        next.dues convoy.runner ≤ base.dues convoy.runner + 1 ∧ left.length < woken.length) := by
  rcases asks with ⟨rfl, quiet⟩ | ⟨fewer, again⟩
  · rw [quiet]
    exact ⟨.refl _ _, slot, fun some => absurd rfl some, Or.inl (Nat.le_refl _)⟩
  · rw [again]
    have rung : Rung convoy.runner base (base.wake Bench.workload convoy.runner convoy.key) := wake_rings steady convoy.key
    obtain ⟨still, -, -, ready⟩ := wake_slot Bench.workload slot convoy.runner convoy.key
    have same : Bench.workload.touch convoy.key (convoy.job left later) = convoy.job left later := by
      show Bench.watching convoy.answer ((Run.abreast convoy.outer convoy.inner convoy.key left later).touch convoy.key) = _
      rw [Run.touch_abreast firm, Run.no_holders convoy.key 0 free]
      rfl
    rw [if_pos rfl, same] at still
    exact ⟨rung, still, fun _ => ready rfl, Or.inr ⟨rung.dues, fewer⟩⟩

theorem stage_served {between : Cell R} {index ticks : Nat} {homing : Homing R}
    (course : Homing.Course convoy.limit convoy.homings branches schedule.world.cell later between)
    (soon : schedule.world.cell.now < convoy.limit) (known : convoy.homings[index]? = some homing)
    (there : schedule.world.cell.axes.get? homing.handle = some ((homing.trip exact convoy.since).stand ticks))
    (stage : homing.Stage exact convoy.since convoy.limit branches[index]? ticks next) :
    homing.Stage exact convoy.since convoy.limit later[index]? ticks next := by
  rcases course.each index homing known with ⟨same, -⟩ | ⟨running, axis, isThere, isOver, -, ended⟩
  · rw [same]
    exact stage
  · cases there.symm.trans isThere
    have arrived := (rests_iff exact convoy.since stage.goes.bounded).mp (isOver.resolve_right (Nat.not_le_of_lt soon))
    refine ⟨stage.goes, stage.past, Or.inr ⟨?_, arrived⟩⟩
    rw [ended, arrived]
    simp [Homing.trip, Leg.trip, Axis.along, Leg.state, Leg.place]

theorem own_turn_waits (returning : schedule.Returning exact convoy woken branches) (sound : convoy.Sound)
    (ready : schedule.ready = convoy.runner :: rest)
    (served : Poll.Served convoy.key (Homing.Course convoy.limit convoy.homings branches schedule.world.cell)
      (Homing.Settled convoy.limit convoy.homings branches schedule.world.cell) woken left later after)
    (joined : Poll.join convoy.key woken branches (Run.resumeAll schedule.world.handlers branches) schedule.world.cell =
      (.pending (.joined convoy.key left later), after))
    {index : Nat} {branch : Branch R} (present : later[index]? = some branch) (isOpen : branch.isOpen = true) :
    ∃ next, schedule.step Bench.workload = some next ∧ next.Returning exact convoy left later ∧
      next.world.cell.now = schedule.world.cell.now ∧ (next.dues convoy.runner < schedule.dues convoy.runner ∨
        next.dues convoy.runner ≤ schedule.dues convoy.runner ∧ left.length < woken.length) := by
  have abreast := returning.abreast sound
  have soon := returning.early sound served present isOpen
  obtain ⟨⟨traces, same⟩, asks⟩ := returning.quietly served soon
  obtain ⟨between, course, met⟩ := served.met
  let world : Bench R A := schedule.world.withCell { schedule.world.cell with traces := traces, outbox := [] }
  let base : BenchSchedule R A :=
    ({ schedule with ready := rest, world := world } : BenchSchedule R A).leave convoy.runner (some (convoy.job left later))
  have polled : Bench.poll (convoy.job woken branches) schedule.world =
      (some (convoy.job left later), world, after.outbox.map (Effect.request .motor)) := by
    rw [Convoy.job, Bench.poll_watching convoy.answer schedule.world _ _ _
      (Run.resume_abreast_waits _ woken left joined), same]
    rfl
  let next := (after.outbox.map (Effect.request .motor)).foldl
    (fun schedule request => schedule.grant Bench.workload convoy.runner request) base
  have stepped : schedule.step Bench.workload = some next := by
    rw [Schedule.step, ready]
    exact congrArg some (turn_of_poll rest returning.slot.found polled)
  have secluded : ∀ homing ∈ convoy.homings, base.Secluded Bench.workload .motor
      (Drive.LeavesAxis homing.handle homing.axis.generation) homing.mover convoy.runner := fun homing member =>
    (returning.secluded homing member).leave ready world rfl _ fun other => absurd rfl other
  obtain ⟨first, going, isFirst, -⟩ := returning.unfinished
  have firm : ∀ branch ∈ later, ∀ key, branch.touch key = branch := by
    intro branch member key
    rcases returning.later_branch sound course member with ⟨homing, -, rfl⟩ | ⟨value, rfl⟩
    · rfl
    · rfl
  have free : ∀ branch ∈ later, branch.holds convoy.key = false := by
    intro branch member
    rcases returning.later_branch sound course member with ⟨homing, inside, rfl⟩ | ⟨value, rfl⟩
    · simpa [Branch.holds, Homing.run, Run.holds] using sound.keyed homing inside
    · rfl
  obtain ⟨rung, slot, woken_again, less⟩ := asked (leave_slot returning.slot world rest (convoy.job left later))
    ((secluded going (List.mem_of_getElem? isFirst)).steady bench_houses) firm free asks
  have given : next.world = world := rung.called.world
  have spent : base.dues convoy.runner + 1 = schedule.dues convoy.runner := by
    have least : base.dues convoy.runner = ({ schedule with ready := rest } : BenchSchedule R A).dues convoy.runner := rfl
    rw [least]
    unfold dues
    rw [ready, List.map_cons, List.sum_cons, if_pos rfl]
    dsimp only
    omega
  refine ⟨next, stepped, ⟨slot, course.length.trans returning.length, fun place homing known => ?_,
    fun place homing axis known running there isOver => ?_, ?_,
    fun homing member => rung.called.secluded (secluded homing member), ?_, ?_, ?_, ?_, ?_⟩, ?_,
    less.imp (fun less => (Nat.lt_succ_of_le less).trans_le spent.le) fun less =>
      ⟨less.1.trans spent.le, less.2⟩⟩
  · obtain ⟨ticks, stage⟩ := returning.each place homing known
    have isSound := sound.sound homing (List.mem_of_getElem? known)
    refine ⟨ticks, stage_served course soon known (view stage)
      (stage.still isSound stepped ?_ (fun _ => ?_) ?_ fun _ _ => ?_)⟩
    · rw [given]
      rfl
    · rw [given]
      rfl
    · rw [given]
      exact Nat.le_refl _
    · rw [given]
      rfl
  · rw [given] at there isOver
    have isWaiting : branches[place]? = some (.running (homing.run convoy.limit)) := by
      rcases course.each place homing known with ⟨kept, -⟩ | ⟨-, axis, -, -, -, ended⟩
      · exact kept.symm.trans running
      · cases running.symm.trans ended
    rcases met place (returning.told place homing axis known isWaiting there isOver).1 with settled | inside
    · cases running.symm.trans (settled homing axis known isWaiting there isOver)
    · exact ⟨inside, woken_again (List.ne_nil_of_mem inside)⟩
  · obtain ⟨homing, axis, known, rfl, -⟩ := abreast.open_waits course present isOpen
    exact ⟨index, homing, known, present⟩
  · rw [given]
    exact returning.within
  · rw [given]
    exact returning.uncut
  · rw [given]
    rfl
  · rw [given]
    exact ⟨returning.ticking.axes, returning.ticking.actuators⟩
  · rw [given]
    exact returning.untold.trans ⟨rfl, rfl, rfl, rfl⟩
  · rw [given]
    rfl

theorem home_served {values : List (Value R)} {index : Nat} {homing : Homing R}
    (returning : schedule.Returning exact convoy woken branches) (sound : convoy.Sound)
    (course : Homing.Course convoy.limit convoy.homings branches schedule.world.cell (values.map .ended) after)
    (known : convoy.homings[index]? = some homing) :
    (∃ axis, after.axes.get? homing.handle = some axis ∧ values[index]? = some (.number axis.state.position) ∧
      homing.Ended exact convoy.since convoy.limit axis) ∧
    min (homing.arrival convoy.since) convoy.limit ≤ schedule.world.cell.now ∧
      (branches[index]? = some (.running (homing.run convoy.limit)) →
        min (homing.arrival convoy.since) convoy.limit = schedule.world.cell.now) := by
  obtain ⟨ticks, stage⟩ := returning.each index homing known
  have isSound := sound.sound homing (List.mem_of_getElem? known)
  have ended : ∀ {value : Value R}, (values.map Branch.ended)[index]? = some (.ended value) →
      values[index]? = some value := by
    intro value there
    rw [List.getElem?_map] at there
    obtain ⟨own, isOwn, same⟩ := Option.map_eq_some_iff.mp there
    cases same
    exact isOwn
  have ahead : ticks < homing.leg.ticks →
      schedule.world.cell.now ≤ tickAt homing.axis.tick convoy.since (ticks + 1) := fun short =>
    (stage.goes.ahead (Homing.Stage.lawful isSound) (bench_houses.shows _ fun _ _ => rfl) short).1
  have ends := fun isOver =>
    Homing.ended_of_halt exact isSound stage.goes.bounded stage.past ahead returning.within isOver
  rcases course.each index homing known with ⟨same, kept⟩ | ⟨running, axis, there, isOver, stands, isEnd⟩
  · rcases stage.branch with ⟨running, -⟩ | ⟨isEnd, arrived⟩
    · rw [← same, List.getElem?_map] at running
      obtain ⟨value, -, differs⟩ := Option.map_eq_some_iff.mp running
      cases differs
    · have rests := (rests_iff exact convoy.since stage.goes.bounded).mpr arrived
      obtain ⟨waited, least, -⟩ := ends (Or.inl rests)
      rw [Axis.halt, rests, if_neg Bool.false_ne_true] at waited
      refine ⟨⟨_, kept.trans (view stage), ?_, waited⟩, least, fun running => ?_⟩
      · rw [ended (same.trans isEnd), arrived]
        simp [Homing.trip, Leg.trip, Axis.along, Leg.state, Leg.place]
      · cases isEnd.symm.trans running
  · cases there.symm.trans (view stage)
    obtain ⟨waited, least, exactly⟩ := ends isOver
    refine ⟨⟨_, stands, ?_, waited⟩, least, fun running => exactly fun arrived => ?_⟩
    · rw [ended isEnd, Homing.halt_position]
    · rcases stage.branch with ⟨-, now⟩ | ⟨isEnd, -⟩
      · exact now arrived
      · cases isEnd.symm.trans running

theorem own_turn_ends {values : List (Value R)} (returning : schedule.Returning exact convoy woken branches)
    (sound : convoy.Sound) (ready : schedule.ready = convoy.runner :: rest)
    (course : Homing.Course convoy.limit convoy.homings branches schedule.world.cell (values.map .ended) after)
    (joined : Poll.join convoy.key woken branches (Run.resumeAll schedule.world.handlers branches) schedule.world.cell =
      (.done (.list values), after)) :
    ∃ next, schedule.step Bench.workload = some next ∧ convoy.Home exact next.world := by
  let cell := (after.trace convoy.inner .completed 1).trace convoy.outer .completed 1
  let noted := (schedule.world.withCell cell).note (convoy.answer (.value (.list values)))
  have polled : Bench.poll (convoy.job woken branches) schedule.world =
      (none, { noted with finished := true }.collect.1, { noted with finished := true }.collect.2) := by
    rw [Convoy.job, Bench.poll_watching convoy.answer schedule.world _ _ _ (Run.resume_abreast_done _ woken joined)]
    rfl
  refine ⟨_, (by rw [Schedule.step, ready]), ?_⟩
  rw [turn_of_poll rest returning.slot.found polled, grants_world, leave_world]
  have untold := returning.untold
  refine ⟨rfl, untold.broken, course.index.trans untold.index, ⟨values, cell, ?_, ?_, fun index homing known => ?_⟩, ?_⟩
  · show schedule.world.log.push (convoy.answer (.value (.list values)), cell) = _
    rw [untold.log]
  · rw [← returning.length, ← course.length, List.length_map]
  · exact (returning.home_served sound course known).1
  · obtain ⟨index, homing, known, running⟩ := returning.unfinished
    obtain ⟨ticks, stage⟩ := returning.each index homing known
    have isSound := sound.sound homing (List.mem_of_getElem? known)
    have begun : convoy.since ≤ schedule.world.cell.now :=
      ((tickAt_mono homing.axis.tick isSound.lasts convoy.since).monotone (Nat.zero_le ticks)).trans stage.past
    refine course.now.trans (foldl_max_eq _ _ _ begun (fun time member => ?_) (Or.inr ?_)).symm
    · obtain ⟨other, inside, rfl⟩ := List.mem_map.mp member
      obtain ⟨place, isOther⟩ := List.getElem?_of_mem inside
      exact (returning.home_served sound course isOther).2.1
    · refine List.mem_map.mpr ⟨homing, List.mem_of_getElem? known, ?_⟩
      exact (returning.home_served sound course known).2.2 running

theorem own_turn (returning : schedule.Returning exact convoy woken branches) (sound : convoy.Sound)
    (ready : schedule.ready = convoy.runner :: rest) :
    ∃ next, schedule.step Bench.workload = some next ∧ (convoy.Home exact next.world ∨
      ∃ left later, next.Returning exact convoy left later ∧ next.world.cell.now = schedule.world.cell.now ∧
        (next.dues convoy.runner < schedule.dues convoy.runner ∨
          next.dues convoy.runner ≤ schedule.dues convoy.runner ∧ left.length < woken.length)) := by
  have abreast := returning.abreast sound
  have tame : Poll.Tame (Run.resumeAll schedule.world.handlers branches) _ _ := abreast.tame
  obtain ⟨left, later, after, joined, served⟩ :=
    Poll.join_tame tame convoy.key woken branches schedule.world.cell abreast.begins
  obtain ⟨between, course, -⟩ := served.met
  cases all : Branch.values? later with
  | some values =>
      obtain rfl := Branch.ended_of_values later values all
      cases served with
      | all none course met =>
          rw [Poll.gather_ended] at joined
          obtain ⟨next, stepped, home⟩ := returning.own_turn_ends sound ready course joined
          exact ⟨next, stepped, Or.inl home⟩
      | yields course fewer met waits =>
          obtain ⟨place, run, -, there⟩ := waits
          rw [List.getElem?_map] at there
          obtain ⟨value, -, differs⟩ := Option.map_eq_some_iff.mp there
          cases differs
  | none =>
      obtain ⟨index, branch, present, isOpen⟩ :=
        Branch.open_of_unsettled later all (Branch.due_of_fine later (abreast.course_fine course))
      have pending : Poll.gather convoy.key left later = .pending (.joined convoy.key left later) := by
        simp only [Poll.gather, all]
      rw [pending] at joined
      obtain ⟨next, stepped, onward, rest⟩ := returning.own_turn_waits sound ready served joined present isOpen
      exact ⟨next, stepped, Or.inr ⟨left, later, onward, rest⟩⟩

end

theorem step (returning : schedule.Returning exact convoy woken branches) (sound : convoy.Sound) :
    ∃ next, schedule.step Bench.workload = some next ∧ (convoy.Home exact next.world ∨
      ∃ more later, next.Returning exact convoy more later ∧ (schedule.world.cell.now < next.world.cell.now ∨
        next.world.cell.now = schedule.world.cell.now ∧ (next.dues convoy.runner < schedule.dues convoy.runner ∨
          next.dues convoy.runner ≤ schedule.dues convoy.runner ∧ more.length < woken.length))) := by
  cases ready : schedule.ready with
  | nil =>
      by_cases resting : schedule.resting = []
      · obtain ⟨next, more, stepped, onward, forward⟩ := returning.jumps sound ready resting
        exact ⟨next, stepped, Or.inr ⟨more, branches, onward, Or.inl forward⟩⟩
      · obtain ⟨next, more, stepped, onward, now, less⟩ := returning.stirs sound ready resting
        exact ⟨next, stepped, Or.inr ⟨more, branches, onward, Or.inr ⟨now, Or.inl less⟩⟩⟩
  | cons number rest =>
      by_cases own : number = convoy.runner
      · obtain ⟨next, stepped, home | ⟨left, later, onward, less⟩⟩ := returning.own_turn sound (own ▸ ready)
        · exact ⟨next, stepped, Or.inl home⟩
        · exact ⟨next, stepped, Or.inr ⟨left, later, onward, Or.inr less⟩⟩
      · obtain ⟨next, more, stepped, onward, now, less⟩ := returning.other_turn sound ready own
        exact ⟨next, stepped, Or.inr ⟨more, branches, onward, Or.inr ⟨now, Or.inl less⟩⟩⟩

theorem ends (sound : convoy.Sound) (schedule : BenchSchedule R A) (woken : List Nat) (branches : List (Branch R))
    (returning : schedule.Returning exact convoy woken branches) :
    ∃ fuel, convoy.Home exact (schedule.run Bench.workload (fun bench => bench.finished) fuel).world := by
  have going : schedule.world.finished = false := returning.untold.finished.trans sound.unfinished
  have run_on : ∀ fuel next, schedule.step Bench.workload = some next →
      schedule.run Bench.workload (fun bench => bench.finished) (fuel + 1) =
        next.run Bench.workload (fun bench => bench.finished) fuel := by
    intro fuel next stepped
    rw [Schedule.run, if_neg (by simp [going])]
    simp only [stepped]
  obtain ⟨next, stepped, home | ⟨more, later, onward, less⟩⟩ := returning.step sound
  · exact ⟨1, by rw [run_on 0 next stepped]; exact home⟩
  · have within := onward.within
    obtain ⟨fuel, home⟩ := ends sound next more later onward
    exact ⟨fuel + 1, by rw [run_on fuel next stepped]; exact home⟩
termination_by (convoy.limit - schedule.world.cell.now, schedule.dues convoy.runner, woken.length)
decreasing_by
  rcases less with forward | ⟨now, less | ⟨most, fewer⟩⟩
  · exact Prod.Lex.left _ _ (by omega)
  · rw [now]
    exact Prod.Lex.right _ (Prod.Lex.left _ _ less)
  · rw [now]
    rcases Nat.lt_or_eq_of_le most with less | same
    · exact Prod.Lex.right _ (Prod.Lex.left _ _ less)
    · rw [same]
      exact Prod.Lex.right _ (Prod.Lex.right _ fewer)

end Schedule.Returning

end Workcell

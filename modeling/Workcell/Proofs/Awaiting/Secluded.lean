import Workcell.Proofs.Awaiting.Watching

/-!
A job that waits with nobody at work beside it but motors does come to an end. Each step of the scheduler takes the clock on
toward the time that is waited for, or spends a turn that was due; motors ask for nothing but turns of the job that waits.
-/

set_option autoImplicit false

namespace Workcell

variable {R : Type} [Scalar R] {W J D : Type}

structure Cell.Ticking (cell : Cell R) : Prop where
  axes : ∀ axis ∈ cell.axes.slots, axis.tick ≠ 0
  actuators : ∀ actuator ∈ cell.actuators.slots, actuator.tick ≠ 0

structure Cell.Tended (before after : Cell R) : Prop where
  now : after.now = before.now
  cancelled : after.cancelled = before.cancelled
  ticking : before.Ticking → after.Ticking
  asked : ∃ signals : List Signal, after.outbox = before.outbox ++ signals.map .signal

namespace Motor

omit [Scalar R] in
theorem tended_refl (cell : Cell R) (issued : Nat) : cell.Tended { cell with issued := issued } :=
  ⟨rfl, rfl, fun ticking => ⟨ticking.axes, ticking.actuators⟩, [], by simp⟩

theorem step_tends (cell : Cell R) (drive : Drive R) (done : Bool) (after : Cell R)
    (stepped : step cell drive = some (done, after)) : cell.Tended after ∧ (cell.Ticking → tick after drive ≠ 0) := by
  cases drive with
  | axis handle motion =>
      obtain ⟨axis, found, later⟩ := Option.bind_eq_some_iff.mp stepped
      obtain ⟨⟨moved, last⟩, ticked, same⟩ := Option.bind_eq_some_iff.mp later
      cases same
      have held : moved.tick = axis.tick := by
        unfold AxisMotion.tick? at ticked
        split at ticked
        · cases ticked
          rfl
        · cases ticked
      have inside : handle < cell.axes.slots.length := (List.getElem?_eq_some_iff.mp found).1
      have present : axis ∈ cell.axes.slots := List.mem_of_getElem? found
      refine ⟨⟨rfl, rfl, fun ticking => ⟨fun other member => ?_, ticking.actuators⟩, [.axis handle], rfl⟩, fun ticking => ?_⟩
      · rcases List.mem_or_eq_of_mem_set member with old | rfl
        · exact ticking.axes other old
        · exact held ▸ ticking.axes axis present
      · have own : tick (({ cell with axes := cell.axes.set handle moved } : Cell R).signal (.axis handle))
            (.axis handle motion) = axis.tick := by
          simp [tick, Cell.signal, Cell.effect, Bank.get?, Bank.set, inside, held]
        exact own.symm ▸ ticking.axes axis present
  | actuator handle stroke began =>
      obtain ⟨actuator, found, later⟩ := Option.bind_eq_some_iff.mp stepped
      obtain ⟨⟨moved, last⟩, ticked, same⟩ := Option.bind_eq_some_iff.mp later
      cases same
      have held : moved.tick = actuator.tick := by
        unfold Stroke.tick? at ticked
        split at ticked
        · cases ticked
          rfl
        · cases ticked
      have inside : handle < cell.actuators.slots.length := (List.getElem?_eq_some_iff.mp found).1
      have present : actuator ∈ cell.actuators.slots := List.mem_of_getElem? found
      refine ⟨⟨rfl, rfl, fun ticking => ⟨ticking.axes, fun other member => ?_⟩, [.actuator handle], rfl⟩, fun ticking => ?_⟩
      · rcases List.mem_or_eq_of_mem_set member with old | rfl
        · exact ticking.actuators other old
        · exact held ▸ ticking.actuators actuator present
      · have own : tick (({ cell with actuators := cell.actuators.set handle moved } : Cell R).signal (.actuator handle))
            (.actuator handle stroke began) = actuator.tick := by
          simp [tick, Cell.signal, Cell.effect, Bank.get?, Bank.set, inside, held]
        exact own.symm ▸ ticking.actuators actuator present

theorem poll_tends (work : Motor R) (cell : Cell R) (ticking : cell.Ticking) :
    cell.Tended (work.poll cell).2 ∧ ∀ left, (work.poll cell).1 = some left →
      ∃ timer, left.timer = some timer ∧ cell.now < timer.due := by
  have still : cell.Tended cell := tended_refl cell cell.issued
  obtain ⟨drive, next⟩ := work
  cases next with
  | none =>
      rw [poll]
      by_cases ticks : tick cell drive = 0
      · simp only [if_pos ticks]
        exact ⟨still, fun left isLeft => by cases isLeft⟩
      · have same : tick cell (begun cell.now drive) = tick cell drive := by
          cases drive with
          | axis handle motion => rfl
          | actuator handle stroke began => rfl
        simp only [if_neg ticks]
        refine ⟨tended_refl cell _, fun left isLeft => ?_⟩
        cases isLeft
        exact ⟨_, rfl, Duration.due_ahead _ _ (same ▸ ticks)⟩
  | some timer =>
      rw [poll]
      by_cases passed : cell.reached timer = true
      · simp only [if_pos passed]
        cases stepped : step cell drive with
        | none => exact ⟨still, fun left isLeft => by cases isLeft⟩
        | some outcome =>
            obtain ⟨done, after⟩ := outcome
            obtain ⟨tended, ticks⟩ := step_tends cell drive done after stepped
            cases done with
            | true => exact ⟨tended, fun left isLeft => by cases isLeft⟩
            | false =>
                refine ⟨⟨tended.now, tended.cancelled, fun ticking => ⟨(tended.ticking ticking).axes,
                  (tended.ticking ticking).actuators⟩, tended.asked⟩, fun left isLeft => ?_⟩
                cases isLeft
                refine ⟨_, rfl, ?_⟩
                rw [← tended.now]
                exact Duration.due_ahead _ _ (ticks ticking)
      · simp only [if_neg passed]
        refine ⟨still, fun left isLeft => ?_⟩
        cases isLeft
        exact ⟨timer, rfl, cell.reached_of_not timer passed⟩

end Motor

structure Trip.Spared (trip : Trip R D) (seen : Cell R → Option D) (spares : Drive R → Prop) : Prop where
  begun : ∀ now drive, spares drive → spares (Motor.begun now drive)
  issued : ∀ cell issued, seen { cell with issued := issued } = seen cell
  still : ∀ cell drive done after ticks, spares drive → seen cell = some (trip.stand ticks) →
    Motor.step cell drive = some (done, after) → seen after = seen cell

theorem Trip.Spared.poll {trip : Trip R D} {seen : Cell R → Option D} {spares : Drive R → Prop}
    (spared : trip.Spared seen spares) (work : Motor R) (own : spares work.drive) (cell : Cell R) (ticks : Nat)
    (there : seen cell = some (trip.stand ticks)) :
    seen (work.poll cell).2 = seen cell ∧ ∀ left, (work.poll cell).1 = some left → spares left.drive := by
  obtain ⟨drive, next⟩ := work
  cases next with
  | none =>
      rw [Motor.poll]
      by_cases ticks : Motor.tick cell drive = 0
      · simp only [if_pos ticks]
        exact ⟨trivial, fun left isLeft => by cases isLeft⟩
      · simp only [if_neg ticks]
        refine ⟨spared.issued cell _, fun left isLeft => ?_⟩
        cases isLeft
        exact spared.begun cell.now drive own
  | some timer =>
      rw [Motor.poll]
      by_cases passed : cell.reached timer = true
      · simp only [if_pos passed]
        cases stepped : Motor.step cell drive with
        | none => exact ⟨rfl, fun left isLeft => by cases isLeft⟩
        | some outcome =>
            obtain ⟨done, after⟩ := outcome
            have same := spared.still cell drive done after ticks own there stepped
            cases done with
            | true => exact ⟨same, fun left isLeft => by cases isLeft⟩
            | false =>
                refine ⟨(spared.issued after _).trans same, fun left isLeft => ?_⟩
                cases isLeft
                exact own
      · simp only [if_neg passed]
        refine ⟨trivial, fun left isLeft => ?_⟩
        cases isLeft
        exact own

namespace Schedule

variable {load : Workload W J} {schedule next : Schedule W J}

-- All jobs but the runner are the same when they have been woken.
def Steady (load : Workload W J) (runner : Nat) (schedule : Schedule W J) : Prop :=
  ∀ entry ∈ schedule.jobs, entry.1 ≠ runner → Firm load entry.2

structure Called (runner : Nat) (before after : Schedule W J) : Prop where
  world : after.world = before.world
  next : after.next = before.next
  resting : after.resting = before.resting
  numbers : after.jobs.map Prod.fst = before.jobs.map Prod.fst
  others : ∀ entry ∈ after.jobs, entry.1 ≠ runner → entry ∈ before.jobs
  ready : before.ready ⊆ after.ready

variable {runner : Nat}

theorem Called.refl (runner : Nat) (schedule : Schedule W J) : Called runner schedule schedule :=
  ⟨rfl, rfl, rfl, rfl, fun _ member _ => member, fun _ member => member⟩

theorem Called.trans {first second third : Schedule W J} (before : Called runner first second)
    (after : Called runner second third) : Called runner first third :=
  ⟨after.world.trans before.world, after.next.trans before.next, after.resting.trans before.resting,
    after.numbers.trans before.numbers, fun entry member other =>
    before.others entry (after.others entry member other) other,
    fun _ member => after.ready (before.ready member)⟩

theorem Called.steady {before after : Schedule W J} (called : Called runner before after)
    (steady : before.Steady load runner) :
    after.Steady load runner := fun entry member other => steady entry (called.others entry member other) other

theorem wake_called (steady : schedule.Steady load runner) (number key : Nat) :
    Called runner schedule (schedule.wake load number key) := by
  unfold wake
  split
  · refine ⟨rfl, rfl, rfl, ?_, fun entry member other => ?_, fun other member => (mem_enqueue _ _ other).mpr (Or.inl member)⟩
    · rw [List.map_map]
      refine List.map_congr_left fun entry _ => ?_
      rw [Function.comp]
      split
      · rfl
      · rfl
    · obtain ⟨old, there, rfl⟩ := List.mem_map.mp member
      by_cases same : old.1 = number
      · rw [if_pos same] at other ⊢
        rw [steady old there other key]
        exact there
      · rw [if_neg same]
        exact there
  · exact .refl runner schedule

theorem wakes_called {E : Type} (job key : E → Nat) (items : List E) (steady : schedule.Steady load runner) :
    Called runner schedule (items.foldl (fun schedule item => schedule.wake load (job item) (key item)) schedule) := by
  induction items generalizing schedule with
  | nil => exact .refl runner schedule
  | cons item rest ih =>
      have first := wake_called steady (job item) (key item)
      exact first.trans (ih (first.steady steady))

-- The turns that are due, those of others and of resting places counted for what they may wake.
def dues (runner : Nat) (schedule : Schedule W J) : Nat :=
  (schedule.ready.map fun number => if number = runner then 1 else 2).sum + 3 * schedule.resting.length

structure Rung (runner : Nat) (before after : Schedule W J) : Prop where
  called : Called runner before after
  ready : after.ready = before.ready ∨ runner ∉ before.ready ∧ after.ready = before.ready ++ [runner]

theorem Rung.refl (runner : Nat) (schedule : Schedule W J) : Rung runner schedule schedule :=
  ⟨.refl runner schedule, Or.inl rfl⟩

theorem Rung.trans {first second third : Schedule W J} (before : Rung runner first second)
    (after : Rung runner second third) : Rung runner first third := by
  refine ⟨before.called.trans after.called, ?_⟩
  rcases before.ready with same | ⟨absent, added⟩
  · rw [← same]
    exact after.ready
  · rcases after.ready with same | ⟨still, -⟩
    · exact Or.inr ⟨absent, same.trans added⟩
    · exact absurd (added ▸ List.mem_append_right _ (List.mem_singleton.mpr rfl)) still

theorem Rung.dues {before after : Schedule W J} (rung : Rung runner before after) :
    after.dues runner ≤ before.dues runner + 1 := by
  unfold Schedule.dues
  rw [rung.called.resting]
  rcases rung.ready with same | ⟨-, added⟩
  · rw [same]
    exact Nat.le_add_right _ _
  · rw [added, List.map_append, List.sum_append]
    simp only [List.map_cons, List.map_nil, List.sum_cons, List.sum_nil, if_true]
    omega

theorem wake_rings (steady : schedule.Steady load runner) (key : Nat) :
    Rung runner schedule (schedule.wake load runner key) := by
  refine ⟨wake_called steady runner key, ?_⟩
  unfold wake
  split
  · unfold enqueue
    rw [List.foldl_cons, List.foldl_nil]
    by_cases there : schedule.ready.contains runner = true
    · exact Or.inl (if_pos there)
    · exact Or.inr ⟨by simpa using there, if_neg there⟩
  · exact Or.inl rfl

theorem wakes_ring {E : Type} (job key : E → Nat) (items : List E) (own : ∀ item ∈ items, job item = runner)
    (steady : schedule.Steady load runner) :
    Rung runner schedule (items.foldl (fun schedule item => schedule.wake load (job item) (key item)) schedule) := by
  induction items generalizing schedule with
  | nil => exact .refl runner schedule
  | cons item rest ih =>
      rw [List.foldl_cons, own item List.mem_cons_self]
      have first := wake_rings steady (key item)
      exact first.trans (ih (fun other member => own other (List.mem_cons_of_mem _ member)) (first.called.steady steady))

theorem stir_dues (runner : Nat) (resting : schedule.resting ≠ []) :
    (schedule.stir load).dues runner < schedule.dues runner := by
  have once : ∀ (schedule : Schedule W J) (number key : Nat),
      (schedule.wake load number key).dues runner ≤ schedule.dues runner + 2 := by
    intro schedule number key
    unfold wake
    split
    · unfold Schedule.dues enqueue
      rw [List.foldl_cons, List.foldl_nil]
      dsimp only
      split
      · exact Nat.le_add_right _ _
      · rw [List.map_append, List.sum_append]
        simp only [List.map_cons, List.map_nil, List.sum_cons, List.sum_nil]
        split
        · omega
        · omega
    · exact Nat.le_add_right _ _
  have most : ∀ (entries : List (Nat × Nat)) (schedule : Schedule W J),
      (entries.foldl (fun schedule entry => schedule.wake load entry.1 entry.2) schedule).dues runner ≤
        schedule.dues runner + 2 * entries.length := by
    intro entries
    induction entries with
    | nil => exact fun schedule => Nat.le_add_right _ _
    | cons entry rest ih =>
        intro schedule
        have first := once schedule entry.1 entry.2
        have later := ih (schedule.wake load entry.1 entry.2)
        rw [List.foldl_cons, List.length_cons]
        omega
  have stirred := most schedule.resting { schedule with resting := [] }
  have before : ({ schedule with resting := [] } : Schedule W J).dues runner + 3 * schedule.resting.length =
      schedule.dues runner := by
    unfold Schedule.dues
    simp
  have places : 0 < schedule.resting.length := List.length_pos_iff.mpr resting
  unfold stir
  omega

-- Beside the runner there are only motors, which, all but the mover, have drives that are known; and a motor whose
-- time has come has a turn to come.
def Secluded (load : Workload W J) (motor : Motor R → J) (spares : Drive R → Prop) (mover : Option Nat) (runner : Nat)
    (schedule : Schedule W J) : Prop :=
  ∀ entry ∈ schedule.jobs, entry.1 ≠ runner → ∃ work, entry.2 = motor work ∧ (mover ≠ some entry.1 → spares work.drive) ∧
    ∀ timer, work.timer = some timer → timer.due ≤ load.now schedule.world → entry.1 ∈ schedule.ready

variable {cell? : W → Option (Cell R)} {motor : Motor R → J} {spares : Drive R → Prop} {mover : Option Nat}
  {number : Nat} {job : J}

omit [Scalar R] in
theorem Called.secluded {before after : Schedule W J} (called : Called runner before after)
    (secluded : before.Secluded load motor spares mover runner) : after.Secluded load motor spares mover runner := by
  intro entry member other
  obtain ⟨work, isMotor, known, prompt⟩ := secluded entry (called.others entry member other) other
  exact ⟨work, isMotor, known, fun timer timed due => called.ready (prompt timer timed (called.world ▸ due))⟩

theorem Secluded.steady (secluded : schedule.Secluded load motor spares mover runner) (houses : load.Houses cell? motor) :
    schedule.Steady load runner := by
  intro entry member other key
  obtain ⟨work, isMotor, -⟩ := secluded entry member other
  exact isMotor ▸ houses.touch key work

-- Motors listen to nobody.
theorem Secluded.signals_ring (secluded : schedule.Secluded load motor spares mover runner)
    (houses : load.Houses cell? motor) (number : Nat) (signals : List Signal) :
    Rung runner schedule ((signals.map Request.signal).foldl (fun schedule request => schedule.grant load number request)
      schedule) := by
  induction signals generalizing schedule with
  | nil => exact .refl runner schedule
  | cons signal rest ih =>
      have first : Rung runner schedule (schedule.deliver load signal) := by
        refine wakes_ring _ _ _ (fun place member => ?_) (secluded.steady houses)
        obtain ⟨inside, listens⟩ := List.mem_filter.mp ((mem_sortBy _ place _).mp member)
        obtain ⟨entry, there, own⟩ := List.mem_flatMap.mp inside
        obtain ⟨leaf, here, rfl⟩ := List.mem_map.mp own
        by_contra other
        obtain ⟨work, isMotor, -⟩ := secluded entry there other
        rw [isMotor, houses.leaves] at here
        rw [List.mem_singleton.mp here] at listens
        cases listens
      exact first.trans (ih (first.called.secluded secluded))

omit [Scalar R] in
-- After a turn the others are as they were, and what is left of a motor waits for a time that is still to come.
theorem Secluded.leave (secluded : schedule.Secluded load motor spares mover runner) {rest : List Nat}
    (ready : schedule.ready = number :: rest) (world : W) (clock : load.now world = load.now schedule.world)
    (left : Option J) (own : number ≠ runner → ∀ job, left = some job → ∃ work, job = motor work ∧
      (mover ≠ some number → spares work.drive) ∧ ∀ timer, work.timer = some timer → load.now schedule.world < timer.due) :
    (({ schedule with ready := rest, world := world } : Schedule W J).leave number left).Secluded load motor spares mover
      runner := by
  have still : ∀ entry ∈ schedule.jobs, entry.1 ≠ runner → entry.1 ≠ number → ∃ work, entry.2 = motor work ∧
      (mover ≠ some entry.1 → spares work.drive) ∧
      ∀ timer, work.timer = some timer → timer.due ≤ load.now world → entry.1 ∈ rest := by
    intro entry member other differs
    obtain ⟨work, isMotor, known, prompt⟩ := secluded entry member other
    refine ⟨work, isMotor, known, fun timer timed due => ?_⟩
    have waits := prompt timer timed (clock ▸ due)
    rw [ready] at waits
    exact (List.mem_cons.mp waits).resolve_left differs
  cases left with
  | some job =>
      intro entry member other
      obtain ⟨old, there, rfl⟩ := List.mem_map.mp member
      by_cases same : old.1 = number
      · rw [if_pos same] at other ⊢
        obtain ⟨work, isMotor, known, ahead⟩ := own other job rfl
        exact ⟨work, isMotor, known, fun timer timed due => absurd (clock ▸ due) (Nat.not_le_of_lt (ahead timer timed))⟩
      · rw [if_neg same] at other ⊢
        exact still old there other same
  | none =>
      intro entry member other
      obtain ⟨inside, differs⟩ := List.mem_filter.mp member
      exact still entry inside other (by simpa using differs)

omit [Scalar R] in
theorem leave_dues (runner number : Nat) (left : Option J) (schedule : Schedule W J) :
    (schedule.leave number left).dues runner ≤ schedule.dues runner := by
  cases left with
  | some job => exact Nat.le_refl _
  | none =>
      have fewer := List.length_filter_le (fun entry : Nat × Nat => !(entry.1 == number)) schedule.resting
      unfold dues Schedule.leave
      dsimp only
      omega

structure Keeps (cell? : W → Option (Cell R)) (cell : Cell R) (next : Schedule W J) (after : Cell R) : Prop where
  held : cell? next.world = some after
  ticking : after.Ticking
  quiet : after.outbox = []
  uncut : after.cancelled = cell.cancelled

theorem Secluded.other_turn {trip : Trip R D} {seen : Cell R → Option D}
    (secluded : schedule.Secluded load motor spares mover runner) (houses : load.Houses cell? motor)
    (spared : trip.Spared seen spares) (outbox : ∀ cell outbox, seen { cell with outbox := outbox } = seen cell)
    {cell : Cell R} (held : cell? schedule.world = some cell) (ticking : cell.Ticking) (quiet : cell.outbox = [])
    {ticks : Nat} (there : seen cell = some (trip.stand ticks)) {rest : List Nat} (ready : schedule.ready = number :: rest)
    (other : number ≠ runner) :
    (({ schedule with ready := rest } : Schedule W J).turn load number).Secluded load motor spares mover runner ∧
      (({ schedule with ready := rest } : Schedule W J).turn load number).dues runner < schedule.dues runner ∧
      ∃ after, Keeps cell? cell (({ schedule with ready := rest } : Schedule W J).turn load number) after ∧
        after.now = cell.now ∧ (seen after = seen cell ∨ mover = some number) := by
  have fewer : ({ schedule with ready := rest } : Schedule W J).dues runner + 2 = schedule.dues runner := by
    unfold dues
    rw [ready, List.map_cons, List.sum_cons, if_neg other]
    dsimp only
    omega
  have clock := houses.clock schedule.world cell held
  cases found : schedule.jobs.lookup number with
  | none =>
      have nobody : ({ schedule with ready := rest } : Schedule W J).turn load number = { schedule with ready := rest } := by
        simp only [turn, found]
      rw [nobody]
      refine ⟨fun entry member differs => ?_, by omega, cell, ⟨held, ticking, quiet, rfl⟩, rfl, Or.inl rfl⟩
      obtain ⟨work, isMotor, known, prompt⟩ := secluded entry member differs
      refine ⟨work, isMotor, known, fun timer timed due => ?_⟩
      have waits := prompt timer timed due
      rw [ready] at waits
      refine (List.mem_cons.mp waits).resolve_left fun same => ?_
      have absent := List.lookup_eq_none_iff.mp found entry member
      simp [← same] at absent
  | some work? =>
      obtain ⟨work, isMotor, known, -⟩ := secluded _ (HandlerTable.mem_of_lookup number work? schedule.jobs found) other
      cases isMotor
      obtain ⟨left, given, requests⟩ := houses.poll work schedule.world cell held
      obtain ⟨tended, ahead⟩ := work.poll_tends cell ticking
      obtain ⟨signals, asked⟩ := tended.asked
      have now := houses.clock _ _ given
      have same : load.now (load.poll (motor work) schedule.world).2.1 = load.now schedule.world := by
        rw [← now, ← clock]
        exact tended.now
      have sent : (load.poll (motor work) schedule.world).2.2 = signals.map .signal := by
        rw [requests, asked, quiet, List.nil_append, List.map_map]
        rfl
      have turned : ({ schedule with ready := rest } : Schedule W J).turn load number =
          (signals.map Request.signal).foldl (fun schedule request => schedule.grant load number request)
            (({ schedule with ready := rest, world := (load.poll (motor work) schedule.world).2.1 } : Schedule W J).leave
              number ((work.poll cell).1.map motor)) := by
        simp only [turn, found, sent, left]
      have stays := secluded.leave ready (load.poll (motor work) schedule.world).2.1 same ((work.poll cell).1.map motor) ?_
      · have rung := stays.signals_ring houses number signals
        have less := leave_dues runner number ((work.poll cell).1.map motor)
          { schedule with ready := rest, world := (load.poll (motor work) schedule.world).2.1 }
        have world : (({ schedule with ready := rest } : Schedule W J).turn load number).world =
            (load.poll (motor work) schedule.world).2.1 := by
          rw [turned, rung.called.world]
          cases (work.poll cell).1 with
          | none => rfl
          | some left => rfl
        refine ⟨turned ▸ rung.called.secluded stays, ?_, { (work.poll cell).2 with outbox := [] },
          ⟨world.symm ▸ given, ?_, rfl, tended.cancelled⟩, tended.now, ?_⟩
        · rw [turned]
          have spent : ({ schedule with ready := rest, world := (load.poll (motor work) schedule.world).2.1 } :
            Schedule W J).dues runner = ({ schedule with ready := rest } : Schedule W J).dues runner := rfl
          have most := rung.dues
          omega
        · exact ⟨(tended.ticking ticking).axes, (tended.ticking ticking).actuators⟩
        · by_cases own : mover = some number
          · exact Or.inr own
          · exact Or.inl ((outbox _ _).trans (spared.poll work (known own) cell ticks there).1)
      · intro _ job isLeft
        obtain ⟨rested, isRested, rfl⟩ := Option.map_eq_some_iff.mp isLeft
        refine ⟨rested, rfl, fun theirs => (spared.poll work (known theirs) cell ticks there).2 rested isRested,
          fun timer timed => ?_⟩
        obtain ⟨own, isOwn, later⟩ := ahead rested isRested
        rw [Option.some.inj (timed.symm.trans isOwn), ← clock]
        exact later

theorem Secluded.stirred (secluded : schedule.Secluded load motor spares mover runner) (houses : load.Houses cell? motor)
    (resting : schedule.resting ≠ []) :
    (schedule.stir load).Secluded load motor spares mover runner ∧ (schedule.stir load).world = schedule.world ∧
      (schedule.stir load).dues runner < schedule.dues runner := by
  have cleared : ({ schedule with resting := [] } : Schedule W J).Secluded load motor spares mover runner := secluded
  have called : Called runner { schedule with resting := [] } (schedule.stir load) :=
    wakes_called Prod.fst Prod.snd schedule.resting (cleared.steady houses)
  exact ⟨called.secluded cleared, called.world, stir_dues runner resting⟩

theorem lookup_of_entry (numbered : schedule.Numbered) (entry : Nat × J) (member : entry ∈ schedule.jobs) :
    schedule.jobs.lookup entry.1 = some entry.2 := by
  obtain ⟨held, found⟩ : ∃ held, schedule.jobs.lookup entry.1 = some held := by
    cases found : schedule.jobs.lookup entry.1 with
    | some held => exact ⟨held, rfl⟩
    | none =>
        have absent := List.lookup_eq_none_iff.mp found entry member
        simp at absent
  obtain ⟨before, after, split, others⟩ := split_at_job schedule.jobs numbered.nodup entry.1 held found
  rw [split] at member
  rcases List.mem_append.mp member with early | late
  · exact absurd rfl (others entry (List.mem_append_left _ early))
  · rcases List.mem_cons.mp late with same | later
    · rw [found, same]
    · exact absurd rfl (others entry (List.mem_append_right _ later))

theorem Secluded.jumped (secluded : schedule.Secluded load motor spares mover runner) (houses : load.Houses cell? motor)
    (slot : schedule.Slot runner (some job)) (leaf : Leaf) (own : leaf ∈ load.leaves job)
    (timer : Timer) (timed : leaf.timer = some timer)
    (prompt : ∀ leaf ∈ load.leaves job, ∀ timer, leaf.timer = some timer → timer.due ≤ load.now schedule.world →
      runner ∈ schedule.ready) (ready : schedule.ready = []) :
    ∃ next due, schedule.jump load = some next ∧ next.world = load.elapse due schedule.world ∧
      load.now schedule.world < due ∧ next.Secluded load motor spares mover runner := by
  have listed : (timer, (⟨runner, leaf⟩ : Place)) ∈ schedule.timers load := by
    refine List.mem_filterMap.mpr ⟨⟨runner, leaf⟩, place_of_leaf job slot.found slot.numbered leaf own, ?_⟩
    rw [timed]
    rfl
  cases earliest : earliest? (schedule.timers load) with
  | none =>
      have none_ := List.map_eq_nil_iff.mp (List.min?_eq_none_iff.mp earliest)
      rw [none_] at listed
      cases listed
  | some due =>
      obtain ⟨⟨first, place⟩, isListed, isDue⟩ := List.mem_map.mp (List.min?_eq_some_iff.mp earliest).1
      obtain ⟨there, isPlaced, same⟩ := List.mem_filterMap.mp isListed
      obtain ⟨held, isHeld, pair⟩ := Option.map_eq_some_iff.mp same
      cases pair
      obtain ⟨entry, member, inside⟩ := List.mem_flatMap.mp isPlaced
      obtain ⟨waits, here, isPlace⟩ := List.mem_map.mp inside
      cases isPlace
      -- Somebody whose time had come already would have a turn to come.
      have ahead : load.now schedule.world < due := by
        refine Nat.lt_of_not_le fun passed => List.not_mem_nil (a := entry.1) ?_
        rw [← ready]
        have late : first.due ≤ load.now schedule.world := le_of_eq_of_le isDue passed
        by_cases runs : entry.1 = runner
        · have isJob : entry.2 = job :=
            Option.some.inj ((lookup_of_entry slot.numbered entry member).symm.trans (runs ▸ slot.found))
          exact runs ▸ prompt waits (isJob ▸ here) first isHeld late
        · obtain ⟨work, isMotor, -, due⟩ := secluded entry member runs
          rw [isMotor, houses.leaves] at here
          rw [List.mem_singleton.mp here] at isHeld
          exact due first isHeld late
      let elapsed : Schedule W J := { schedule with world := load.elapse due schedule.world }
      let reached := sortBy (fun entry => entry.1.order) ((schedule.timers load).filter fun entry =>
        decide (entry.1.due ≤ due))
      let next := reached.foldl (fun schedule entry => schedule.wake load entry.2.job entry.2.leaf.key) elapsed
      have jumped : schedule.jump load = some next := by
        rw [jump, earliest]
        rfl
      have steady : elapsed.Steady load runner := secluded.steady houses
      have called : Called runner elapsed next :=
        wakes_called (fun entry : Timer × Place => entry.2.job) (fun entry => entry.2.leaf.key) reached steady
      refine ⟨next, due, jumped, called.world, ahead, fun entry member differs => ?_⟩
      have old : entry ∈ schedule.jobs := called.others entry member differs
      obtain ⟨work, isMotor, known, -⟩ := secluded entry old differs
      refine ⟨work, isMotor, known, fun timer isTimer isLate => ?_⟩
      have stands : schedule.Slot entry.1 (some entry.2) :=
        ⟨slot.numbered, slot.numbered.below _ (List.mem_map_of_mem old), lookup_of_entry slot.numbered entry old⟩
      obtain ⟨-, -, reached, world, woken⟩ := jump_tracked entry.2 (steady entry old differs) stands jumped
      refine (woken ⟨0, work.timer, []⟩ ?_ timer isTimer).2 ?_
      · rw [isMotor, houses.leaves]
        exact List.mem_singleton.mpr rfl
      · rwa [world, houses.elapse] at isLate

end Schedule

-- An action that goes on to wait has at most set itself another timer.
theorem Cell.look_waits (cell after : Cell R) (wait next : Wait R) (looked : cell.look wait = (.waiting next, after)) :
    ∃ issued, after = { cell with issued := issued } := by
  cases wait with
  | delay timer =>
      rw [look] at looked
      split at looked
      · cases looked
      · cases looked
        exact ⟨_, rfl⟩
  | idle axis timer =>
      rw [look, lookIdle] at looked
      split at looked
      · split at looked
        · cases looked
        · cases looked
          exact ⟨_, rfl⟩
      · cases looked
  | settled actuator on timer =>
      rw [look, lookSettled] at looked
      split at looked
      · cases looked
      · dsimp only at looked
        split at looked
        · cases looked
        · cases looked
          exact ⟨_, rfl⟩
  | probe axis threshold deadline timer =>
      rw [look] at looked
      split at looked
      · rw [lookProbe] at looked
        split at looked
        · cases looked
        · split at looked
          · cases looked
          · split at looked
            · cases looked
            · cases looked
              exact ⟨_, rfl⟩
      · cases looked
        exact ⟨_, rfl⟩

theorem Run.resume_pending (table : HandlerTable R) (step : Step R) (number key : Nat) (wait : Wait R) (cell after : Cell R)
    (later : Run R) (resumed : (Run.attempt step number (.waiting key wait)).resume table cell = (.pending later, after)) :
    ∃ next issued, later = .attempt step number (.waiting key next) ∧ after = { cell with issued := issued } := by
  by_cases cut : cell.cancelled = true
  · have isLook : (Run.waiting key wait).resume table cell = (.fault .cancelled, wait.abandon cell) := by
      rw [resume, Poll.look, if_pos cut]
    rw [resume] at resumed
    simp only [isLook] at resumed
    cases resumed
  · have uncut : cell.cancelled = false := Bool.eq_false_of_not_eq_true cut
    rcases looked : cell.look wait with ⟨reply, left⟩
    cases reply with
    | value value =>
        rw [resume_ended table step number key wait cell left value uncut looked] at resumed
        cases resumed
    | waiting next =>
        rw [resume_waits table step number key wait next cell left uncut looked] at resumed
        cases resumed
        obtain ⟨issued, same⟩ := cell.look_waits after wait next looked
        exact ⟨next, issued, rfl, same⟩

namespace Schedule

variable {load : Workload W J} {cell? : W → Option (Cell R)} {motor : Motor R → J} {table : W → HandlerTable R}
  {fresh : Step R → J} {going : Run R → J} {beside : W → List J} {spares : Drive R → Prop} {mover : Option Nat}
  {runner : Nat} {trip : Trip R D} {seen : Cell R → Option D}

theorem Secluded.own_turn {schedule : Schedule W J} (secluded : schedule.Secluded load motor spares mover runner)
    (houses : load.Houses cell? motor) (carries : load.Carries cell? motor table fresh going beside) {run later : Run R}
    (found : schedule.jobs.lookup runner = some (going run)) {cell : Cell R} (held : cell? schedule.world = some cell)
    (quiet : cell.outbox = []) (issued : Nat)
    (resumed : run.resume (table schedule.world) cell = (.pending later, { cell with issued := issued })) {rest : List Nat}
    (ready : schedule.ready = runner :: rest) :
    (({ schedule with ready := rest } : Schedule W J).turn load runner).Secluded load motor spares mover runner ∧
      (({ schedule with ready := rest } : Schedule W J).turn load runner).dues runner < schedule.dues runner ∧
      cell? (({ schedule with ready := rest } : Schedule W J).turn load runner).world =
        some { cell with issued := issued, outbox := [] } := by
  obtain ⟨left, given, requests⟩ := carries.goes run schedule.world cell later _ held resumed rfl
  have clock : load.now (load.poll (going run) schedule.world).2.1 = load.now schedule.world := by
    rw [← houses.clock _ _ given, ← houses.clock _ _ held]
  have turned : ({ schedule with ready := rest } : Schedule W J).turn load runner =
      ({ schedule with ready := rest, world := (load.poll (going run) schedule.world).2.1 } : Schedule W J).leave runner
        (some (going later)) := by
    have nothing : (load.poll (going run) schedule.world).2.2 = [] := by rw [requests, quiet, List.map_nil]
    simp only [turn, found, left, nothing, List.foldl_nil]
  rw [turned]
  refine ⟨secluded.leave ready _ clock _ fun other => absurd rfl other, ?_, given⟩
  unfold dues Schedule.leave
  rw [ready, List.map_cons, List.sum_cons, if_pos rfl]
  dsimp only
  omega

-- What is known as long as somebody waits with nobody at work beside it but motors.
structure Lonely (load : Workload W J) (cell? : W → Option (Cell R)) (motor : Motor R → J) (spares : Drive R → Prop)
    (mover : Option Nat) (runner : Nat) (reached : Schedule W J) : Prop where
  secluded : reached.Secluded load motor spares mover runner
  cell : ∃ cell, cell? reached.world = some cell ∧ cell.Ticking ∧ cell.outbox = []

theorem Secluded.started_still {schedule next : Schedule W J} (secluded : schedule.Secluded load motor spares mover runner)
    (houses : load.Houses cell? motor) (carries : load.Carries cell? motor table fresh going beside)
    (alone : beside schedule.world = []) {step : Step R} {run : Run R} {cell after : Cell R}
    (found : schedule.jobs.lookup runner = some (fresh step)) (head : schedule.ready.head? = some runner)
    (stepped : schedule.step load = some next) (held : cell? schedule.world = some cell)
    (started : step.start (table schedule.world) cell = (.pending run, after)) (still : after.now = cell.now)
    (ticking : after.Ticking) (quiet : after.outbox = []) : next.Lonely load cell? motor spares mover runner := by
  obtain ⟨left, given, requests⟩ := carries.starts step schedule.world cell run after held started still
  obtain ⟨rest, ready⟩ := Trip.ready_of_head head
  obtain rfl := Trip.turned_of_ready ready stepped
  have clock : load.now (load.poll (fresh step) schedule.world).2.1 = load.now schedule.world := by
    rw [← houses.clock _ _ given, ← houses.clock _ _ held]
    exact still
  have turned : ({ schedule with ready := rest } : Schedule W J).turn load runner =
      ({ schedule with ready := rest, world := (load.poll (fresh step) schedule.world).2.1 } : Schedule W J).leave runner
        (some (going run)) := by
    have nothing : (load.poll (fresh step) schedule.world).2.2 = [] := by
      rw [requests, alone, quiet, List.map_nil, List.map_nil, List.nil_append]
    simp only [turn, found, left, nothing, List.foldl_nil]
  rw [turned]
  exact ⟨secluded.leave ready _ clock _ fun other => absurd rfl other, _, given, ⟨ticking.axes, ticking.actuators⟩, rfl⟩

theorem Secluded.started_sent {schedule next : Schedule W J} (secluded : schedule.Secluded load motor spares none runner)
    (houses : load.Houses cell? motor) (carries : load.Carries cell? motor table fresh going beside)
    (alone : beside schedule.world = []) {step : Step R} {run : Run R} {cell after : Cell R}
    (slot : schedule.Slot runner (some (fresh step))) (head : schedule.ready.head? = some runner)
    (stepped : schedule.step load = some next) (held : cell? schedule.world = some cell)
    (started : step.start (table schedule.world) cell = (.pending run, after)) (still : after.now = cell.now)
    (ticking : after.Ticking) (alert : Signal) (way : Effect R) (drive : Drive R)
    (outbox : after.outbox = [.signal alert, way]) (drives : way.request motor = .begin (motor ⟨drive, none⟩)) :
    next.Lonely load cell? motor spares (some schedule.next) runner := by
  obtain ⟨left, given, requests⟩ := carries.starts step schedule.world cell run after held started still
  obtain ⟨rest, ready⟩ := Trip.ready_of_head head
  obtain rfl := Trip.turned_of_ready ready stepped
  have clock : load.now (load.poll (fresh step) schedule.world).2.1 = load.now schedule.world := by
    rw [← houses.clock _ _ given, ← houses.clock _ _ held]
    exact still
  let popped : Schedule W J := { schedule with ready := rest, world := (load.poll (fresh step) schedule.world).2.1 }
  let waits : Schedule W J := popped.leave runner (some (going run))
  let told : Schedule W J := [Request.signal alert].foldl (fun schedule request => schedule.grant load runner request) waits
  have turned : ({ schedule with ready := rest } : Schedule W J).turn load runner =
      told.grant load runner (.begin (motor ⟨drive, none⟩)) := by
    simp only [turn, slot.found, left, requests, alone, outbox, List.map_cons, List.map_nil, drives, List.nil_append,
      List.foldl_cons, List.foldl_nil, told, waits, popped]
    rfl
  have secludedStill : waits.Secluded load motor spares none runner :=
    secluded.leave ready _ clock _ fun other => absurd rfl other
  have rung : Rung runner waits told := secludedStill.signals_ring houses runner [alert]
  have secludedTold := rung.called.secluded secludedStill
  have next : told.next = schedule.next := rung.called.next
  have world : told.world = (load.poll (fresh step) schedule.world).2.1 := rung.called.world
  rw [turned]
  refine ⟨fun entry member other => ?_, { after with outbox := [] }, world.symm ▸ given,
    ⟨ticking.axes, ticking.actuators⟩, rfl⟩
  rcases List.mem_append.mp member with old | last
  · obtain ⟨work, isMotor, known, prompt⟩ := secludedTold entry old other
    have known := known (Option.some_ne_none entry.1).symm
    exact ⟨work, isMotor, fun _ => known, fun timer timed due => List.mem_append_left _ (prompt timer timed due)⟩
  · rw [List.mem_singleton.mp last]
    exact ⟨_, rfl, fun theirs => absurd (congrArg some next).symm theirs, fun timer timed => by cases timed⟩

section

variable (houses : load.Houses cell? motor) (carries : load.Carries cell? motor table fresh going beside)
  (spared : trip.Spared seen spares) (outbox : ∀ cell outbox, seen { cell with outbox := outbox } = seen cell)
  (clocked : ∀ cell now, seen { cell with now := now } = seen cell)
include houses carries spared outbox clocked

theorem Lonely.step {begun reached : Schedule W J} {looks : List (Cell R)} {step : Step R} {key ticks : Nat} {wait : Wait R}
    (history : begun.Awaits load cell? table going seen runner mover looks none reached)
    (waiting : trip.Waiting load cell? motor going seen runner mover (.attempt step 1 (.waiting key wait)) wait.timer ticks
      reached) (lonely : reached.Lonely load cell? motor spares mover runner) :
    (∃ result, begun.Awaits load cell? table going seen runner mover looks (some result) reached) ∨
      ∃ more next, begun.Awaits load cell? table going seen runner mover more none next ∧
        next.Lonely load cell? motor spares mover runner ∧ (load.now reached.world < load.now next.world ∨
          load.now next.world = load.now reached.world ∧ next.dues runner < reached.dues runner) := by
  have attends := attends_of_wait step 1 key wait
  obtain ⟨secluded, cell, held, ticking, quiet⟩ := lonely
  have now := houses.clock reached.world cell held
  have uncut := waiting.uncut cell held
  have there : seen cell = some (trip.stand ticks) := by
    have there := waiting.underway.there
    rwa [held, Option.bind_some] at there
  cases ready : reached.ready with
  | nil =>
      have nobody : reached.ready.head? ≠ some runner := by simp [ready]
      cases resting : reached.resting with
      | nil =>
          have leaf : (⟨key, some wait.timer, .cancelled :: wait.signal?.toList⟩ : Leaf) ∈
              load.leaves (going (.attempt step 1 (.waiting key wait))) := by
            rw [carries.leaves]
            exact List.mem_singleton.mpr rfl
          have prompt : ∀ leaf ∈ load.leaves (going (.attempt step 1 (.waiting key wait))), ∀ timer,
              leaf.timer = some timer → timer.due ≤ load.now reached.world → runner ∈ reached.ready := by
            intro leaf member timer timed passed
            rw [carries.leaves] at member
            rw [List.mem_singleton.mp member] at timed
            cases timed
            exact waiting.woken passed
          obtain ⟨next, due, jumped, world, ahead, still⟩ :=
            secluded.jumped houses waiting.slot _ leaf _ rfl prompt ready
          have given : cell? next.world = some { cell with now := due } := by
            rw [world, carries.elapse, held, Option.map_some]
          have stepped : reached.step load = some next := by
            rw [Schedule.step, ready, resting]
            exact jumped
          have clock : load.now next.world = due := world.symm ▸ houses.elapse due reached.world
          refine Or.inr ⟨looks, next, history.other stepped nobody (Or.inl ?_) (fun after is => ?_) (clock.symm ▸ ahead.le)
            (fun busy => absurd ready busy), ⟨still, _, given, ⟨ticking.axes, ticking.actuators⟩, quiet⟩,
            Or.inl (clock.symm ▸ ahead)⟩
          · rw [given, held, Option.bind_some, Option.bind_some, clocked]
          · cases given.symm.trans is
            exact uncut
      | cons first others =>
          obtain ⟨still, world, less⟩ := secluded.stirred houses (by simp [resting])
          have stepped : reached.step load = some (reached.stir load) := by rw [Schedule.step, ready, resting]
          refine Or.inr ⟨looks, _, history.other stepped nobody (Or.inl (by rw [world])) ?_ (by rw [world])
            (fun busy => absurd ready busy), ⟨still, cell, world.symm ▸ held, ticking, quiet⟩, Or.inr ⟨by rw [world], less⟩⟩
          intro after is
          rw [world] at is
          exact waiting.uncut after is
  | cons number rest =>
      have stepped : reached.step load = some (({ reached with ready := rest } : Schedule W J).turn load number) := by
        rw [Schedule.step, ready]
      by_cases own : number = runner
      · subst own
        have head : reached.ready.head? = some number := by rw [ready, List.head?_cons]
        rcases resumed : (Run.attempt step 1 (.waiting key wait)).resume (table reached.world) cell with ⟨progress, after⟩
        by_cases finished : ∀ later, progress ≠ .pending later
        · exact Or.inl ⟨_, history.ends head waiting.slot.found held resumed finished⟩
        · obtain ⟨later, isPending⟩ := not_forall_not.mp finished
          subst isPending
          obtain ⟨again, issued, -, rfl⟩ := Run.resume_pending _ step 1 key wait cell after later resumed
          obtain ⟨still, less, given⟩ := secluded.own_turn houses carries waiting.slot.found held quiet issued resumed ready
          have clock : load.now (({ reached with ready := rest } : Schedule W J).turn load number).world =
              load.now reached.world := by rw [← houses.clock _ _ given, ← now]
          exact Or.inr ⟨_, _, history.waits stepped head waiting.slot.found held resumed,
            ⟨still, _, given, ⟨ticking.axes, ticking.actuators⟩, rfl⟩, Or.inr ⟨clock, less⟩⟩
      · obtain ⟨still, less, after, keeps, same, seenOr⟩ :=
          secluded.other_turn houses spared outbox held ticking quiet there ready own
        have head : reached.ready.head? = some number := by rw [ready, List.head?_cons]
        have clock : load.now (({ reached with ready := rest } : Schedule W J).turn load number).world =
            load.now reached.world := by
          rw [← houses.clock _ _ keeps.held, ← now, same]
        refine Or.inr ⟨looks, _, history.other stepped ?_ ?_ (fun other is => ?_) clock.ge fun _ => clock,
          ⟨still, after, keeps.held, keeps.ticking, keeps.quiet⟩, Or.inr ⟨clock, less⟩⟩
        · rw [head]
          exact fun same => own (Option.some.inj same)
        · refine seenOr.imp (fun unmoved => ?_) fun moves => ⟨number, moves, head⟩
          rw [keeps.held, held, Option.bind_some, Option.bind_some, unmoved]
        · cases keeps.held.symm.trans is
          exact keeps.uncut.trans uncut

theorem Lonely.ends {begun : Schedule W J} {limit : Nat} {step : Step R}
    (lasting : ∀ looks reached, begun.Awaits load cell? table going seen runner mover looks none reached →
      ∃ key wait ticks, trip.Waiting load cell? motor going seen runner mover (.attempt step 1 (.waiting key wait))
      wait.timer
        ticks reached ∧ wait.timer.due ≤ limit)
    (looks : List (Cell R)) (reached : Schedule W J)
    (history : begun.Awaits load cell? table going seen runner mover looks none reached)
    (lonely : reached.Lonely load cell? motor spares mover runner) :
    ∃ looks result final, begun.Awaits load cell? table going seen runner mover looks (some result) final := by
  obtain ⟨key, wait, ticks, waiting, -⟩ := lasting looks reached history
  rcases lonely.step houses carries spared outbox clocked history waiting with ⟨result, ended⟩ |
    ⟨more, next, on, still, less⟩
  · exact ⟨looks, result, reached, ended⟩
  · obtain ⟨key, wait, ticks, later, within⟩ := lasting more next on
    have bounded := later.limit.trans within
    exact Lonely.ends lasting more next on still
termination_by (limit - load.now reached.world, reached.dues runner)
decreasing_by
  rcases less with less | ⟨same, less⟩
  · exact Prod.Lex.left _ _ (by omega)
  · rw [same]
    exact Prod.Lex.right _ less

end

end Schedule

end Workcell

import Workcell.Proofs.Awaiting.Axes

/-!
Axes that are sent on their way and looked at once a sample tick, until the process value has reached a threshold, the axis
stands still or the bound has passed.

The motor and the looks each keep their own time. A look at the same time as a tick may come before it or after it, so what
is kept of a look is only how many ticks had passed, and when.
-/

set_option autoImplicit false

namespace Workcell

section

variable {R : Type} [Scalar R] {W J D : Type}

theorem Motor.step_sampleTick (cell after : Cell R) (drive : Drive R) (last : Bool)
    (stepped : Motor.step cell drive = some (last, after)) : after.sampleTick = cell.sampleTick := by
  cases drive with
  | axis handle motion =>
      obtain ⟨axis, -, later⟩ := Option.bind_eq_some_iff.mp stepped
      obtain ⟨moved, -, same⟩ := Option.bind_eq_some_iff.mp later
      cases same
      rfl
  | actuator handle stroke began =>
      obtain ⟨actuator, -, later⟩ := Option.bind_eq_some_iff.mp stepped
      obtain ⟨moved, -, same⟩ := Option.bind_eq_some_iff.mp later
      cases same
      rfl

def Cell.timed (seen : Cell R → Option D) (cell : Cell R) : Option (D × Duration) :=
  (seen cell).map fun device => (device, cell.sampleTick)

omit [Scalar R] in
theorem Cell.timed_eq_some {seen : Cell R → Option D} {cell : Cell R} {device : D} {period : Duration} :
    cell.timed seen = some (device, period) ↔ seen cell = some device ∧ cell.sampleTick = period := by
  simp [timed]

def Trip.timed (trip : Trip R D) (period : Duration) : Trip R (D × Duration) :=
  ⟨trip.drive, trip.start, trip.pace, trip.ticks, fun ticks => (trip.stand ticks, period)⟩

theorem Trip.Lawful.timed {trip : Trip R D} {seen : Cell R → Option D} {signal : Signal}
    (lawful : trip.Lawful seen signal) (period : Duration) :
    (trip.timed period).Lawful (Cell.timed seen) signal where
  lasts := lawful.lasts
  own cell issued := by rw [Cell.timed, lawful.own, Cell.timed]
  paced cell ticks there := lawful.paced cell ticks (Cell.timed_eq_some.mp there).1
  goes cell ticks short there now := by
    obtain ⟨stands, ticking⟩ := Cell.timed_eq_some.mp there
    obtain ⟨last, after, stepped, ended, onward, clock, told⟩ := lawful.goes cell ticks short stands now
    exact ⟨last, after, stepped, ended,
      Cell.timed_eq_some.mpr ⟨onward, (Motor.step_sampleTick cell after _ last stepped).trans ticking⟩, clock, told⟩
  differs ticks same := lawful.differs ticks (congrArg Prod.fst same)

theorem Trip.Spared.timed {trip : Trip R D} {seen : Cell R → Option D} {spares : Drive R → Prop}
    (spared : trip.Spared seen spares) (period : Duration) : (trip.timed period).Spared (Cell.timed seen) spares where
  begun := spared.begun
  issued cell issued := by rw [Cell.timed, spared.issued, Cell.timed]
  still cell drive done after ticks spares there stepped := by
    rw [Cell.timed, Cell.timed, spared.still cell drive done after ticks spares (Cell.timed_eq_some.mp there).1 stepped,
      Motor.step_sampleTick cell after drive done stepped]

end

variable {R : Type} [Scalar R] {W J : Type}

structure Probe (R : Type) where
  handle : Nat
  contact : Contact R
  threshold : R
  deadline : Duration
  period : Duration

omit [Scalar R] in
theorem Axis.stop_contact (axis : Axis R) : axis.stop.contact = axis.contact := by
  unfold stop
  split
  · rfl
  · rfl

namespace Probe

def seen (probe : Probe R) : Cell R → Option (Axis R × Duration) := Cell.timed fun cell => cell.axes.get? probe.handle

def wait (probe : Probe R) (timer : Timer) : Wait R := .probe probe.handle probe.threshold probe.deadline timer

def Over (probe : Probe R) (now : Nat) (axis : Axis R) : Prop :=
  probe.threshold ≤ probe.contact.sample axis.state.position ∨ axis.state.moving = false ∨
    probe.deadline ≤ Duration.ofMillis now

omit [Scalar R] in
theorem seen_own (probe : Probe R) (cell : Cell R) (outbox : List (Effect R)) :
    probe.seen { cell with outbox := outbox } = probe.seen cell := rfl

omit [Scalar R] in
theorem seen_traced (probe : Probe R) (cell : Cell R) (traces : Stream Trace) :
    probe.seen { cell with traces := traces } = probe.seen cell := rfl

section

variable {probe : Probe R} {cell : Cell R} {axis : Axis R}

theorem process_of_seen (there : probe.seen cell = some (axis, probe.period)) (model : axis.contact = some probe.contact) :
    cell.process probe.handle = probe.contact.sample axis.state.position := by
  have known : cell.axes.get? probe.handle = some axis := (Cell.timed_eq_some.mp there).1
  rw [Cell.process, known, Option.bind_some, Axis.process?, model]
  rfl

theorem look_over (there : probe.seen cell = some (axis, probe.period)) (model : axis.contact = some probe.contact)
    (isOver : probe.Over cell.now axis) : ∃ after left,
      cell.lookProbe probe.handle probe.threshold probe.deadline = (.value (.number axis.state.position), after) ∧
      probe.seen after = some (left, probe.period) ∧ left.contact = axis.contact ∧
      left.state.position = axis.state.position ∧ left.state.moving = false := by
  obtain ⟨known, ticking⟩ := Cell.timed_eq_some.mp there
  have process := process_of_seen there model
  have position : cell.position probe.handle = .number axis.state.position := by simp only [Cell.position, known]
  have moving : cell.moving probe.handle = axis.state.moving := by simp only [Cell.moving, known]
  have halted : probe.seen (cell.stopAxis probe.handle) = some (axis.stop, probe.period) := by
    refine Cell.timed_eq_some.mpr ⟨Cell.stopped_axis axis known, Eq.trans ?_ ticking⟩
    unfold Cell.stopAxis
    rw [known]
    dsimp only
    unfold Cell.putAxis
    split
    · rfl
    · rfl
  rw [Cell.lookProbe, process, position, moving]
  by_cases reached : probe.threshold ≤ probe.contact.sample axis.state.position
  · rw [if_pos reached]
    exact ⟨_, _, rfl, halted, axis.stop_contact, axis.stop_position, axis.stop_idle⟩
  · rw [if_neg reached]
    cases still : axis.state.moving with
    | false => exact ⟨_, _, rfl, there, rfl, rfl, still⟩
    | true =>
        have late : probe.deadline ≤ cell.instant := (isOver.resolve_left reached).resolve_left (by rw [still]; decide)
        rw [if_neg (by decide), if_pos late]
        exact ⟨_, _, rfl, halted, axis.stop_contact, axis.stop_position, axis.stop_idle⟩

theorem look_waits (there : probe.seen cell = some (axis, probe.period)) (model : axis.contact = some probe.contact)
    (unmet : ¬ probe.Over cell.now axis) :
    cell.lookProbe probe.handle probe.threshold probe.deadline =
      (.waiting (probe.wait ⟨Duration.due cell.now probe.period, cell.issued⟩),
        { cell with issued := cell.issued + 1 }) := by
  obtain ⟨known, ticking⟩ := Cell.timed_eq_some.mp there
  have moving : cell.moving probe.handle = axis.state.moving := by simp only [Cell.moving, known]
  obtain ⟨below, rest⟩ := not_or.mp unmet
  obtain ⟨goes, early⟩ := not_or.mp rest
  have going : axis.state.moving = true := Bool.eq_true_of_not_eq_false goes
  have ahead : ¬ probe.deadline ≤ cell.instant := early
  rw [← ticking, Cell.lookProbe, process_of_seen there model, moving, going, if_neg below, if_neg (by decide), if_neg ahead]
  rfl

end

structure Fits (probe : Probe R) (trip : Trip R (Axis R × Duration)) : Prop where
  model : ∀ ticks, (trip.stand ticks).1.contact = some probe.contact
  period : ∀ ticks, (trip.stand ticks).2 = probe.period
  moves : ∀ ticks, (trip.stand ticks).1.state.moving = decide (ticks < trip.ticks)

theorem Fits.short {probe : Probe R} {trip : Trip R (Axis R × Duration)} (fits : probe.Fits trip) {now ticks : Nat}
    (unmet : ¬ probe.Over now (trip.stand ticks).1) : ticks < trip.ticks := by
  have moves : (trip.stand ticks).1.state.moving = true :=
    Bool.eq_true_of_not_eq_false (not_or.mp (not_or.mp unmet).2).1
  rw [fits.moves] at moves
  exact of_decide_eq_true moves

structure Sampled (probe : Probe R) (trip : Trip R (Axis R × Duration)) (look ticks : Nat) : Prop where
  past : tickAt trip.pace trip.start ticks ≤ look
  short : ticks < trip.ticks
  ahead : look ≤ tickAt trip.pace trip.start (ticks + 1)
  unmet : ¬ probe.Over look (trip.stand ticks).1

-- The looks of a run that has looked in its first turn already: one every sample tick, and none at which the process
-- value had reached the threshold.
structure Looks (probe : Probe R) (since : Nat) (looks : List (Cell R)) : Prop where
  times : looks.map Cell.now = (List.range looks.length).map fun look => tickAt probe.period since (look + 1)
  below : ∀ look ∈ looks, ¬ probe.threshold ≤ look.process probe.handle

structure Lasts (probe : Probe R) (trip : Trip R (Axis R × Duration)) (load : Workload W J) (cell? : W → Option (Cell R))
    (motor : Motor R → J) (going : Run R → J) (runner : Nat) (mover : Option Nat) (step : Step R) (key : Nat) (timer : Timer)
    (since : Nat) (looks : List (Cell R)) (ticks : Nat) (reached : Schedule W J) : Prop where
  waiting : trip.Waiting load cell? motor going probe.seen runner mover (.attempt step 1 (.waiting key (probe.wait timer)))
    timer ticks reached
  due : timer.due = tickAt probe.period since (looks.length + 1)
  kept : probe.Looks since looks
  first : ¬ probe.Over since (trip.stand 0).1
  last : ∃ sampled ≤ ticks, probe.Sampled trip (tickAt probe.period since looks.length) sampled

structure Ends (probe : Probe R) (trip : Trip R (Axis R × Duration)) (since : Nat) (looks : List (Cell R)) (now : Nat)
    (progress : Progress R) (after : Cell R) (ticks : Nat) (axis : Axis R) : Prop where
  seen : probe.seen after = some (axis, probe.period)
  done : progress = .done (.number axis.state.position)
  idle : axis.state.moving = false
  model : axis.contact = some probe.contact
  stands : axis.state.position = (trip.stand ticks).1.state.position
  bounded : ticks ≤ trip.ticks
  past : tickAt trip.pace trip.start ticks ≤ now
  isOver : probe.Over now (trip.stand ticks).1
  kept : probe.Looks since looks
  last : (now = since ∧ looks = [] ∧ ticks = 0) ∨
    now = tickAt probe.period since (looks.length + 1) ∧ ¬ probe.Over since (trip.stand 0).1 ∧
      ∃ sampled ≤ ticks, probe.Sampled trip (tickAt probe.period since looks.length) sampled

variable {probe : Probe R} {trip : Trip R (Axis R × Duration)} {load : Workload W J} {cell? : W → Option (Cell R)}
  {motor : Motor R → J} {table : W → HandlerTable R} {fresh : Step R → J} {going : Run R → J} {beside : W → List J}
  {runner : Nat} {mover : Option Nat} {step : Step R} {since : Nat} {signal : Signal}

theorem Looks.extended {looks : List (Cell R)} {cell : Cell R} (before : probe.Looks since looks)
    (now : cell.now = tickAt probe.period since (looks.length + 1)) (below : ¬ probe.threshold ≤ cell.process probe.handle) :
    probe.Looks since (looks ++ [cell]) where
  times := by
    rw [List.map_append, before.times, List.length_append, List.length_singleton, List.range_succ, List.map_append,
      List.map_singleton, List.map_singleton, now]
  below look member := by
    rcases List.mem_append.mp member with old | new
    · exact before.below look old
    · exact List.mem_singleton.mp new ▸ below

def Comes (probe : Probe R) (trip : Trip R (Axis R × Duration)) (load : Workload W J) (cell? : W → Option (Cell R))
    (motor : Motor R → J) (going : Run R → J) (runner : Nat) (mover : Option Nat) (step : Step R) (since : Nat)
    (looks : List (Cell R)) (result : Option (Progress R × Cell R)) (reached : Schedule W J) : Prop :=
  match result with
  | none => ∃ key timer ticks,
      probe.Lasts trip load cell? motor going runner mover step key timer since looks ticks reached
  | some (progress, after) => ∃ ticks axis, probe.Ends trip since looks (load.now reached.world) progress after ticks axis

theorem comes_of_awaits (lawful : trip.Lawful probe.seen signal) (houses : load.Houses cell? motor)
    (carries : load.Carries cell? motor table fresh going beside) (lasts : probe.period ≠ 0) (fits : probe.Fits trip)
    {begun reached : Schedule W J} {looks : List (Cell R)} {result : Option (Progress R × Cell R)} {key : Nat}
    {timer : Timer} (sets : probe.Lasts trip load cell? motor going runner mover step key timer since [] 0 begun)
    (awaits : begun.Awaits load cell? table going probe.seen runner mover looks result reached) :
    probe.Comes trip load cell? motor going runner mover step since looks result reached := by
  have attends : ∀ key timer, (Run.attempt step 1 (.waiting key (probe.wait timer))).Attends timer [.cancelled] :=
    fun key timer => attends_of_wait step 1 key (probe.wait timer)
  have device : ∀ {ticks : Nat} {reached : Schedule W J} {cell : Cell R},
      (cell? reached.world).bind probe.seen = some (trip.stand ticks) → cell? reached.world = some cell →
      probe.seen cell = some ((trip.stand ticks).1, probe.period) := by
    intro ticks reached cell there held
    rw [held, Option.bind_some] at there
    exact there.trans (congrArg some (Prod.ext rfl (fits.period ticks)))
  induction awaits with
  | begun => exact ⟨key, timer, 0, sets⟩
  | other before stepped theirs alone uncut forward clock ih =>
      obtain ⟨key, timer, ticks, going⟩ := ih
      obtain ⟨sampled, within, last⟩ := going.last
      rcases going.waiting.other lawful houses probe.seen_own carries (attends key timer) stepped theirs alone uncut forward
        clock with ⟨still, -⟩ | ⟨onward, -⟩
      · exact ⟨key, timer, ticks, still, going.due, going.kept, going.first, going.last⟩
      · exact ⟨key, timer, ticks + 1, onward, going.due, going.kept, going.first, sampled, Nat.le_succ_of_le within, last⟩
  | shuffled before same ih =>
      obtain ⟨key, timer, ticks, going⟩ := ih
      exact ⟨key, timer, ticks, going.waiting.shuffled same, going.due, going.kept, going.first, going.last⟩
  | @waits looks reached next run cell later after before stepped own found held resumed ih =>
      obtain ⟨key, timer, ticks, going⟩ := ih
      obtain rfl := carries.single _ _ (Option.some.inj (going.waiting.slot.found.symm.trans found))
      have uncut := going.waiting.uncut cell held
      have now := houses.clock reached.world cell held
      have there := device going.waiting.underway.there held
      rw [(attends key timer).due cell.now]
      by_cases passed : timer.due ≤ cell.now
      · have looked : cell.look (probe.wait timer) = cell.lookProbe probe.handle probe.threshold probe.deadline :=
          if_pos (decide_eq_true passed)
        by_cases isOver : probe.Over cell.now (trip.stand ticks).1
        · obtain ⟨after', left, ends, -⟩ := look_over there (fits.model ticks) isOver
          rw [Run.resume_ended _ step 1 key _ cell after' _ uncut (looked.trans ends)] at resumed
          cases resumed
        · have waits := Run.resume_waits (table reached.world) step 1 key _ _ cell _ uncut
            (looked.trans (look_waits there (fits.model ticks) isOver))
          rw [waits] at resumed
          cases resumed
          have exactly : cell.now = tickAt probe.period since (looks.length + 1) :=
            (Nat.le_antisymm (now ▸ going.waiting.limit) passed).trans going.due
          obtain ⟨still, clock⟩ := going.waiting.again lawful houses probe.seen_own carries stepped own held waits
            (attends key ⟨Duration.due cell.now probe.period, cell.issued⟩) uncut rfl (lawful.own cell _)
            (Duration.due_ahead cell.now probe.period lasts)
          have below : ¬ probe.threshold ≤ cell.process probe.handle := by
            rw [process_of_seen there (fits.model ticks)]
            exact (not_or.mp isOver).1
          have short := fits.short isOver
          rw [if_pos (decide_eq_true passed)]
          refine ⟨key, _, ticks, still, ?_, going.kept.extended exactly below, going.first, ticks, le_refl ticks, ?_⟩
          · rw [exactly, List.length_append, List.length_singleton]
            rfl
          · rw [List.length_append, List.length_singleton, ← exactly]
            exact ⟨now ▸ going.waiting.past, short,
              now ▸ (going.waiting.underway.ahead lawful (houses.shows _ probe.seen_own) short).1, isOver⟩
      · have looked : cell.look (probe.wait timer) = (.waiting (probe.wait timer), cell) :=
          if_neg (by simpa [Cell.reached] using passed)
        have waits := Run.resume_waits (table reached.world) step 1 key _ _ cell cell uncut looked
        rw [waits] at resumed
        cases resumed
        obtain ⟨still, clock⟩ := going.waiting.again lawful houses probe.seen_own carries stepped own held waits
          (attends key timer) uncut rfl rfl (Nat.lt_of_not_le passed)
        rw [if_neg (by simpa using passed)]
        exact ⟨key, timer, ticks, still, going.due, going.kept, going.first, going.last⟩
  | @ends looks reached run cell progress after before own found held resumed finished ih =>
      obtain ⟨key, timer, ticks, going⟩ := ih
      obtain rfl := carries.single _ _ (Option.some.inj (going.waiting.slot.found.symm.trans found))
      have uncut := going.waiting.uncut cell held
      have now := houses.clock reached.world cell held
      have there := device going.waiting.underway.there held
      by_cases passed : timer.due ≤ cell.now
      · have looked : cell.look (probe.wait timer) = cell.lookProbe probe.handle probe.threshold probe.deadline :=
          if_pos (decide_eq_true passed)
        by_cases isOver : probe.Over cell.now (trip.stand ticks).1
        · obtain ⟨after', left, ends, leaves, contact, position, idle⟩ := look_over there (fits.model ticks) isOver
          rw [Run.resume_ended _ step 1 key _ cell after' _ uncut (looked.trans ends)] at resumed
          cases resumed
          have exactly : cell.now = tickAt probe.period since (looks.length + 1) :=
            (Nat.le_antisymm (now ▸ going.waiting.limit) passed).trans going.due
          exact ⟨ticks, left, (probe.seen_traced _ _).trans leaves, by rw [position], idle,
            contact.trans (fits.model ticks), position, going.waiting.underway.bounded, going.waiting.past, now ▸ isOver,
            going.kept, Or.inr ⟨now ▸ exactly, going.first, going.last⟩⟩
        · rw [Run.resume_waits (table reached.world) step 1 key _ _ cell _ uncut
            (looked.trans (look_waits there (fits.model ticks) isOver))] at resumed
          cases resumed
          exact absurd rfl (finished _)
      · have looked : cell.look (probe.wait timer) = (.waiting (probe.wait timer), cell) :=
          if_neg (by simpa [Cell.reached] using passed)
        rw [Run.resume_waits (table reached.world) step 1 key _ _ cell cell uncut looked] at resumed
        cases resumed
        exact absurd rfl (finished _)

def Opens (probe : Probe R) (step : Step R) (table : HandlerTable R) (cell sent : Cell R) : Prop :=
  step.start table cell = match sent.lookProbe probe.handle probe.threshold probe.deadline with
    | (.value value, after) => (.done value, after.trace step .completed 1)
    | (.waiting wait, after) =>
        (.pending (.attempt step 1 (.waiting after.issued wait)), { after with issued := after.issued + 1 })

theorem sent_soft {setting : Setting R W J} {spares : Drive R → Prop} {cell sent : Cell R} {begun : Schedule W J}
    {limit : Nat} {well : List (Cell R) → Nat → Progress R → Axis R × Duration → Prop}
    (takes : setting.Takes runner step cell begun) (opens : probe.Opens step .standard cell sent)
    (lawful : trip.Lawful probe.seen signal) (fits : probe.Fits trip) (lasts : probe.period ≠ 0)
    (still : sent.now = cell.now) (uncut : sent.cancelled = false) (there : probe.seen sent = some (trip.stand 0))
    (start : trip.start = cell.now)
    (goes : 0 < trip.ticks → ∃ alert way, sent.outbox = [.signal alert, way] ∧
      way.request setting.motor = .begin (setting.motor ⟨trip.drive, none⟩))
    (spared : trip.Spared probe.seen spares) (ticking : cell.Ticking → sent.Ticking)
    (within : ∀ look, Duration.ofMillis look < probe.deadline → Duration.due look probe.period ≤ limit)
    (ends : ∀ looks now progress after ticks axis, probe.Ends trip cell.now looks now progress after ticks axis →
      well looks now progress (axis, probe.period)) :
    setting.Soft probe.seen runner none (some (begun.next + (setting.beside begun.world).length)) spares step limit well
      begun := by
  have clock := setting.houses.clock begun.world cell takes.begins.held
  have device : probe.seen sent = some ((trip.stand 0).1, probe.period) :=
    there.trans (congrArg some (Prod.ext rfl (fits.period 0)))
  have isOpen : probe.Opens step (setting.table begun.world) cell sent := takes.standard.symm ▸ opens
  have started_over : probe.Over cell.now (trip.stand 0).1 → ∃ progress after axis,
      step.start (setting.table begun.world) cell = (progress, after) ∧ (∀ later, progress ≠ .pending later) ∧
        probe.Ends trip cell.now [] cell.now progress after 0 axis := by
    intro isOver
    obtain ⟨after, left, looked, leaves, contact, position, idle⟩ := look_over device (fits.model 0) (still.symm ▸ isOver)
    rw [Opens, looked] at isOpen
    refine ⟨_, _, left, isOpen, fun later same => (by cases same), ?_⟩
    exact ⟨(probe.seen_traced _ _).trans leaves, by rw [position], idle, contact.trans (fits.model 0), position,
      Nat.zero_le _, start.le, isOver,
      ⟨rfl, fun look member => absurd member List.not_mem_nil⟩, Or.inl ⟨rfl, rfl, rfl⟩⟩
  let timer : Timer := ⟨Duration.due sent.now probe.period, sent.issued⟩
  have started_waits : ¬ probe.Over cell.now (trip.stand 0).1 → step.start (setting.table begun.world) cell =
      (.pending (.attempt step 1 (.waiting (sent.issued + 1) (probe.wait timer))),
        { sent with issued := sent.issued + 1 + 1 }) := by
    intro unmet
    rw [Opens, look_waits device (fits.model 0) (still.symm ▸ unmet)] at isOpen
    exact isOpen
  have attends := attends_of_wait step 1 (sent.issued + 1) (probe.wait timer)
  have sets : ¬ probe.Over cell.now (trip.stand 0).1 → ∀ next, begun.step setting.load = some next →
      probe.Lasts trip setting.load setting.cell? setting.motor setting.going runner
        (some (begun.next + (setting.beside begun.world).length)) step (sent.issued + 1) timer cell.now [] 0 next := by
    intro unmet next stepped
    have far := fits.short unmet
    obtain ⟨alert, way, outbox, drives⟩ := goes far
    obtain ⟨waiting, -⟩ := Trip.Waiting.of_sent setting.houses probe.seen_own setting.carries alert way takes.begins.slot
      stepped takes.begins.head takes.begins.held (started_waits unmet) attends uncut still
      (Duration.due_ahead sent.now probe.period lasts) outbox drives there start far
    have soon : cell.now ≤ tickAt trip.pace trip.start 1 := start ▸ (tickAt_succ trip.pace lawful.lasts trip.start 0).le
    exact ⟨waiting, congrArg (Duration.due · probe.period) still, ⟨rfl, fun look member => absurd member List.not_mem_nil⟩,
      unmet, 0, le_refl 0, start.le, far, soon, unmet⟩
  have comes : ∀ looks result reached, setting.Performs probe.seen runner
      (some (begun.next + (setting.beside begun.world).length)) step begun looks result reached →
      probe.Comes trip setting.load setting.cell? setting.motor setting.going runner
        (some (begun.next + (setting.beside begun.world).length)) step cell.now looks result reached := by
    intro looks result reached performs
    by_cases isOver : probe.Over cell.now (trip.stand 0).1
    · obtain ⟨progress, after, axis, started, finished, ended⟩ := started_over isOver
      cases performs with
      | atOnce isHeld begins =>
          cases takes.begins.held.symm.trans isHeld
          cases started.symm.trans begins
          exact ⟨0, axis, clock ▸ ended⟩
      | later isHeld begins =>
          cases takes.begins.held.symm.trans isHeld
          cases started.symm.trans begins
          exact absurd rfl (finished _)
    · have started := started_waits isOver
      cases performs with
      | atOnce isHeld begins finished =>
          cases takes.begins.held.symm.trans isHeld
          cases started.symm.trans begins
          exact absurd rfl (finished _)
      | later isHeld begins stepped awaits =>
          cases takes.begins.held.symm.trans isHeld
          cases started.symm.trans begins
          exact comes_of_awaits lawful setting.houses setting.carries lasts fits (sets isOver _ stepped) awaits
  have bounded : ∀ {key timer looks ticks reached}, probe.Lasts trip setting.load setting.cell? setting.motor
    setting.going runner
      (some (begun.next + (setting.beside begun.world).length)) step key timer cell.now looks ticks reached →
      timer.due ≤ limit := by
    intro key timer looks ticks reached going
    obtain ⟨sampled, -, last⟩ := going.last
    rw [going.due]
    exact within _ (Nat.lt_of_not_le (not_or.mp (not_or.mp last.unmet).2).2)
  refine ⟨fun looks reached performs => ?_, fun looks progress after reached performs => ?_, fun alone secluded all => ?_⟩
  · obtain ⟨key, timer, ticks, going⟩ := comes looks none reached performs
    exact ⟨going.waiting.limit.trans (bounded going), going.waiting.goes_on setting.carries (attends_of_wait step 1 key _)⟩
  · obtain ⟨ticks, axis, ended⟩ := comes looks _ reached performs
    exact ⟨_, ended.seen, ends _ _ _ _ _ _ ended⟩
  · by_cases isOver : probe.Over cell.now (trip.stand 0).1
    · obtain ⟨progress, after, axis, started, finished, -⟩ := started_over isOver
      exact ⟨[], _, begun, .atOnce takes.begins.held started finished⟩
    · obtain ⟨next, stepped⟩ := takes.begins.step
      have started := started_waits isOver
      obtain ⟨alert, way, outbox, drives⟩ := goes (fits.short isOver)
      have sentTicking := ticking (all cell takes.begins.held)
      have lonely := secluded.started_sent setting.houses setting.carries alone takes.begins.slot takes.begins.head stepped
        takes.begins.held started still ⟨sentTicking.axes, sentTicking.actuators⟩ alert way trip.drive outbox drives
      rw [alone, List.length_nil, Nat.add_zero] at comes bounded sets ⊢
      have lasting : ∀ looks reached, next.Awaits setting.load setting.cell? setting.table setting.going probe.seen runner
          (some begun.next) looks none reached → ∃ key wait ticks, trip.Waiting setting.load setting.cell? setting.motor
            setting.going probe.seen runner (some begun.next) (.attempt step 1 (.waiting key wait)) wait.timer ticks
            reached ∧
            wait.timer.due ≤ limit := by
        intro looks reached history
        obtain ⟨key, timer, ticks, going⟩ := comes looks none reached (.later takes.begins.held started stepped history)
        exact ⟨key, probe.wait timer, ticks, going.waiting, bounded going⟩
      obtain ⟨looks, result, final, ended⟩ := Schedule.Lonely.ends setting.houses setting.carries spared probe.seen_own
        (fun _ _ => rfl) lasting [] next .begun lonely
      exact ⟨looks, result, final, .later takes.begins.held started stepped ended⟩

end Probe

end Workcell

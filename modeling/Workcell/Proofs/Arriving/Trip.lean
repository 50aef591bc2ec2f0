import Mathlib.Tactic.Ring
import Workcell.Bench
import Workcell.Cell.Devices
import Workcell.Proofs.Schedule.Tracked
import Workcell.Session

/-!
A motor takes a device its way. The scheduler gives the motor a turn at every tick of the device and at no other time,
whatever else it has to do; and as long as nobody else changes the device, it goes one tick further at each of them.
-/

set_option autoImplicit false

namespace Workcell

variable {R : Type} [Scalar R] {W J D : Type}

-- The clock at the ticks of a motor that has been begun at a millisecond.
def tickAt (tick : Duration) (begun : Nat) : (ticks : Nat) → Nat
  | 0 => begun
  | ticks + 1 => Duration.due (tickAt tick begun ticks) tick

theorem tickAt_of_millis (ms begun ticks : Nat) (named : Duration.beyond (begun + ticks * ms) (.ofMillis ms) = false) :
    tickAt (.ofMillis ms) begun (ticks + 1) = begun + (ticks + 1) * ms := by
  have whole : (Duration.ofMillis ms + 999999) / 1000000 = ms := by
    show (ms * 1000000 + 999999) / 1000000 = ms
    omega
  induction ticks with
  | zero =>
      rw [Nat.zero_mul, Nat.add_zero] at named
      rw [tickAt, tickAt, Duration.due, named, if_neg Bool.false_ne_true, whole, Nat.zero_add, Nat.one_mul]
  | succ ticks ih =>
      have less : ticks * ms ≤ (ticks + 1) * ms := Nat.mul_le_mul_right ms (Nat.le_succ ticks)
      have earlier : Duration.beyond (begun + ticks * ms) (.ofMillis ms) = false := by
        refine decide_eq_false fun far => of_decide_eq_false named (far.trans ?_)
        exact Nat.add_le_add_right (Nat.mul_le_mul_right _ (Nat.add_le_add_left less begun)) _
      rw [tickAt, ih earlier, Duration.due, named, if_neg Bool.false_ne_true, whole]
      ring

theorem first_tick (tick : Duration) (begun : Nat) (named : Duration.beyond begun tick = false) :
    begun * 1000000 + tick ≤ tickAt tick begun 1 * 1000000 ∧
      tickAt tick begun 1 * 1000000 < begun * 1000000 + tick + 1000000 := by
  rw [tickAt, tickAt, Duration.due, named, if_neg Bool.false_ne_true]
  omega

theorem tickAt_succ (tick : Duration) (lasts : tick ≠ 0) (begun ticks : Nat) :
    tickAt tick begun ticks < tickAt tick begun (ticks + 1) := Duration.due_ahead _ tick lasts

theorem tickAt_mono (tick : Duration) (lasts : tick ≠ 0) (begun : Nat) : StrictMono (tickAt tick begun) :=
  strictMono_nat_of_lt_succ (tickAt_succ tick lasts begun)

-- Ticks that the clock does not pass over have all come once it is past the last one, or once nothing is left to step.
theorem all_ticked (tick : Duration) (lasts : tick ≠ 0) {begun count total now : Nat} {steps : Bool}
    (bounded : count ≤ total) (ahead : count < total → now ≤ tickAt tick begun (count + 1) ∧ steps = true)
    (passed : tickAt tick begun total < now ∨ steps = false) : count = total := by
  refine Nat.le_antisymm bounded (Nat.le_of_not_lt fun short => ?_)
  obtain ⟨near, going⟩ := ahead short
  rcases passed with past | still
  · have next : tickAt tick begun (count + 1) ≤ tickAt tick begun total := (tickAt_mono tick lasts begun).monotone short
    omega
  · exact Bool.false_ne_true (still.symm.trans going)

structure Workload.Hosts (load : Workload W J) (cell? : W → Option (Cell R)) (motor : Motor R → J) : Prop where
  leaves : ∀ work, load.leaves (motor work) = [⟨0, work.timer, []⟩]
  touch : ∀ key work, load.touch key (motor work) = motor work
  clock : ∀ world cell, cell? world = some cell → cell.now = load.now world
  elapse : ∀ now world, load.now (load.elapse now world) = now
  poll : ∀ work world cell, cell? world = some cell →
    (load.poll (motor work) world).1 = (work.poll cell).1.map motor ∧
      load.now (load.poll (motor work) world).2.1 = load.now world ∧
      ∃ after, cell? (load.poll (motor work) world).2.1 = some after ∧ after.axes = (work.poll cell).2.axes

theorem Motor.poll_now (motor : Motor R) (cell : Cell R) : (motor.poll cell).2.now = cell.now := by
  have stepped : ∀ drive done after, Motor.step cell drive = some (done, after) → after.now = cell.now := by
    intro drive done after stepped
    cases drive with
    | axis handle motion =>
        obtain ⟨axis, -, later⟩ := Option.bind_eq_some_iff.mp stepped
        obtain ⟨moved, -, same⟩ := Option.bind_eq_some_iff.mp later
        cases same
        rfl
    | actuator handle stroke began =>
        obtain ⟨actuator, -, later⟩ := Option.bind_eq_some_iff.mp stepped
        obtain ⟨moved, -, same⟩ := Option.bind_eq_some_iff.mp later
        cases same
        rfl
  unfold Motor.poll
  split
  · split
    · rfl
    · rfl
  · split
    · cases outcome : Motor.step cell motor.drive with
      | none => rfl
      | some result =>
          obtain ⟨done, after⟩ := result
          cases done with
          | true => exact stepped motor.drive true after outcome
          | false => exact stepped motor.drive false after outcome
    · rfl

-- A turn of a motor is a turn on the cell and nothing else, and what the cell then asks for is asked for.
structure Workload.Houses (load : Workload W J) (cell? : W → Option (Cell R)) (motor : Motor R → J) : Prop where
  leaves : ∀ work, load.leaves (motor work) = [⟨0, work.timer, []⟩]
  touch : ∀ key work, load.touch key (motor work) = motor work
  clock : ∀ world cell, cell? world = some cell → cell.now = load.now world
  elapse : ∀ now world, load.now (load.elapse now world) = now
  poll : ∀ work world cell, cell? world = some cell →
    (load.poll (motor work) world).1 = (work.poll cell).1.map motor ∧
      cell? (load.poll (motor work) world).2.1 = some { (work.poll cell).2 with outbox := [] } ∧
      (load.poll (motor work) world).2.2 = (work.poll cell).2.outbox.map (Effect.request motor)

structure Workload.Shows (load : Workload W J) (cell? : W → Option (Cell R)) (motor : Motor R → J)
    (seen : Cell R → Option D) : Prop where
  leaves : ∀ work, load.leaves (motor work) = [⟨0, work.timer, []⟩]
  touch : ∀ key work, load.touch key (motor work) = motor work
  clock : ∀ world cell, cell? world = some cell → cell.now = load.now world
  elapse : ∀ now world, load.now (load.elapse now world) = now
  poll : ∀ work world cell, cell? world = some cell →
    (load.poll (motor work) world).1 = (work.poll cell).1.map motor ∧
      load.now (load.poll (motor work) world).2.1 = load.now world ∧
      (cell? (load.poll (motor work) world).2.1).bind seen = seen (work.poll cell).2

namespace Workload

variable {load : Workload W J} {cell? : W → Option (Cell R)} {motor : Motor R → J}

theorem Houses.hosts (houses : load.Houses cell? motor) : load.Hosts cell? motor where
  leaves := houses.leaves
  touch := houses.touch
  clock := houses.clock
  elapse := houses.elapse
  poll work world cell held := by
    obtain ⟨left, given, -⟩ := houses.poll work world cell held
    refine ⟨left, ?_, _, given, rfl⟩
    rw [← houses.clock _ _ given, ← houses.clock _ _ held]
    exact work.poll_now cell

theorem Hosts.shows (hosts : load.Hosts cell? motor) (handle : Nat) :
    load.Shows cell? motor fun cell => cell.axes.get? handle where
  leaves := hosts.leaves
  touch := hosts.touch
  clock := hosts.clock
  elapse := hosts.elapse
  poll work world cell held := by
    obtain ⟨left, clock, after, given, axes⟩ := hosts.poll work world cell held
    refine ⟨left, clock, ?_⟩
    rw [given, Option.bind_some, axes]

theorem Houses.shows (houses : load.Houses cell? motor) (seen : Cell R → Option D)
    (own : ∀ cell outbox, seen { cell with outbox := outbox } = seen cell) : load.Shows cell? motor seen where
  leaves := houses.leaves
  touch := houses.touch
  clock := houses.clock
  elapse := houses.elapse
  poll work world cell held := by
    obtain ⟨left, given, -⟩ := houses.poll work world cell held
    refine ⟨left, (houses.hosts.poll work world cell held).2.1, ?_⟩
    rw [given, Option.bind_some, own]

end Workload

theorem bench_houses {A : Type} :
    (Bench.workload : Workload (Bench R A) (BenchJob R A)).Houses (fun bench => some bench.cell) .motor where
  leaves _ := rfl
  touch _ _ := rfl
  clock := by
    rintro bench cell ⟨rfl⟩
    rfl
  elapse _ _ := rfl
  poll := by
    rintro work bench cell ⟨rfl⟩
    exact ⟨rfl, rfl, rfl⟩

theorem bench_hosts {A : Type} :
    (Bench.workload : Workload (Bench R A) (BenchJob R A)).Hosts (fun bench => some bench.cell) .motor :=
  bench_houses.hosts

def Session.lent? {A : Type} (run : Nat) (session : Session R A) : Option (Cell R) := session.runs[run]?.map session.lend

omit [Scalar R] in
theorem Session.lent_taken {A : Type} (session : Session R A) {run : Nat} {state : SessionRun R}
    (found : session.runs[run]? = some state) (after : Cell R) (still : after.now = session.now) :
    Session.lent? run (session.take run after) = some { after with outbox := [] } := by
  refine Eq.trans ?_ (congrArg (fun now => some { after with now := now, outbox := [] }) still.symm)
  simp only [Session.lent?, Session.take, Session.note, List.getElem?_modify_eq, found, Option.map_eq_map, Option.map_some]
  rfl

theorem session_houses {A : Type} (run : Nat) :
    (Session.workload : Workload (Session R A) (SessionJob R A)).Houses (Session.lent? run) (.motor run) where
  leaves _ := rfl
  touch _ _ := rfl
  clock := by
    intro session cell lent
    obtain ⟨state, -, rfl⟩ := Option.map_eq_some_iff.mp lent
    rfl
  elapse _ _ := rfl
  poll := by
    intro work session cell lent
    obtain ⟨state, found, rfl⟩ := Option.map_eq_some_iff.mp lent
    have polled : Session.poll (.motor run work) session =
        ((work.poll (session.lend state)).1.map (.motor run), session.take run (work.poll (session.lend state)).2,
          (work.poll (session.lend state)).2.outbox.map (Effect.request (.motor run))) := by
      simp only [Session.poll, Session.within, found]
    show (Session.poll (.motor run work) session).1 = _ ∧
      Session.lent? run (Session.poll (.motor run work) session).2.1 = _ ∧
      (Session.poll (.motor run work) session).2.2 = _
    rw [polled]
    exact ⟨rfl, session.lent_taken found _ (work.poll_now (session.lend state)), rfl⟩

theorem session_hosts {A : Type} (run : Nat) :
    (Session.workload : Workload (Session R A) (SessionJob R A)).Hosts (Session.lent? run) (.motor run) :=
  (session_houses run).hosts

-- What becomes of a schedule while something is changed by nobody but the job of a number, and the clock at the times
-- at which it has been changed.
inductive Schedule.Undisturbed (load : Workload W J) (view : W → Option D) (number : Nat) (begun : Schedule W J) :
    List Nat → Schedule W J → Prop where
  | begun : Undisturbed load view number begun [] begun
  | tick {ticks reached next} (before : Undisturbed load view number begun ticks reached)
      (stepped : reached.step load = some next) (own : reached.ready.head? = some number)
      (moved : view next.world ≠ view reached.world) :
      Undisturbed load view number begun (ticks ++ [load.now reached.world]) next
  | still {ticks reached next} (before : Undisturbed load view number begun ticks reached)
      (stepped : reached.step load = some next) (same : view next.world = view reached.world)
      (clock : reached.ready ≠ [] → load.now next.world = load.now reached.world) :
      Undisturbed load view number begun ticks next

-- A way that a motor takes something in a cell: in so many ticks from the clock at which the motor is begun, and
-- where it stands after each of them.
structure Trip (R D : Type) where
  drive : Drive R
  start : Nat
  pace : Duration
  ticks : Nat
  stand : Nat → D

namespace Trip

def held (trip : Trip R D) : Drive R := Motor.begun trip.start trip.drive

structure Lawful (seen : Cell R → Option D) (signal : Signal) (trip : Trip R D) : Prop where
  lasts : trip.pace ≠ 0
  own : ∀ cell issued, seen { cell with issued := issued } = seen cell
  paced : ∀ cell ticks, seen cell = some (trip.stand ticks) → Motor.tick cell trip.drive = trip.pace
  goes : ∀ cell ticks, ticks < trip.ticks → seen cell = some (trip.stand ticks) →
    cell.now = tickAt trip.pace trip.start (ticks + 1) →
    ∃ last after, Motor.step cell trip.held = some (last, after) ∧ (last = true ↔ trip.ticks = ticks + 1) ∧
      seen after = some (trip.stand (ticks + 1)) ∧ after.now = cell.now ∧ .signal signal ∈ after.outbox
  differs : ∀ ticks, trip.stand (ticks + 1) ≠ trip.stand ticks

inductive Waits (trip : Trip R D) (load : Workload W J) (motor : Motor R → J) (number ticks : Nat)
    (reached : Schedule W J) : Prop where
  | new (first : ticks = 0) (slot : reached.Slot number (some (motor ⟨trip.drive, none⟩)))
      (ready : number ∈ reached.ready) (clock : load.now reached.world = trip.start)
  | held (timer : Timer) (slot : reached.Slot number (some (motor ⟨trip.held, some timer⟩)))
      (due : timer.due = tickAt trip.pace trip.start (ticks + 1)) (ahead : load.now reached.world ≤ timer.due)
      (ready : timer.due ≤ load.now reached.world → number ∈ reached.ready)

-- On the way: so many ticks are behind, and the motor of the number waits for the next one or is gone. Where the way
-- is at its end from the first there may be no motor at all.
structure Underway (trip : Trip R D) (load : Workload W J) (view : W → Option D) (motor : Motor R → J)
    (mover : Option Nat) (ticks : Nat) (reached : Schedule W J) : Prop where
  bounded : ticks ≤ trip.ticks
  there : view reached.world = some (trip.stand ticks)
  pending : ticks < trip.ticks → ∃ number, mover = some number ∧ trip.Waits load motor number ticks reached
  ended : ticks = trip.ticks → ∀ number, mover = some number → reached.Slot number none

variable {trip : Trip R D} {seen : Cell R → Option D} {signal : Signal} {load : Workload W J} {cell? : W → Option (Cell R)}
  {motor : Motor R → J} {number : Nat} {mover : Option Nat}

theorem Lawful.paced_held (lawful : trip.Lawful seen signal) (cell : Cell R) (ticks : Nat)
    (there : seen cell = some (trip.stand ticks)) : Motor.tick cell trip.held = trip.pace := by
  have same : Motor.tick cell trip.held = Motor.tick cell trip.drive := by
    unfold held
    cases trip.drive with
    | axis handle motion => rfl
    | actuator handle stroke began => rfl
  exact same.trans (lawful.paced cell ticks there)

-- The first turn of a motor only looks at the clock.
theorem Lawful.poll_begun (lawful : trip.Lawful seen signal) (cell : Cell R) (ticks : Nat) (now : cell.now = trip.start)
    (there : seen cell = some (trip.stand ticks)) :
    ∃ order, (⟨trip.drive, none⟩ : Motor R).poll cell =
      (some ⟨trip.held, some ⟨Duration.due cell.now trip.pace, order⟩⟩, { cell with issued := cell.issued + 1 }) := by
  refine ⟨cell.issued, ?_⟩
  have ticking : ¬ Motor.tick cell trip.drive = 0 := (lawful.paced cell ticks there).symm ▸ lawful.lasts
  have again : Motor.tick cell (Motor.begun cell.now trip.drive) = trip.pace := now ▸ lawful.paced_held cell ticks there
  simp only [Motor.poll, if_neg ticking, Motor.hold, again, Cell.timer]
  rw [now]
  rfl

-- A motor that has to wait does nothing.
theorem poll_early (drive : Drive R) (timer : Timer) (cell : Cell R) (ahead : ¬ timer.due ≤ cell.now) :
    (⟨drive, some timer⟩ : Motor R).poll cell = (some ⟨drive, some timer⟩, cell) := by
  simp only [Motor.poll, Cell.reached, decide_eq_false ahead, if_neg Bool.false_ne_true]

theorem Lawful.poll_tick (lawful : trip.Lawful seen signal) (cell : Cell R) (ticks : Nat) (short : ticks < trip.ticks)
    (there : seen cell = some (trip.stand ticks)) (now : cell.now = tickAt trip.pace trip.start (ticks + 1))
    (timer : Timer) (passed : timer.due ≤ cell.now) :
    seen ((⟨trip.held, some timer⟩ : Motor R).poll cell).2 = some (trip.stand (ticks + 1)) ∧
      .signal signal ∈ ((⟨trip.held, some timer⟩ : Motor R).poll cell).2.outbox ∧
      (trip.ticks = ticks + 1 → ((⟨trip.held, some timer⟩ : Motor R).poll cell).1 = none) ∧
      (ticks + 1 < trip.ticks → ∃ order, ((⟨trip.held, some timer⟩ : Motor R).poll cell).1 =
        some ⟨trip.held, some ⟨tickAt trip.pace trip.start (ticks + 1 + 1), order⟩⟩) := by
  obtain ⟨last, after, stepped, ends, onward, clock, told⟩ := lawful.goes cell ticks short there now
  unfold Motor.poll
  simp only [Cell.reached, decide_eq_true passed, if_true, stepped]
  cases last with
  | true => exact ⟨onward, told, fun _ => rfl, fun more => absurd (ends.mp rfl) more.ne'⟩
  | false =>
      have going : trip.ticks ≠ ticks + 1 := fun ended => Bool.false_ne_true (ends.mpr ended)
      refine ⟨(lawful.own _ _).trans onward, told, fun ended => absurd ended going, fun _ => ⟨after.issued, ?_⟩⟩
      simp only [Motor.hold, Cell.timer, lawful.paced_held after (ticks + 1) onward, clock, now]
      rfl

theorem firm_motor (shows : load.Shows cell? motor seen) (left : Option (Motor R)) :
    ∀ job, left.map motor = some job → Schedule.Firm load job := by
  intro job same key
  obtain ⟨work, -, rfl⟩ := Option.map_eq_some_iff.mp same
  exact shows.touch key work

theorem motor_turned (shows : load.Shows cell? motor seen) (work : Motor R) (reached : Schedule W J) (rest : List Nat)
    (slot : reached.Slot number (some (motor work))) (cell : Cell R) (held : cell? reached.world = some cell) :
    (({ reached with ready := rest } : Schedule W J).turn load number).Slot number ((work.poll cell).1.map motor) ∧
      load.now (({ reached with ready := rest } : Schedule W J).turn load number).world = load.now reached.world ∧
      (cell? (({ reached with ready := rest } : Schedule W J).turn load number).world).bind seen =
        seen (work.poll cell).2 := by
  obtain ⟨left, clock, given⟩ := shows.poll work reached.world cell held
  have popped : ({ reached with ready := rest } : Schedule W J).Slot number (some (motor work)) :=
    ⟨⟨slot.numbered.nodup, slot.numbered.below⟩, slot.known, slot.found⟩
  obtain ⟨kept, world⟩ := Schedule.own_turn (motor work) popped fun job is =>
    firm_motor shows (work.poll cell).1 job (left.symm.trans is)
  rw [world]
  exact ⟨left ▸ kept, clock, given⟩

theorem ready_of_head {reached : Schedule W J} (own : reached.ready.head? = some number) :
    ∃ rest, reached.ready = number :: rest := by
  cases waiting : reached.ready with
  | nil =>
      rw [waiting] at own
      cases own
  | cons first rest =>
      rw [waiting] at own
      exact ⟨rest, congrArg (· :: rest) (Option.some.inj own)⟩

theorem turned_of_ready {reached next : Schedule W J} {rest : List Nat} (ready : reached.ready = number :: rest)
    (stepped : reached.step load = some next) :
    next = ({ reached with ready := rest } : Schedule W J).turn load number := by
  rw [Schedule.step, ready] at stepped
  exact (Option.some.inj stepped).symm

structure Ticked (trip : Trip R D) (load : Workload W J) (cell? : W → Option (Cell R)) (motor : Motor R → J)
    (signal : Signal) (number ticks : Nat) (reached next : Schedule W J) : Prop where
  short : ticks < trip.ticks
  exactly : load.now reached.world = tickAt trip.pace trip.start (ticks + 1)
  clock : load.now next.world = load.now reached.world
  told : ∃ work cell, reached.Slot number (some (motor work)) ∧ cell? reached.world = some cell ∧
    .signal signal ∈ (work.poll cell).2.outbox

section

variable (lawful : trip.Lawful seen signal) (shows : load.Shows cell? motor seen)
include lawful shows

theorem Underway.tick {ticks : Nat} {reached next : Schedule W J}
    (underway : trip.Underway load (fun world => (cell? world).bind seen) motor (some number) ticks reached)
    (stepped : reached.step load = some next) (own : reached.ready.head? = some number)
    (moved : (cell? next.world).bind seen ≠ (cell? reached.world).bind seen) :
    trip.Underway load (fun world => (cell? world).bind seen) motor (some number) (ticks + 1) next ∧
      trip.Ticked load cell? motor signal number ticks reached next := by
  obtain ⟨rest, ready⟩ := ready_of_head own
  obtain rfl := turned_of_ready ready stepped
  have standing := underway.there
  obtain ⟨cell, held, device⟩ := Option.bind_eq_some_iff.mp standing
  have now := shows.clock reached.world cell held
  rw [standing] at moved
  rcases Nat.lt_or_eq_of_le underway.bounded with short | arrived
  · obtain ⟨_, ⟨rfl⟩, waits⟩ := underway.pending short
    cases waits with
    | new first slot waiting clock =>
        obtain ⟨-, -, given⟩ := motor_turned shows _ reached rest slot cell held
        obtain ⟨order, begun⟩ := lawful.poll_begun cell ticks (now.trans clock) device
        rw [given, begun, lawful.own] at moved
        exact absurd device moved
    | held timer slot due ahead waiting =>
        obtain ⟨kept, clock, given⟩ := motor_turned shows _ reached rest slot cell held
        by_cases passed : timer.due ≤ cell.now
        · have exactly : load.now reached.world = tickAt trip.pace trip.start (ticks + 1) := by omega
          obtain ⟨onward, told, last, more⟩ :=
            lawful.poll_tick cell ticks short device (now.trans exactly) timer passed
          refine ⟨⟨short, given.trans onward, fun going => ⟨_, rfl, ?_⟩, fun arrived => ?_⟩, short, exactly, clock,
            _, cell, slot, held, told⟩
          · obtain ⟨order, left⟩ := more going
            rw [left] at kept
            have later := tickAt_succ trip.pace lawful.lasts trip.start (ticks + 1)
            rw [← exactly] at later
            exact .held _ kept rfl (clock.symm ▸ later.le) fun ended => absurd ended (clock.symm ▸ Nat.not_le_of_lt later)
          · rintro _ ⟨rfl⟩
            rwa [last arrived.symm] at kept
        · rw [given, poll_early _ timer cell passed] at moved
          exact absurd device moved
  · have vacant := underway.ended arrived number rfl
    rw [Schedule.turn] at moved
    simp only [vacant.found] at moved
    exact absurd standing moved

theorem Underway.still {ticks : Nat} {reached next : Schedule W J}
    (underway : trip.Underway load (fun world => (cell? world).bind seen) motor mover ticks reached)
    (stepped : reached.step load = some next)
    (same : (cell? next.world).bind seen = (cell? reached.world).bind seen)
    (clock : reached.ready ≠ [] → load.now next.world = load.now reached.world) :
    trip.Underway load (fun world => (cell? world).bind seen) motor mover ticks next := by
  refine ⟨underway.bounded, same.trans underway.there, fun short => ?_, fun arrived number own =>
    Schedule.step_vacant (underway.ended arrived number own) stepped⟩
  have standing := underway.there
  obtain ⟨cell, held, device⟩ := Option.bind_eq_some_iff.mp standing
  have now := shows.clock reached.world cell held
  obtain ⟨number, own, waits⟩ := underway.pending short
  refine ⟨number, own, ?_⟩
  cases waits with
  | new first slot waiting begun =>
      rcases Schedule.step_tracked _ (fun key => shows.touch key _) slot stepped with ⟨rest, ready, rfl⟩ |
        ⟨-, kept, later, -⟩
      · obtain ⟨left, clock, given⟩ := motor_turned shows _ reached rest slot cell held
        obtain ⟨order, turned⟩ := lawful.poll_begun cell ticks (now.trans begun) device
        rw [turned] at left
        have later := tickAt_succ trip.pace lawful.lasts trip.start 0
        have due : Duration.due cell.now trip.pace = tickAt trip.pace trip.start (ticks + 1) := by
          rw [now, begun, first]
          rfl
        refine .held _ left due ?_ fun ended => ?_
        · rw [clock, now]
          exact (Duration.due_ahead _ _ lawful.lasts).le
        · rw [clock, now] at ended
          exact absurd ended (Nat.not_le_of_lt (Duration.due_ahead _ _ lawful.lasts))
      · exact .new first kept (later waiting) ((clock (List.ne_nil_of_mem waiting)).trans begun)
  | held timer slot due ahead waiting =>
      rcases Schedule.step_tracked _ (fun key => shows.touch key _) slot stepped with
        ⟨rest, ready, rfl⟩ | ⟨-, kept, later, change⟩
      · obtain ⟨left, clock, given⟩ := motor_turned shows _ reached rest slot cell held
        by_cases passed : timer.due ≤ cell.now
        · obtain ⟨onward, -⟩ := lawful.poll_tick cell ticks short device (by omega) timer passed
          rw [given, onward, standing] at same
          exact absurd (Option.some.inj same) (lawful.differs ticks)
        · rw [poll_early _ timer cell passed] at left
          exact .held timer left due (clock.symm ▸ ahead) fun ended => absurd (clock ▸ ended) (now ▸ passed)
      · rcases change with busy | world | ⟨due', world, waits⟩
        · exact .held timer kept due ((clock busy).symm ▸ ahead) fun ended => later (waiting (clock busy ▸ ended))
        · exact .held timer kept due (world.symm ▸ ahead) fun ended => later (waiting (world ▸ ended))
        · obtain ⟨least, woken⟩ := waits ⟨0, some timer, []⟩ (by rw [shows.leaves]; exact List.mem_singleton.mpr rfl)
            timer rfl
          have elapsed : load.now next.world = due' := world.symm ▸ shows.elapse due' reached.world
          exact .held timer kept due (elapsed.symm ▸ least) fun ended => woken (elapsed ▸ ended)

omit lawful in
theorem sets_out (going : 0 < trip.ticks) {before : Schedule W J} (numbered : before.Numbered)
    (clock : trip.start = load.now before.world) (there : (cell? before.world).bind seen = some (trip.stand 0))
    (number : Nat) (later : List (Request J)) :
    trip.Underway load (fun world => (cell? world).bind seen) motor (some before.next) 0
      (later.foldl (fun schedule request => schedule.grant load number request)
        (before.grant load number (.begin (motor ⟨trip.drive, none⟩)))) := by
  obtain ⟨slot, ready⟩ := Schedule.slot_of_begun load numbered number (motor ⟨trip.drive, none⟩)
  have onward := Schedule.grants_onward (firm_motor shows (some ⟨trip.drive, none⟩)) number later slot
  refine ⟨Nat.zero_le _, ?_, fun _ => ⟨_, rfl, .new rfl onward.slot (onward.ready ready) ?_⟩, fun arrived => ?_⟩
  · exact (congrArg (fun world => (cell? world).bind seen) onward.world).trans there
  · exact (congrArg load.now onward.world).trans clock.symm
  · exact absurd arrived going.ne

theorem Underway.ahead {ticks : Nat} {reached : Schedule W J}
    (underway : trip.Underway load (fun world => (cell? world).bind seen) motor mover ticks reached)
    (short : ticks < trip.ticks) :
    load.now reached.world ≤ tickAt trip.pace trip.start (ticks + 1) ∧ (reached.step load).isSome = true := by
  obtain ⟨number, -, waits⟩ := underway.pending short
  cases waits with
  | new first slot ready clock =>
      refine ⟨?_, ?_⟩
      · rw [clock, first]
        exact (tickAt_succ trip.pace lawful.lasts trip.start 0).le
      · obtain ⟨front, rest, same⟩ := List.exists_cons_of_ne_nil (List.ne_nil_of_mem ready)
        rw [Schedule.step, same]
        rfl
  | held timer slot due ahead ready =>
      refine ⟨due ▸ ahead, Schedule.step_of_timed _ slot ⟨0, some timer, []⟩ ?_ timer rfl⟩
      rw [shows.leaves]
      exact List.mem_singleton.mpr rfl

theorem Underway.undisturbed {begun : Schedule W J} {ticks : List Nat} {reached : Schedule W J}
    (sets : trip.Underway load (fun world => (cell? world).bind seen) motor (some number) 0 begun)
    (undisturbed : begun.Undisturbed load (fun world => (cell? world).bind seen) number ticks reached) :
    trip.Underway load (fun world => (cell? world).bind seen) motor (some number) ticks.length reached ∧
      ticks = (List.range ticks.length).map fun earlier => tickAt trip.pace trip.start (earlier + 1) := by
  induction undisturbed with
  | begun => exact ⟨sets, rfl⟩
  | tick before stepped own moved ih =>
      obtain ⟨underway, times⟩ := ih
      obtain ⟨onward, ticked⟩ := underway.tick lawful shows stepped own moved
      rw [List.length_append, List.length_singleton]
      refine ⟨onward, ?_⟩
      rw [List.range_succ, List.map_append, ← times, ticked.exactly]
      rfl
  | still before stepped same clock ih => exact ⟨ih.1.still lawful shows stepped same clock, ih.2⟩

end

end Trip

end Workcell

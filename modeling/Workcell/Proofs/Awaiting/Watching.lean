import Workcell.Proofs.Arriving.Trip
import Workcell.Proofs.Completion.Attended
import Workcell.Run.Resume

/-!
An action that waits while its device goes its way. The job that carries the action out has a turn when its time has come,
and when the device is heard of that it listens to; whatever else goes on does not keep it from that.
-/

set_option autoImplicit false

namespace Workcell

variable {R : Type} [Scalar R] {W J D : Type}

theorem Duration.due_least (now span : Nat) : now ≤ due now span := by
  unfold due
  split
  · exact Nat.le_add_right _ _
  · exact Nat.le_add_right _ _

-- A sort of jobs that carry out steps, from before their first turn on: `fresh` is one that has not had a turn,
-- `going` one that has been suspended. What such a job leaves for the scheduler to do it asks for, after the jobs
-- that it begins in its first turn beside itself.
structure Workload.Carries (load : Workload W J) (cell? : W → Option (Cell R)) (motor : Motor R → J)
    (table : W → HandlerTable R) (fresh : Step R → J) (going : Run R → J) (beside : W → List J) : Prop where
  elapse : ∀ now world, cell? (load.elapse now world) = (cell? world).map fun cell => { cell with now := now }
  leaves : ∀ run, load.leaves (going run) = run.leaves
  touch : ∀ key run, load.touch key (going run) = going (run.touch key)
  single : ∀ first second, going first = going second → first = second
  starts : ∀ step world cell run after, cell? world = some cell → step.start (table world) cell = (.pending run, after) →
    after.now = cell.now →
    (load.poll (fresh step) world).1 = some (going run) ∧
      cell? (load.poll (fresh step) world).2.1 = some { after with outbox := [] } ∧
      (load.poll (fresh step) world).2.2 = (beside world).map .begin ++ after.outbox.map (Effect.request motor)
  goes : ∀ run world cell next after, cell? world = some cell → run.resume (table world) cell = (.pending next, after) →
    after.now = cell.now →
    (load.poll (going run) world).1 = some (going next) ∧
      cell? (load.poll (going run) world).2.1 = some { after with outbox := [] } ∧
      (load.poll (going run) world).2.2 = after.outbox.map (Effect.request motor)

namespace Bench

variable {A : Type}

theorem advance_fresh_waits (bench : Bench R A) (step : Step R) (run : Run R) (after : Cell R)
    (started : step.start bench.handlers bench.cell = (.pending run, after)) :
    bench.advance (.fresh step) = (.error (.running run), bench.withCell after) := by
  have advanced : bench.advance (.fresh step) = ((step.start bench.handlers bench.cell).1.outcome,
      bench.withCell (step.start bench.handlers bench.cell).2) := rfl
  rw [advanced, started]
  rfl

theorem advance_running_waits (bench : Bench R A) (run next : Run R) (after : Cell R)
    (resumed : run.resume bench.handlers bench.cell = (.pending next, after)) :
    bench.advance (.running run) = (.error (.running next), bench.withCell after) := by
  have advanced : bench.advance (.running run) = ((run.resume bench.handlers bench.cell).1.outcome,
      bench.withCell (run.resume bench.handlers bench.cell).2) := rfl
  rw [advanced, resumed]
  rfl

theorem poll_flow_waits (number : Nat) (task next : Task R) (bench after : Bench R A)
    (advanced : bench.advance task = (.error next, after)) :
    poll (.flow number task) bench = (some (.flow number next), after.collect.1, after.collect.2) := by
  unfold poll
  simp only [advanced]

theorem operator_carries (answer : Outcome R → A) (script : List (Instruction R A)) :
    (workload : Workload (Bench R A) (BenchJob R A)).Carries (fun bench => some bench.cell) .motor handlers
      (fun step => .operator .ready (.run step answer :: script))
      (fun run => .operator (.running (.running run) answer) script) (fun _ => []) where
  elapse _ _ := rfl
  leaves _ := rfl
  touch _ _ := rfl
  single := by
    rintro first second ⟨⟩
    rfl
  starts := by
    rintro step bench cell run after ⟨rfl⟩ started -
    have begun := begin_run_waits step answer bench _ _ (bench.advance_fresh_waits step run after started)
    have polled := (poll_ready (.run step answer :: script) bench).trans (follow_waits _ script bench _ _ begun)
    show (poll _ bench).1 = _ ∧ some (poll _ bench).2.1.cell = _ ∧ (poll _ bench).2.2 = _
    rw [polled]
    exact ⟨rfl, rfl, rfl⟩
  goes := by
    rintro run bench cell next after ⟨rfl⟩ resumed -
    have waits : bench.resume (.running (.running run) answer) =
        (.error (.running (.running next) answer), bench.withCell after) := by
      simp only [resume, bench.advance_running_waits run next after resumed]
    have polled := poll_resumed _ _ script bench _ waits
    show (poll _ bench).1 = _ ∧ some (poll _ bench).2.1.cell = _ ∧ (poll _ bench).2.2 = _
    rw [polled]
    exact ⟨rfl, rfl, rfl⟩

theorem flow_carries (number : Nat) :
    (workload : Workload (Bench R A) (BenchJob R A)).Carries (fun bench => some bench.cell) .motor handlers
      (fun step => .flow number (.fresh step)) (fun run => .flow number (.running run)) (fun _ => []) where
  elapse _ _ := rfl
  leaves _ := rfl
  touch _ _ := rfl
  single := by
    rintro first second ⟨⟩
    rfl
  starts := by
    rintro step bench cell run after ⟨rfl⟩ started -
    have polled := poll_flow_waits number _ _ bench _ (bench.advance_fresh_waits step run after started)
    show (poll _ bench).1 = _ ∧ some (poll _ bench).2.1.cell = _ ∧ (poll _ bench).2.2 = _
    rw [polled]
    exact ⟨rfl, rfl, rfl⟩
  goes := by
    rintro run bench cell next after ⟨rfl⟩ resumed -
    have polled := poll_flow_waits number _ _ bench _ (bench.advance_running_waits run next after resumed)
    show (poll _ bench).1 = _ ∧ some (poll _ bench).2.1.cell = _ ∧ (poll _ bench).2.2 = _
    rw [polled]
    exact ⟨rfl, rfl, rfl⟩

end Bench

theorem Session.drive_carries {A : Type} (number : Nat) :
    (Session.workload : Workload (Session R A) (SessionJob R A)).Carries (Session.lent? number) (.motor number)
      Session.handlers (fun step => .drive number (.fresh step)) (fun run => .drive number (.running run))
      (fun session => [.sampling number (Sampler.new session.settings.sampling.epsilon 0).force none]) where
  elapse now session := by
    show (session.runs[number]?.map fun state => { session with now := now }.lend state) = _
    rw [Session.lent?, Option.map_map]
    rfl
  leaves _ := rfl
  touch _ _ := rfl
  single := by
    rintro first second ⟨⟩
    rfl
  starts := by
    intro step session cell run after lent started still
    obtain ⟨state, found, rfl⟩ := Option.map_eq_some_iff.mp lent
    have polled : Session.poll (.drive number (.fresh step)) session = (some (.drive number (.running run)),
        session.take number after,
        [.begin (.sampling number (Sampler.new session.settings.sampling.epsilon 0).force none)] ++
          after.outbox.map (Effect.request (.motor number))) := by
      simp only [Session.poll, Session.within, found, Task.poll, started, Progress.outcome]
    show (Session.poll _ session).1 = _ ∧ Session.lent? number (Session.poll _ session).2.1 = _ ∧
      (Session.poll _ session).2.2 = _
    rw [polled]
    exact ⟨rfl, session.lent_taken found after still, rfl⟩
  goes := by
    intro run session cell next after lent resumed still
    obtain ⟨state, found, rfl⟩ := Option.map_eq_some_iff.mp lent
    have polled : Session.poll (.drive number (.running run)) session = (some (.drive number (.running next)),
        session.take number after, after.outbox.map (Effect.request (.motor number))) := by
      simp only [Session.poll, Session.within, found, Task.poll, resumed, Progress.outcome, List.nil_append]
    show (Session.poll _ session).1 = _ ∧ Session.lent? number (Session.poll _ session).2.1 = _ ∧
      (Session.poll _ session).2.2 = _
    rw [polled]
    exact ⟨rfl, session.lent_taken found after still, rfl⟩

def Run.due (now : Nat) (run : Run R) : Bool :=
  run.leaves.any fun leaf => leaf.timer.any fun timer => decide (timer.due ≤ now)

-- What becomes of a schedule while a run waits and nobody else commands what is seen: only the job of the mover
-- changes it, nobody cancels the run, and nobody turns the clock back. Those who have a turn to come have it in any
-- order. It is noted what the cell was at each turn of the run for which its time had come and that left it waiting;
-- and at the turn that ends the run, what it ends in and the cell then.
inductive Schedule.Awaits (load : Workload W J) (cell? : W → Option (Cell R)) (table : W → HandlerTable R)
    (going : Run R → J) (seen : Cell R → Option D) (runner : Nat) (mover : Option Nat) (begun : Schedule W J) :
    List (Cell R) → Option (Progress R × Cell R) → Schedule W J → Prop where
  | begun : Awaits load cell? table going seen runner mover begun [] none begun
  | other {looks reached next} (before : Awaits load cell? table going seen runner mover begun looks none reached)
      (stepped : reached.step load = some next) (theirs : reached.ready.head? ≠ some runner)
      (alone : (cell? next.world).bind seen = (cell? reached.world).bind seen ∨
        ∃ number, mover = some number ∧ reached.ready.head? = some number)
      (uncut : ∀ cell, cell? next.world = some cell → cell.cancelled = false)
      (forward : load.now reached.world ≤ load.now next.world)
      (clock : reached.ready ≠ [] → load.now next.world = load.now reached.world) :
      Awaits load cell? table going seen runner mover begun looks none next
  | shuffled {looks reached order} (before : Awaits load cell? table going seen runner mover begun looks none reached)
      (same : order.Perm reached.ready) :
      Awaits load cell? table going seen runner mover begun looks none { reached with ready := order }
  | waits {looks reached next run cell later after}
      (before : Awaits load cell? table going seen runner mover begun looks none reached)
      (stepped : reached.step load = some next) (own : reached.ready.head? = some runner)
      (found : reached.jobs.lookup runner = some (going run)) (held : cell? reached.world = some cell)
      (resumed : run.resume (table reached.world) cell = (.pending later, after)) :
      Awaits load cell? table going seen runner mover begun (if run.due cell.now then looks ++ [cell] else looks) none next
  | ends {looks reached run cell progress after}
      (before : Awaits load cell? table going seen runner mover begun looks none reached)
      (own : reached.ready.head? = some runner)
      (found : reached.jobs.lookup runner = some (going run)) (held : cell? reached.world = some cell)
      (resumed : run.resume (table reached.world) cell = (progress, after)) (finished : ∀ later, progress ≠ .pending later) :
      Awaits load cell? table going seen runner mover begun looks (some (progress, after)) reached

-- What becomes of a schedule in which a job has its first turn with a step, and then waits.
inductive Schedule.Performs (load : Workload W J) (cell? : W → Option (Cell R)) (table : W → HandlerTable R)
    (going : Run R → J) (seen : Cell R → Option D) (runner : Nat) (mover : Option Nat) (step : Step R)
    (begun : Schedule W J) : List (Cell R) → Option (Progress R × Cell R) → Schedule W J → Prop where
  | atOnce {cell progress after} (held : cell? begun.world = some cell)
      (started : step.start (table begun.world) cell = (progress, after)) (finished : ∀ later, progress ≠ .pending later) :
      Performs load cell? table going seen runner mover step begun [] (some (progress, after)) begun
  | later {cell run after next looks result reached} (held : cell? begun.world = some cell)
      (started : step.start (table begun.world) cell = (.pending run, after)) (stepped : begun.step load = some next)
      (awaits : next.Awaits load cell? table going seen runner mover looks result reached) :
      Performs load cell? table going seen runner mover step begun looks result reached

structure Schedule.Begins (load : Workload W J) (cell? : W → Option (Cell R)) (fresh : Step R → J) (runner : Nat)
    (step : Step R) (cell : Cell R) (begun : Schedule W J) : Prop where
  slot : begun.Slot runner (some (fresh step))
  head : begun.ready.head? = some runner
  held : cell? begun.world = some cell

omit [Scalar R] in
theorem Schedule.Begins.step {load : Workload W J} {cell? : W → Option (Cell R)} {fresh : Step R → J} {runner : Nat}
    {step : Step R} {cell : Cell R} {begun : Schedule W J} (begins : begun.Begins load cell? fresh runner step cell) :
    ∃ next, begun.step load = some next := by
  obtain ⟨rest, ready⟩ := Trip.ready_of_head begins.head
  exact ⟨_, by rw [Schedule.step, ready]⟩

-- A turn of a suspended action that has not been cancelled is a look at what it waits for.
theorem Run.resume_ended (table : HandlerTable R) (step : Step R) (number key : Nat) (wait : Wait R) (cell after : Cell R)
    (value : Value R) (uncut : cell.cancelled = false) (looked : cell.look wait = (.value value, after)) :
    (Run.attempt step number (.waiting key wait)).resume table cell = (.done value, after.trace step .completed number) := by
  have isLook : (Run.waiting key wait).resume table cell = (.done value, after) := by
    rw [resume, Poll.look, if_neg (by simp [uncut]), looked]
  rw [resume]
  simp only [isLook]
  rfl

theorem Run.resume_waits (table : HandlerTable R) (step : Step R) (number key : Nat) (wait later : Wait R)
    (cell after : Cell R) (uncut : cell.cancelled = false) (looked : cell.look wait = (.waiting later, after)) :
    (Run.attempt step number (.waiting key wait)).resume table cell =
      (.pending (.attempt step number (.waiting key later)), after) := by
  have isLook : (Run.waiting key wait).resume table cell = (.pending (.waiting key later), after) := by
    rw [resume, Poll.look, if_neg (by simp [uncut]), looked]
  rw [resume]
  simp only [isLook]
  rfl

structure Run.Attends (run : Run R) (timer : Timer) (signals : List Signal) : Prop where
  leaves : ∃ key, run.leaves = [⟨key, some timer, signals⟩]
  firm : ∀ key, run.touch key = run

omit [Scalar R] in
theorem attends_of_wait (step : Step R) (number key : Nat) (wait : Wait R) :
    (Run.attempt step number (.waiting key wait)).Attends wait.timer (.cancelled :: wait.signal?.toList) :=
  ⟨⟨key, rfl⟩, fun _ => rfl⟩

omit [Scalar R] in
theorem Run.Attends.due {run : Run R} {timer : Timer} {signals : List Signal} (attends : run.Attends timer signals)
    (now : Nat) :
    run.due now = decide (timer.due ≤ now) := by
  obtain ⟨key, leaves⟩ := attends.leaves
  simp [Run.due, leaves]

namespace Schedule

variable {load : Workload W J} {schedule next : Schedule W J} {number : Nat}

theorem grants_next (number : Nat) (requests : List (Request J)) (schedule : Schedule W J) :
    (requests.foldl (fun schedule request => schedule.grant load number request) schedule).next =
      schedule.next + (Request.begun requests).length := by
  have woken : ∀ (schedule : Schedule W J) other key, (schedule.wake load other key).next = schedule.next := by
    intro schedule other key
    unfold wake
    split
    · rfl
    · rfl
  have delivered : ∀ (places : List Place) (schedule : Schedule W J),
      (places.foldl (fun schedule place => schedule.wake load place.job place.leaf.key) schedule).next = schedule.next := by
    intro places
    induction places with
    | nil => exact fun _ => rfl
    | cons place rest ih => exact fun schedule => (ih _).trans (woken schedule _ _)
  induction requests generalizing schedule with
  | nil => rfl
  | cons request rest ih =>
      refine (ih _).trans ?_
      cases request with
      | begin job =>
          show schedule.next + 1 + _ = schedule.next + ((Request.begun rest).length + 1)
          omega
      | signal signal => exact congrArg (· + (Request.begun rest).length) (delivered _ schedule)
      | again key => exact congrArg (· + (Request.begun rest).length) (woken schedule number key)
      | rest key => rfl

theorem heard (job : J) (firm : Firm load job) (slot : schedule.Slot number (some job)) (other : Nat) (work : J)
    (found : schedule.jobs.lookup other = some work) (differs : number ≠ other) (signal : Signal)
    (sent : .signal signal ∈ (load.poll work schedule.world).2.2) (leaf : Leaf) (member : leaf ∈ load.leaves job)
    (listens : signal ∈ leaf.signals) : number ∈ (schedule.turn load other).ready := by
  have firm? : ∀ held, some job = some held → Firm load held := fun held same => Option.some.inj same ▸ firm
  obtain ⟨first, last, requests⟩ := List.append_of_mem sent
  have polled : ({ schedule with world := (load.poll work schedule.world).2.1 } : Schedule W J).Numbered :=
    ⟨slot.numbered.nodup, slot.numbered.below⟩
  obtain ⟨numbered, same⟩ := leave_numbered polled other (load.poll work schedule.world).1
  have left : (({ schedule with world := (load.poll work schedule.world).2.1 } : Schedule W J).leave other
      (load.poll work schedule.world).1).Slot number (some job) := by
    refine ⟨numbered, same.symm ▸ slot.known, ?_⟩
    rw [leave_lookup other _ (by simp [found]), if_neg differs]
    exact slot.found
  have before := grants_onward firm? other first left
  have delivered := grant_onward firm? before.slot other (.signal signal)
  have later := grants_onward firm? other last delivered.slot
  unfold turn
  simp only [found, requests, List.foldl_append, List.foldl_cons]
  refine later.ready (woken_ready firm? before.slot rfl (fun place : Place => place.job) (fun place => place.leaf.key) _
    ⟨number, leaf⟩ ?_ rfl)
  refine (mem_sortBy _ _ _).mpr (List.mem_filter.mpr
    ⟨place_of_leaf job before.slot.found before.slot.numbered leaf member, ?_⟩)
  simpa using listens

end Schedule

-- A run waits while something is on its way: the clock has not passed the time it waits for, and a job whose time has
-- come has a turn to come.
structure Trip.Waiting (trip : Trip R D) (load : Workload W J) (cell? : W → Option (Cell R)) (motor : Motor R → J)
    (going : Run R → J) (seen : Cell R → Option D) (runner : Nat) (mover : Option Nat) (run : Run R) (timer : Timer)
    (ticks : Nat) (reached : Schedule W J) : Prop where
  underway : trip.Underway load (fun world => (cell? world).bind seen) motor mover ticks reached
  slot : reached.Slot runner (some (going run))
  uncut : ∀ cell, cell? reached.world = some cell → cell.cancelled = false
  past : tickAt trip.pace trip.start ticks ≤ load.now reached.world
  limit : load.now reached.world ≤ timer.due
  woken : timer.due ≤ load.now reached.world → runner ∈ reached.ready

omit [Scalar R] in
theorem Trip.Waiting.shuffled {trip : Trip R D} {load : Workload W J} {cell? : W → Option (Cell R)} {motor : Motor R → J}
    {going : Run R → J} {seen : Cell R → Option D} {runner : Nat} {mover : Option Nat} {run : Run R} {timer : Timer}
    {ticks : Nat} {reached : Schedule W J} {order : List Nat}
    (waiting : trip.Waiting load cell? motor going seen runner mover run timer ticks reached)
    (same : order.Perm reached.ready) :
    trip.Waiting load cell? motor going seen runner mover run timer ticks { reached with ready := order } := by
  have slots : ∀ {number : Nat} {job? : Option J}, reached.Slot number job? →
      ({ reached with ready := order } : Schedule W J).Slot number job? :=
    fun slot => ⟨⟨slot.numbered.nodup, slot.numbered.below⟩, slot.known, slot.found⟩
  have underway := waiting.underway
  refine ⟨⟨underway.bounded, underway.there, fun short => ?_, fun arrived number own =>
    slots (underway.ended arrived number own)⟩, slots waiting.slot, waiting.uncut, waiting.past, waiting.limit,
    fun passed => same.symm.subset (waiting.woken passed)⟩
  obtain ⟨number, own, waits⟩ := underway.pending short
  refine ⟨number, own, ?_⟩
  cases waits with
  | new first slot ready clock => exact .new first (slots slot) (same.symm.subset ready) clock
  | held timer slot due ahead ready => exact .held timer (slots slot) due ahead fun passed => same.symm.subset (ready passed)

namespace Trip.Waiting

variable {trip : Trip R D} {load : Workload W J} {cell? : W → Option (Cell R)} {motor : Motor R → J}
  {table : W → HandlerTable R} {fresh : Step R → J} {going : Run R → J} {beside : W → List J}
  {seen : Cell R → Option D} {signal : Signal}
  {runner : Nat} {mover : Option Nat} {run : Run R} {timer : Timer} {signals : List Signal} {ticks : Nat}
  {reached next : Schedule W J}

theorem firm (carries : load.Carries cell? motor table fresh going beside) (attends : run.Attends timer signals) :
    Schedule.Firm load (going run) := fun key => (carries.touch key run).trans (congrArg going (attends.firm key))

theorem goes_on (carries : load.Carries cell? motor table fresh going beside) (attends : run.Attends timer signals)
    (waiting : trip.Waiting load cell? motor going seen runner mover run timer ticks reached) :
    (reached.step load).isSome = true := by
  obtain ⟨key, leaves⟩ := attends.leaves
  refine Schedule.step_of_timed _ waiting.slot ⟨key, some timer, signals⟩ ?_ timer rfl
  rw [carries.leaves, leaves]
  exact List.mem_singleton.mpr rfl

variable (lawful : trip.Lawful seen signal) (houses : load.Houses cell? motor)
  (own : ∀ cell outbox, seen { cell with outbox := outbox } = seen cell)
  (carries : load.Carries cell? motor table fresh going beside) (attends : run.Attends timer signals)

include lawful houses own carries attends

theorem other (waiting : trip.Waiting load cell? motor going seen runner mover run timer ticks reached)
    (stepped : reached.step load = some next) (theirs : reached.ready.head? ≠ some runner)
    (alone : (cell? next.world).bind seen = (cell? reached.world).bind seen ∨
      ∃ number, mover = some number ∧ reached.ready.head? = some number)
    (uncut : ∀ cell, cell? next.world = some cell → cell.cancelled = false)
    (forward : load.now reached.world ≤ load.now next.world)
    (clock : reached.ready ≠ [] → load.now next.world = load.now reached.world) :
    (trip.Waiting load cell? motor going seen runner mover run timer ticks next ∧
        (runner ∈ reached.ready → runner ∈ next.ready)) ∨
      trip.Waiting load cell? motor going seen runner mover run timer (ticks + 1) next ∧ ticks < trip.ticks ∧
        load.now next.world = tickAt trip.pace trip.start (ticks + 1) ∧ (signal ∈ signals → runner ∈ next.ready) := by
  have shows := houses.shows seen own
  have job := firm carries attends
  obtain ⟨key, leaves⟩ := attends.leaves
  have leaf : (⟨key, some timer, signals⟩ : Leaf) ∈ load.leaves (going run) := by
    rw [carries.leaves, leaves]
    exact List.mem_singleton.mpr rfl
  rcases Schedule.step_tracked _ job waiting.slot stepped with ⟨rest, ready, -⟩ | ⟨-, slot, kept, change⟩
  · rw [ready] at theirs
    exact absurd rfl theirs
  have limit : load.now next.world ≤ timer.due := by
    rcases change with busy | world | ⟨due, world, waits⟩
    · exact (clock busy).symm ▸ waiting.limit
    · exact world.symm ▸ waiting.limit
    · exact world.symm ▸ (houses.elapse due reached.world).symm ▸ (waits _ leaf timer rfl).1
  have woken : timer.due ≤ load.now next.world → runner ∈ next.ready := by
    intro passed
    rcases change with busy | world | ⟨due, world, waits⟩
    · exact kept (waiting.woken (clock busy ▸ passed))
    · exact kept (waiting.woken (world ▸ passed))
    · refine (waits _ leaf timer rfl).2 ?_
      rwa [world, houses.elapse] at passed
  by_cases same : (cell? next.world).bind seen = (cell? reached.world).bind seen
  · have still := waiting.underway.still lawful shows stepped same clock
    exact Or.inl ⟨⟨still, slot, uncut, waiting.past.trans forward, limit, woken⟩, kept⟩
  · obtain ⟨number, rfl, head⟩ := alone.resolve_left same
    obtain ⟨onward, ticked⟩ := waiting.underway.tick lawful shows stepped head same
    have exactly := ticked.clock.trans ticked.exactly
    refine Or.inr ⟨⟨onward, slot, uncut, exactly.ge, limit, woken⟩, ticked.short, exactly, fun listens => ?_⟩
    obtain ⟨rest, ready⟩ := ready_of_head head
    obtain rfl := turned_of_ready ready stepped
    obtain ⟨work, cell, moving, held, told⟩ := ticked.told
    have sent : .signal signal ∈ (load.poll (motor work) reached.world).2.2 := by
      rw [(houses.poll work reached.world cell held).2.2]
      exact List.mem_map_of_mem told
    have differs : runner ≠ number := by
      rintro rfl
      exact theirs head
    have popped : ({ reached with ready := rest } : Schedule W J).Slot runner (some (going run)) :=
      ⟨⟨waiting.slot.numbered.nodup, waiting.slot.numbered.below⟩, waiting.slot.known, waiting.slot.found⟩
    exact Schedule.heard _ job popped number _ moving.found differs signal sent _ leaf listens

omit lawful attends in
theorem of_turn {job : J} {cell after : Cell R} (slot : reached.Slot runner (some job))
    (left : (load.poll job reached.world).1 = some (going run))
    (given : cell? (load.poll job reached.world).2.1 = some { after with outbox := [] })
    (stepped : reached.step load = some next) (head : reached.ready.head? = some runner)
    (held : cell? reached.world = some cell) (attends : run.Attends timer signals) (uncut : after.cancelled = false)
    (still : after.now = cell.now) (ahead : after.now < timer.due)
    (past : tickAt trip.pace trip.start ticks ≤ load.now reached.world)
    (underway : load.now next.world = load.now reached.world → (cell? next.world).bind seen = seen after →
      trip.Underway load (fun world => (cell? world).bind seen) motor mover ticks next) :
    trip.Waiting load cell? motor going seen runner mover run timer ticks next ∧
      load.now next.world = load.now reached.world := by
  obtain ⟨rest, ready⟩ := ready_of_head head
  obtain rfl := turned_of_ready ready stepped
  have now := houses.clock reached.world cell held
  have popped : ({ reached with ready := rest } : Schedule W J).Slot runner (some job) :=
    ⟨⟨slot.numbered.nodup, slot.numbered.below⟩, slot.known, slot.found⟩
  obtain ⟨slot, world⟩ := Schedule.own_turn job popped fun job is =>
    Option.some.inj (left.symm.trans is) ▸ firm carries attends
  have given : cell? (({ reached with ready := rest } : Schedule W J).turn load runner).world =
      some { after with outbox := [] } := world.symm ▸ given
  have clock : load.now (({ reached with ready := rest } : Schedule W J).turn load runner).world =
      load.now reached.world := by
    rw [← houses.clock _ _ given, ← now]
    exact still
  have late : load.now reached.world < timer.due := by
    rw [← now, ← still]
    exact ahead
  have view : (cell? (({ reached with ready := rest } : Schedule W J).turn load runner).world).bind seen = seen after := by
    rw [given, Option.bind_some, own]
  refine ⟨⟨underway clock view, left ▸ slot, ?_, clock.symm ▸ past, clock.symm ▸ late.le, fun passed =>
    absurd passed (clock.symm ▸ Nat.not_le_of_lt late)⟩, clock⟩
  intro held' isHeld
  cases given.symm.trans isHeld
  exact uncut

omit attends in
theorem again {later : Run R} {timer' : Timer} {signals' : List Signal} {cell after : Cell R}
    (waiting : trip.Waiting load cell? motor going seen runner mover run timer ticks reached)
    (stepped : reached.step load = some next) (head : reached.ready.head? = some runner)
    (held : cell? reached.world = some cell) (resumed : run.resume (table reached.world) cell = (.pending later, after))
    (attendsLater : later.Attends timer' signals') (uncut : after.cancelled = false) (still : after.now = cell.now)
    (same : seen after = seen cell) (ahead : after.now < timer'.due) :
    trip.Waiting load cell? motor going seen runner mover later timer' ticks next ∧
      load.now next.world = load.now reached.world := by
  obtain ⟨left, given, -⟩ := carries.goes run reached.world cell later after held resumed still
  refine of_turn houses own carries waiting.slot left given stepped head held attendsLater uncut still ahead waiting.past
    fun clock view => waiting.underway.still lawful (houses.shows seen own) stepped ?_ fun _ => clock
  rw [view, held, Option.bind_some, same]

omit attends in
theorem of_started {step : Step R} {cell after : Cell R}
    (underway : trip.Underway load (fun world => (cell? world).bind seen) motor mover ticks reached)
    (past : tickAt trip.pace trip.start ticks ≤ load.now reached.world)
    (slot : reached.Slot runner (some (fresh step))) (stepped : reached.step load = some next)
    (head : reached.ready.head? = some runner) (held : cell? reached.world = some cell)
    (started : step.start (table reached.world) cell = (.pending run, after)) (attends : run.Attends timer signals)
    (uncut : after.cancelled = false) (still : after.now = cell.now) (same : seen after = seen cell)
    (ahead : after.now < timer.due) :
    trip.Waiting load cell? motor going seen runner mover run timer ticks next ∧
      load.now next.world = load.now reached.world := by
  obtain ⟨left, given, -⟩ := carries.starts step reached.world cell run after held started still
  refine of_turn houses own carries slot left given stepped head held attends uncut still ahead past
    fun clock view => underway.still lawful (houses.shows seen own) stepped ?_ fun _ => clock
  rw [view, held, Option.bind_some, same]

omit lawful attends in
theorem of_sent {step : Step R} {cell after : Cell R} (alert : Signal) (way : Effect R)
    (slot : reached.Slot runner (some (fresh step))) (stepped : reached.step load = some next)
    (head : reached.ready.head? = some runner) (held : cell? reached.world = some cell)
    (started : step.start (table reached.world) cell = (.pending run, after)) (attends : run.Attends timer signals)
    (uncut : after.cancelled = false) (still : after.now = cell.now) (ahead : after.now < timer.due)
    (outbox : after.outbox = [.signal alert, way]) (drives : way.request motor = .begin (motor ⟨trip.drive, none⟩))
    (sent : seen after = some (trip.stand 0)) (start : trip.start = cell.now) (far : 0 < trip.ticks) :
    trip.Waiting load cell? motor going seen runner (some (reached.next + (beside reached.world).length)) run timer 0 next ∧
      load.now next.world = load.now reached.world := by
  obtain ⟨left, given, requests⟩ := carries.starts step reached.world cell run after held started still
  obtain ⟨rest, ready⟩ := ready_of_head head
  have now := houses.clock reached.world cell held
  let turned : Schedule W J :=
    { reached with ready := rest, world := (load.poll (fresh step) reached.world).2.1 }.leave runner (some (going run))
  have popped : Schedule.Numbered { reached with ready := rest, world := (load.poll (fresh step) reached.world).2.1 } :=
    ⟨slot.numbered.nodup, slot.numbered.below⟩
  obtain ⟨numbered, same⟩ := Schedule.leave_numbered popped runner (some (going run))
  have kept : turned.Slot runner (some (going run)) := by
    refine ⟨numbered, same.symm ▸ slot.known, ?_⟩
    rw [Schedule.leave_lookup runner _ (by simp [slot.found]), if_pos rfl]
  have firm? : ∀ job, some (going run) = some job → Schedule.Firm load job := fun job is =>
    Option.some.inj is ▸ firm carries attends
  let earlier : List (Request J) := (beside reached.world).map Request.begin ++ [.signal alert]
  let before := earlier.foldl (fun schedule request => schedule.grant load runner request) turned
  have onward := Schedule.grants_onward firm? runner earlier kept
  have isNext : next = before.grant load runner (.begin (motor ⟨trip.drive, none⟩)) := by
    rw [turned_of_ready ready stepped, Schedule.turn]
    simp only [slot.found, left, requests, outbox, before, earlier, List.map_cons, List.map_nil, drives, List.foldl_append,
      List.foldl_cons, List.foldl_nil]
    rfl
  have number : before.next = reached.next + (beside reached.world).length := by
    refine (Schedule.grants_next runner earlier turned).trans ?_
    have begun : ∀ jobs : List J, Request.begun (jobs.map Request.begin) = jobs := by
      intro jobs
      induction jobs with
      | nil => rfl
      | cons job rest ih => exact congrArg (List.cons job) ih
    rw [Request.begun_append, begun, List.length_append, same]
    rfl
  have world : before.world = (load.poll (fresh step) reached.world).2.1 := onward.world
  refine of_turn houses own carries slot left given stepped head held attends uncut still ahead ?_ fun _ _ => ?_
  · rw [tickAt, start, now]
  · rw [isNext, ← number]
    refine sets_out (houses.shows seen own) far onward.slot.numbered ?_ ?_ runner []
    · rw [world, ← houses.clock _ _ given, start]
      exact still.symm
    · rw [world, given, Option.bind_some, own, sent]

end Trip.Waiting

end Workcell

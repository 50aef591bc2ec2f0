import Mathlib.Algebra.Ring.Nat
import Workcell.Bench
import Workcell.Proofs.Cancellation.Places
import Workcell.Proofs.Completion.Motors

/-!
Runs that end well do end on the bench. The operator waits for the run, and beside it there are only motors, which leave
the scene alone. Each step of the scheduler spends something: budget of the run, time up to the latest of its timers, or
turns that are due.
-/

set_option autoImplicit false

namespace Workcell

variable {R A : Type} [Scalar R]

namespace Bench

def watching (answer : Outcome R → A) (run : Run R) : BenchJob R A := .operator (.running (.running run) answer) []

def Serves (pace : Duration) (run : Run R) (answer : Outcome R → A) (entry : Nat × BenchJob R A) : Prop :=
  if entry.1 = 0 then ∃ keys, entry.2 = watching answer (run.wake keys)
  else ∃ motor : Motor R, entry.2 = .motor motor ∧ motor.Sound pace

variable {pace : Duration} {run : Run R} {answer : Outcome R → A}

omit [Scalar R] in
theorem leaves_touch (key : Nat) (job : BenchJob R A) : leaves (touch key job) = leaves job := by
  cases job with
  | motor motor => rfl
  | flow number task =>
      cases task with
      | fresh step => rfl
      | running run => exact touch_leaves key run
  | canceller ms timer => rfl
  | operator pause script =>
      cases pause with
      | running task answer =>
          cases task with
          | fresh step => rfl
          | running run => exact touch_leaves key run
      | ready => rfl
      | joining number answer => rfl
      | sleeping timer answer => rfl
      | axis handle timer answer => rfl
      | actuator handle timer answer => rfl

omit [Scalar R] in
theorem Serves.touched {entry : Nat × BenchJob R A} (serves : Serves pace run answer entry) (key : Nat) :
    Serves pace run answer (entry.1, touch key entry.2) := by
  obtain ⟨number, job⟩ := entry
  unfold Serves at serves ⊢
  by_cases own : number = 0
  · rw [if_pos own] at serves ⊢
    obtain ⟨keys, rfl⟩ := serves
    refine ⟨keys ++ [key], congrArg (watching answer) ?_⟩
    rw [Run.wake, Run.wake, List.foldl_append]
    rfl
  · rw [if_neg own] at serves ⊢
    obtain ⟨motor, rfl, sound⟩ := serves
    exact ⟨motor, rfl, sound⟩

end Bench

abbrev BenchSchedule (R A : Type) := Schedule (Bench R A) (BenchJob R A)

structure Wakings (before after : BenchSchedule R A) : Prop where
  world : after.world = before.world
  next : after.next = before.next
  resting : after.resting = before.resting
  places : after.places Bench.workload = before.places Bench.workload
  numbers : after.jobs.map Prod.fst = before.jobs.map Prod.fst
  ready : before.ready ⊆ after.ready
  serves : ∀ pace run answer, (∀ entry ∈ before.jobs, Bench.Serves pace run answer entry) →
    ∀ entry ∈ after.jobs, Bench.Serves pace run answer entry

namespace Wakings

theorem refl (schedule : BenchSchedule R A) : Wakings schedule schedule :=
  ⟨rfl, rfl, rfl, rfl, rfl, fun _ member => member, fun _ _ _ serves => serves⟩

theorem trans {first second third : BenchSchedule R A} (before : Wakings first second) (after : Wakings second third) :
    Wakings first third :=
  ⟨after.world.trans before.world, after.next.trans before.next, after.resting.trans before.resting,
    after.places.trans before.places, after.numbers.trans before.numbers,
    fun _ member => after.ready (before.ready member), fun pace run answer serves => after.serves pace run answer
      (before.serves pace run answer serves)⟩

theorem wake (schedule : BenchSchedule R A) (number key : Nat) :
    Wakings schedule (schedule.wake Bench.workload number key) := by
  unfold Schedule.wake
  split
  · refine ⟨rfl, rfl, rfl, ?_, ?_, ?_, ?_⟩
    · unfold Schedule.places
      rw [List.flatMap_map]
      refine List.flatMap_congr fun entry _ => ?_
      by_cases same : entry.1 = number
      · rw [if_pos same]
        exact congrArg (List.map _) (Bench.leaves_touch key entry.2)
      · rw [if_neg same]
    · rw [List.map_map]
      refine List.map_congr_left fun entry _ => ?_
      rw [Function.comp]
      split
      · rfl
      · rfl
    · exact fun other member => (mem_enqueue _ _ other).mpr (Or.inl member)
    · intro pace run answer serves entry member
      obtain ⟨old, there, rfl⟩ := List.mem_map.mp member
      by_cases same : old.1 = number
      · rw [if_pos same]
        exact (serves old there).touched key
      · rw [if_neg same]
        exact serves old there
  · exact refl schedule

theorem fold {E : Type} (job key : E → Nat) (items : List E) (schedule : BenchSchedule R A) :
    Wakings schedule (items.foldl (fun schedule item => schedule.wake Bench.workload (job item) (key item)) schedule) := by
  induction items generalizing schedule with
  | nil => exact refl schedule
  | cons item rest ih => exact (wake schedule (job item) (key item)).trans (ih _)

-- Whoever is woken has a turn to come.
theorem fold_ready {E : Type} (job key : E → Nat) (items : List E) (schedule : BenchSchedule R A) (item : E)
    (member : item ∈ items) (there : job item ∈ schedule.jobs.map Prod.fst) :
    job item ∈ (items.foldl (fun schedule item => schedule.wake Bench.workload (job item) (key item)) schedule).ready := by
  induction items generalizing schedule with
  | nil => cases member
  | cons first rest ih =>
      have once := wake schedule (job first) (key first)
      rcases List.mem_cons.mp member with rfl | later
      · refine (fold job key rest _).ready ?_
        have known : schedule.jobs.any (fun entry => entry.1 == job item) = true := by
          obtain ⟨entry, inside, same⟩ := List.mem_map.mp there
          exact List.any_eq_true.mpr ⟨entry, inside, by simpa using same⟩
        show job item ∈ (schedule.wake Bench.workload (job item) (key item)).ready
        rw [Schedule.wake, if_pos known]
        exact (mem_enqueue _ _ _).mpr (Or.inr (List.mem_singleton.mpr rfl))
      · exact ih _ later (once.numbers.symm ▸ there)

end Wakings

def Request.Fits : Request (BenchJob R A) → Prop
  | .begin job => ∃ motor : Motor R, job = .motor motor ∧ motor.timer = none
  | _ => True

theorem Effect.request_fits (effect : Effect R) : (effect.request (.motor : Motor R → BenchJob R A)).Fits := by
  cases effect with
  | motion handle motion => exact ⟨_, rfl, rfl⟩
  | stroke handle stroke => exact ⟨_, rfl, rfl⟩
  | signal signal => trivial
  | again key => trivial
  | rest key => trivial

namespace Schedule

def Prompt (schedule : BenchSchedule R A) : Prop :=
  ∀ place ∈ schedule.places Bench.workload, ∀ timer, place.leaf.timer = some timer →
    timer.due ≤ schedule.world.cell.now → place.job ∈ schedule.ready

structure Manned (pace : Duration) (run : Run R) (answer : Outcome R → A) (schedule : BenchSchedule R A) : Prop where
  serves : ∀ entry ∈ schedule.jobs, Bench.Serves pace run answer entry
  present : 0 ∈ schedule.jobs.map Prod.fst
  next : schedule.next ≠ 0
  prompt : schedule.Prompt

-- The turns that are due, those of motors and of resting places counted for what they may wake.
def turns (schedule : BenchSchedule R A) : Nat :=
  (schedule.ready.map fun number => if number = 0 then 1 else 2).sum + 3 * schedule.resting.length

variable {pace : Duration} {run : Run R} {answer : Outcome R → A} {schedule next : BenchSchedule R A}

theorem Prompt.waked (prompt : schedule.Prompt) (wakings : Wakings schedule next) : next.Prompt := by
  intro place member timer timed due
  rw [wakings.places] at member
  rw [wakings.world] at due
  exact wakings.ready (prompt place member timer timed due)

theorem Manned.waked (manned : schedule.Manned pace run answer) (wakings : Wakings schedule next) :
    next.Manned pace run answer :=
  ⟨wakings.serves pace run answer manned.serves, wakings.numbers.symm ▸ manned.present, wakings.next.symm ▸ manned.next,
    manned.prompt.waked wakings⟩

theorem wake_turns (number key : Nat) (schedule : BenchSchedule R A) :
    (schedule.wake Bench.workload number key).turns ≤ schedule.turns + 2 := by
  unfold wake
  split
  · unfold turns enqueue
    rw [List.foldl_cons, List.foldl_nil]
    split
    · exact Nat.le_add_right _ _
    · rw [List.map_append, List.sum_append]
      simp only [List.map_cons, List.map_nil, List.sum_cons, List.sum_nil]
      split
      · omega
      · omega
  · exact Nat.le_add_right _ _

def Roused (before after : BenchSchedule R A) : Prop :=
  after.resting = before.resting ∧
    (after.ready = before.ready ∨ 0 ∉ before.ready ∧ after.ready = before.ready ++ [0])

omit [Scalar R] in
theorem Roused.trans {first second third : BenchSchedule R A} (before : Roused first second)
    (after : Roused second third) : Roused first third := by
  obtain ⟨resting, ready⟩ := before
  obtain ⟨restingAfter, readyAfter⟩ := after
  refine ⟨restingAfter.trans resting, ?_⟩
  rcases ready with same | ⟨absent, added⟩
  · rwa [same] at readyAfter
  · rcases readyAfter with same | ⟨absentAfter, -⟩
    · exact Or.inr ⟨absent, same.trans added⟩
    · exact absurd (added ▸ List.mem_append_right _ (List.mem_singleton.mpr rfl)) absentAfter

omit [Scalar R] in
theorem Roused.turns {before after : BenchSchedule R A} (roused : Roused before after) :
    after.turns ≤ before.turns + 1 := by
  obtain ⟨resting, ready⟩ := roused
  unfold Schedule.turns
  rw [resting]
  rcases ready with same | ⟨-, added⟩
  · rw [same]
    exact Nat.le_add_right _ _
  · rw [added, List.map_append, List.sum_append]
    simp only [List.map_cons, List.map_nil, List.sum_cons, List.sum_nil, if_true]
    omega

theorem wake_roused (schedule : BenchSchedule R A) (key : Nat) :
    Roused schedule (schedule.wake Bench.workload 0 key) := by
  unfold wake
  split
  · unfold enqueue
    rw [List.foldl_cons, List.foldl_nil]
    refine ⟨rfl, ?_⟩
    by_cases there : schedule.ready.contains 0 = true
    · exact Or.inl (if_pos there)
    · exact Or.inr ⟨by simpa using there, if_neg there⟩
  · exact ⟨rfl, Or.inl rfl⟩

theorem fold_roused {E : Type} (job key : E → Nat) (items : List E) (own : ∀ item ∈ items, job item = 0)
    (schedule : BenchSchedule R A) :
    Roused schedule (items.foldl (fun schedule item => schedule.wake Bench.workload (job item) (key item)) schedule) := by
  induction items generalizing schedule with
  | nil => exact ⟨rfl, Or.inl rfl⟩
  | cons item rest ih =>
      rw [List.foldl_cons, own item List.mem_cons_self]
      exact (wake_roused schedule (key item)).trans (ih (fun other member => own other (List.mem_cons_of_mem _ member)) _)

-- Motors listen to nobody.
theorem listener_is_operator (serves : ∀ entry ∈ schedule.jobs, Bench.Serves pace run answer entry) (signal : Signal)
    (place : Place) (member : place ∈ schedule.places Bench.workload) (listens : place.leaf.signals.contains signal = true) :
    place.job = 0 := by
  obtain ⟨entry, there, inside⟩ := List.mem_flatMap.mp member
  obtain ⟨leaf, here, rfl⟩ := List.mem_map.mp inside
  have own := serves entry there
  unfold Bench.Serves at own
  by_cases first : entry.1 = 0
  · exact first
  · rw [if_neg first] at own
    obtain ⟨motor, same, -⟩ := own
    have known : leaf ∈ Bench.leaves entry.2 := here
    rw [same] at known
    rw [List.mem_singleton.mp known] at listens
    cases listens

theorem signals_roused (serves : ∀ entry ∈ schedule.jobs, Bench.Serves pace run answer entry) (number : Nat)
    (signals : List Signal) :
    Wakings schedule ((signals.map Request.signal).foldl
      (fun schedule request => schedule.grant Bench.workload number request) schedule) ∧
    Roused schedule ((signals.map Request.signal).foldl
      (fun schedule request => schedule.grant Bench.workload number request) schedule) := by
  induction signals generalizing schedule with
  | nil => exact ⟨.refl schedule, rfl, Or.inl rfl⟩
  | cons signal rest ih =>
      have wakings : Wakings schedule (schedule.deliver Bench.workload signal) := Wakings.fold _ _ _ schedule
      have roused : Roused schedule (schedule.deliver Bench.workload signal) := by
        refine fold_roused _ _ _ (fun place member => ?_) schedule
        obtain ⟨inside, listens⟩ := List.mem_filter.mp ((mem_sortBy _ place _).mp member)
        exact listener_is_operator serves signal place inside listens
      obtain ⟨wakingsAll, rousedAll⟩ := ih (wakings.serves pace run answer serves)
      exact ⟨wakings.trans wakingsAll, roused.trans rousedAll⟩

theorem Manned.grant (manned : schedule.Manned pace run answer) (number : Nat) (request : Request (BenchJob R A))
    (fits : request.Fits) : (schedule.grant Bench.workload number request).Manned pace run answer := by
  cases request with
  | signal signal => exact manned.waked (Wakings.fold _ _ _ schedule)
  | again key => exact manned.waked (Wakings.wake schedule number key)
  | rest key => exact ⟨manned.serves, manned.present, manned.next, manned.prompt⟩
  | begin job =>
      obtain ⟨motor, rfl, new⟩ := fits
      refine ⟨?_, ?_, Nat.succ_ne_zero _, ?_⟩
      · intro entry member
        rcases List.mem_append.mp member with old | last
        · exact manned.serves entry old
        · rw [List.mem_singleton.mp last, Bench.Serves, if_neg manned.next]
          exact ⟨motor, rfl, fun held => absurd new held⟩
      · exact (List.map_append ▸ List.mem_append_left _ manned.present :)
      · intro place member timer timed due
        obtain ⟨entry, there, inside⟩ := List.mem_flatMap.mp member
        rcases List.mem_append.mp there with old | last
        · exact List.mem_append_left _
            (manned.prompt place (List.mem_flatMap.mpr ⟨entry, old, inside⟩) timer timed due)
        · obtain ⟨leaf, here, rfl⟩ := List.mem_map.mp inside
          rw [List.mem_singleton.mp last] at here
          have known : leaf = ⟨0, motor.timer, []⟩ := List.mem_singleton.mp here
          rw [known, new] at timed
          cases timed

theorem Manned.grants (manned : schedule.Manned pace run answer) (number : Nat) (effects : List (Effect R)) :
    ((effects.map (Effect.request .motor)).foldl (fun schedule request => schedule.grant Bench.workload number request)
      schedule).Manned pace run answer := by
  induction effects generalizing schedule with
  | nil => exact manned
  | cons effect rest ih => exact ih (manned.grant number _ effect.request_fits)

-- After a turn of a job the others are as they were, and what is left of it waits for a time that is still to come.
theorem Manned.leave (number : Nat) (left : Option (BenchJob R A)) (rest : List Nat) (world : Bench R A)
    (manned : schedule.Manned pace run answer) (next : Run R) (ready : schedule.ready = number :: rest)
    (now : world.cell.now = schedule.world.cell.now)
    (others : ∀ entry ∈ schedule.jobs, entry.1 ≠ number → Bench.Serves pace next answer entry)
    (own : ∀ job, left = some job → Bench.Serves pace next answer (number, job) ∧
      ∀ leaf ∈ Bench.leaves job, ∀ timer, leaf.timer = some timer → world.cell.now < timer.due)
    (stays : number = 0 → left.isSome = true) :
    (({ schedule with ready := rest, world := world } : BenchSchedule R A).leave number left).Manned pace next answer := by
  have later : ∀ entry ∈ schedule.jobs, entry.1 ≠ number → ∀ leaf ∈ Bench.leaves entry.2, ∀ timer,
      leaf.timer = some timer → timer.due ≤ world.cell.now → entry.1 ∈ rest := by
    intro entry there other leaf here timer timed due
    rw [now] at due
    have waits := manned.prompt ⟨entry.1, leaf⟩
      (List.mem_flatMap.mpr ⟨entry, there, List.mem_map_of_mem here⟩) timer timed due
    rw [ready] at waits
    exact (List.mem_cons.mp waits).resolve_left other
  cases left with
  | some job =>
      obtain ⟨serves, ahead⟩ := own job rfl
      refine ⟨?_, ?_, manned.next, ?_⟩
      · intro entry member
        obtain ⟨old, there, rfl⟩ := List.mem_map.mp member
        by_cases same : old.1 = number
        · rw [if_pos same]
          exact serves
        · rw [if_neg same]
          exact others old there same
      · have numbers : (schedule.jobs.map fun entry => if entry.1 = number then (number, job) else entry).map Prod.fst =
            schedule.jobs.map Prod.fst := by
          rw [List.map_map]
          refine List.map_congr_left fun entry _ => ?_
          rw [Function.comp]
          split
          · exact Eq.symm ‹_›
          · rfl
        exact numbers.symm ▸ manned.present
      · intro place member timer timed due
        obtain ⟨entry, there, inside⟩ := List.mem_flatMap.mp member
        obtain ⟨leaf, here, rfl⟩ := List.mem_map.mp inside
        obtain ⟨old, before, rfl⟩ := List.mem_map.mp there
        by_cases same : old.1 = number
        · rw [if_pos same] at here
          exact absurd due (Nat.not_le_of_lt (ahead leaf here timer timed))
        · rw [if_neg same] at here ⊢
          exact later old before same leaf here timer timed due
  | none =>
      have kept : ∀ entry ∈ schedule.jobs.filter (fun entry => !(entry.1 == number)),
          entry ∈ schedule.jobs ∧ entry.1 ≠ number := by
        intro entry member
        obtain ⟨inside, other⟩ := List.mem_filter.mp member
        exact ⟨inside, by simpa using other⟩
      refine ⟨fun entry member => others entry (kept entry member).1 (kept entry member).2, ?_, manned.next, ?_⟩
      · obtain ⟨entry, inside, first⟩ := List.mem_map.mp manned.present
        refine List.mem_map.mpr ⟨entry, List.mem_filter.mpr ⟨inside, ?_⟩, first⟩
        have differs : number ≠ 0 := fun same => by cases stays same
        simpa [first] using Ne.symm differs
      · intro place member timer timed due
        obtain ⟨entry, there, inside⟩ := List.mem_flatMap.mp member
        obtain ⟨leaf, here, rfl⟩ := List.mem_map.mp inside
        obtain ⟨before, other⟩ := kept entry there
        exact later entry before other leaf here timer timed due

end Schedule

namespace Bench

theorem poll_motor (motor : Motor R) (bench : Bench R A) :
    poll (.motor motor) bench = ((motor.poll bench.cell).1.map .motor,
      bench.withCell { (motor.poll bench.cell).2 with outbox := [] },
      (motor.poll bench.cell).2.outbox.map (Effect.request .motor)) := rfl

theorem poll_resumed (pause other : Pause R A) (script : List (Instruction R A)) (bench after : Bench R A)
    (resumed : bench.resume pause = (.error other, after)) :
    poll (.operator pause script) bench = (some (.operator other script), after.withCell { after.cell with outbox := [] },
      after.cell.outbox.map (Effect.request .motor)) := by
  unfold poll
  simp only [resumed]
  rfl

theorem poll_answered (pause : Pause R A) (script : List (Instruction R A)) (bench after : Bench R A) (answer : A)
    (resumed : bench.resume pause = (.ok (some answer), after)) :
    poll (.operator pause script) bench = follow script (after.note answer) := by
  unfold poll
  simp only [resumed]

theorem begin_run_ended (step : Step R) (answer : Outcome R → A) (bench after : Bench R A) (outcome : Outcome R)
    (advanced : bench.advance (.fresh step) = (.ok outcome, after)) :
    bench.begin (.run step answer) = (some (.ok (answer outcome), []), after) := by
  unfold Bench.begin
  simp only [advanced]

theorem begin_run_waits (step : Step R) (answer : Outcome R → A) (bench after : Bench R A) (task : Task R)
    (advanced : bench.advance (.fresh step) = (.error task, after)) :
    bench.begin (.run step answer) = (some (.error (.running task answer), []), after) := by
  unfold Bench.begin
  simp only [advanced]

theorem follow_answered (instruction : Instruction R A) (rest : List (Instruction R A)) (bench after : Bench R A)
    (answer : A) (begun : bench.begin instruction = (some (.ok answer, []), after)) :
    follow (instruction :: rest) bench = ((follow rest (after.note answer).collect.1).1,
      (follow rest (after.note answer).collect.1).2.1,
      (after.note answer).collect.2 ++ (follow rest (after.note answer).collect.1).2.2) := by
  rw [follow, begun]
  simp only [List.map_nil, List.append_nil]

theorem follow_waits (instruction : Instruction R A) (rest : List (Instruction R A)) (bench after : Bench R A)
    (pause : Pause R A) (begun : bench.begin instruction = (some (.error pause, []), after)) :
    follow (instruction :: rest) bench = (some (.operator pause rest), after.collect.1, after.collect.2) := by
  rw [follow, begun]
  simp only [List.map_nil, List.append_nil]

theorem poll_ready (script : List (Instruction R A)) (bench : Bench R A) :
    poll (.operator .ready script) bench = follow script bench := by
  unfold poll
  simp only [resume]

theorem poll_watching (answer : Outcome R → A) (bench : Bench R A) (run : Run R) (progress : Progress R) (cell : Cell R)
    (polled : run.resume bench.handlers bench.cell = (progress, cell)) :
    poll (watching answer run) bench = match progress.outcome with
      | .ok outcome => follow [] ((bench.withCell cell).note (answer outcome))
      | .error task =>
          (some (.operator (.running task answer) []), bench.withCell { cell with outbox := [] },
            cell.outbox.map (Effect.request .motor)) := by
  have advanced : bench.advance (.running run) = (progress.outcome, bench.withCell cell) := by
    simp only [advance, Task.poll, polled]
  cases isOutcome : progress.outcome with
  | ok outcome =>
      refine poll_answered _ [] bench (bench.withCell cell) (answer outcome) ?_
      simp only [resume, advanced, isOutcome]
  | error task =>
      refine poll_resumed _ (.running task answer) [] bench (bench.withCell cell) ?_
      simp only [resume, advanced, isOutcome]

structure Waits (pace : Duration) (handlers : HandlerTable R) (post : Scene R → Prop) (budget : Nat) (run : Run R)
    (bench : Bench R A) : Prop where
  quiet : bench.cell.outbox = []
  ready : bench.cell.scene.Ready pace
  table : bench.handlers = handlers
  unfinished : bench.finished = false
  unbroken : bench.broken = false
  unlogged : bench.log = #[]
  begun : run.leaves ≠ []
  timed : ∀ leaf ∈ run.leaves, ∃ timer, leaf.timer = some timer
  goes : run.GoesOn handlers (fun scene => scene.Ready pace) post budget bench.cell.scene

structure Served (post : Scene R → Prop) (answer : Outcome R → A) (bench : Bench R A) : Prop where
  finished : bench.finished = true
  unbroken : bench.broken = false
  answered : ∃ value, bench.log.toList.map Prod.fst = [answer (.value value)]
  left : post bench.cell.scene

end Bench

namespace Schedule

variable {pace : Duration} {handlers : HandlerTable R} {post : Scene R → Prop} {budget : Nat} {run : Run R}
  {answer : Outcome R → A} {schedule : BenchSchedule R A}

structure Attended (pace : Duration) (handlers : HandlerTable R) (post : Scene R → Prop) (answer : Outcome R → A)
    (budget : Nat) (run : Run R) (schedule : BenchSchedule R A) : Prop where
  manned : schedule.Manned pace run answer
  waits : schedule.world.Waits pace handlers post budget run

theorem turn_of_poll {number : Nat} (rest : List Nat) {job : BenchJob R A} {left : Option (BenchJob R A)}
    {world : Bench R A} {requests : List (Request (BenchJob R A))} (found : schedule.jobs.lookup number = some job)
    (polled : Bench.poll job schedule.world = (left, world, requests)) :
    ({ schedule with ready := rest } : BenchSchedule R A).turn Bench.workload number =
      requests.foldl (fun schedule request => schedule.grant Bench.workload number request)
        (({ schedule with ready := rest, world := world } : BenchSchedule R A).leave number left) :=
  turn_of_polled Bench.workload schedule rest number job found left world requests polled

omit [Scalar R] in
theorem leave_turns (number : Nat) (left : Option (BenchJob R A)) (schedule : BenchSchedule R A) :
    (schedule.leave number left).turns ≤ schedule.turns := by
  cases left with
  | some job => exact Nat.le_refl _
  | none =>
      have fewer := List.length_filter_le (fun entry : Nat × Nat => !(entry.1 == number)) schedule.resting
      unfold turns leave
      dsimp only
      omega

theorem motor_turn (attended : schedule.Attended pace handlers post answer budget run) (number : Nat) (rest : List Nat)
    (ready : schedule.ready = number :: rest) (other : number ≠ 0) :
    (({ schedule with ready := rest } : BenchSchedule R A).turn Bench.workload number).Attended pace handlers post answer
        budget run ∧
      (({ schedule with ready := rest } : BenchSchedule R A).turn Bench.workload number).world.cell.now =
        schedule.world.cell.now ∧
      (({ schedule with ready := rest } : BenchSchedule R A).turn Bench.workload number).turns < schedule.turns := by
  obtain ⟨manned, waits⟩ := attended
  have fewer : ({ schedule with ready := rest } : BenchSchedule R A).turns + 2 = schedule.turns := by
    unfold turns
    rw [ready, List.map_cons, List.sum_cons, if_neg other]
    dsimp only
    omega
  cases found : schedule.jobs.lookup number with
  | none =>
      rw [turn_of_nobody rest found]
      refine ⟨⟨⟨manned.serves, manned.present, manned.next, ?_⟩, waits⟩, rfl, by omega⟩
      intro place member timer timed due
      have coming := manned.prompt place member timer timed due
      rw [ready] at coming
      refine (List.mem_cons.mp coming).resolve_left fun same => ?_
      obtain ⟨entry, there, inside⟩ := List.mem_flatMap.mp member
      obtain ⟨leaf, -, rfl⟩ := List.mem_map.mp inside
      have nobody := List.lookup_eq_none_iff.mp found entry there
      simp [← same] at nobody
  | some job =>
      have serves := manned.serves _ (HandlerTable.mem_of_lookup number job schedule.jobs found)
      rw [Bench.Serves, if_neg other] at serves
      obtain ⟨motor, rfl, sound⟩ := serves
      obtain ⟨⟨kept, signals, asked⟩, ahead⟩ := motor.poll_driven pace sound schedule.world.cell waits.ready
      rw [waits.quiet, List.nil_append] at asked
      have turned := Bench.poll_motor motor schedule.world
      rcases polled : motor.poll schedule.world.cell with ⟨left, cell⟩
      rw [polled] at kept asked ahead turned
      have sent : cell.outbox.map (Effect.request (.motor : Motor R → BenchJob R A)) = signals.map .signal := by
        rw [show cell.outbox = _ from asked, List.map_map]
        rfl
      rw [sent] at turned
      rw [turn_of_poll rest found turned]
      have still := manned.leave number (left.map .motor) rest (schedule.world.withCell { cell with outbox := [] }) run
        ready kept.2 (fun entry there _ => manned.serves entry there) (fun job isLeft => ?_)
        (fun first => absurd first other)
      · obtain ⟨wakings, roused⟩ := signals_roused still.serves number signals
        have world := wakings.world.trans (leave_world number _ _)
        have scene : ({ cell with outbox := [] } : Cell R).scene = schedule.world.cell.scene := kept.1
        have readyStill : ({ cell with outbox := [] } : Cell R).scene.Ready pace := by
          rw [scene]
          exact waits.ready
        have goes : run.GoesOn handlers (fun scene => scene.Ready pace) post budget
            ({ cell with outbox := [] } : Cell R).scene := by
          rw [scene]
          exact waits.goes
        have waiting : (schedule.world.withCell { cell with outbox := [] }).Waits pace handlers post budget run :=
          ⟨rfl, readyStill, waits.table, waits.unfinished, waits.unbroken, waits.unlogged, waits.begun, waits.timed, goes⟩
        rw [world]
        refine ⟨⟨still.waked wakings, ?_⟩, kept.2, ?_⟩
        · rw [world]
          exact waiting
        have less := leave_turns number (left.map .motor)
          { schedule with ready := rest, world := schedule.world.withCell { cell with outbox := [] } }
        refine Nat.lt_of_le_of_lt (Nat.le_trans roused.turns (Nat.add_le_add_right less 1)) ?_
        exact Nat.lt_of_lt_of_eq (Nat.lt_succ_self _) fewer
      · obtain ⟨motor, isMotor, rfl⟩ := Option.map_eq_some_iff.mp isLeft
        obtain ⟨sound, timer, timed, later⟩ := ahead motor isMotor
        refine ⟨?_, fun leaf here timer_ timed_ => ?_⟩
        · rw [Bench.Serves, if_neg other]
          exact ⟨motor, rfl, sound⟩
        · rw [List.mem_singleton.mp here] at timed_
          rw [Option.some.inj (timed_.symm.trans timed)]
          exact kept.2.symm ▸ later

theorem operator_goes_on (attended : schedule.Attended pace handlers post answer budget run) (rest : List Nat)
    (ready : schedule.ready = 0 :: rest) (keys : List Nat)
    (found : schedule.jobs.lookup 0 = some (Bench.watching answer (run.wake keys))) (next : Run R) (cell : Cell R)
    (polled : (run.wake keys).resume handlers schedule.world.cell = (.pending next, cell)) :
    ∃ left, (({ schedule with ready := rest } : BenchSchedule R A).turn Bench.workload 0).Attended pace handlers post answer
        left next ∧
      (({ schedule with ready := rest } : BenchSchedule R A).turn Bench.workload 0).world.cell.now =
        schedule.world.cell.now ∧
      (left < budget ∨ left = budget ∧ next.leaves = run.leaves ∧
        (({ schedule with ready := rest } : BenchSchedule R A).turn Bench.workload 0).turns < schedule.turns) := by
  obtain ⟨manned, waits⟩ := attended
  have settles := Poll.settles_of_ends fun turns => waits.goes turns keys schedule.world.cell rfl
  rw [polled] at settles
  obtain ⟨instant, readyNext, timed, left, spends, goes⟩ := settles
  have turned : Bench.poll (Bench.watching answer (run.wake keys)) schedule.world =
      (some (Bench.watching answer next), schedule.world.withCell { cell with outbox := [] },
        cell.outbox.map (Effect.request .motor)) :=
    Bench.poll_watching _ _ _ _ _ (waits.table ▸ polled)
  rw [turn_of_poll rest found turned]
  have still := manned.leave 0 (some (Bench.watching answer next)) rest
    (schedule.world.withCell { cell with outbox := [] }) next ready instant ?_ ?_ fun _ => rfl
  · have world := grants_world Bench.workload 0 (cell.outbox.map (Effect.request .motor))
      (({ schedule with ready := rest, world := schedule.world.withCell { cell with outbox := [] } } :
        BenchSchedule R A).leave 0 (some (Bench.watching answer next)))
    have waiting : (schedule.world.withCell { cell with outbox := [] }).Waits pace handlers post left next := by
      refine ⟨rfl, readyNext, waits.table, waits.unfinished, waits.unbroken, waits.unlogged, timed.1, ?_, goes⟩
      intro leaf member
      obtain ⟨timer, isTimed, -⟩ := timed.2 leaf member
      exact ⟨timer, isTimed⟩
    refine ⟨left, ⟨still.grants 0 cell.outbox, world.symm ▸ waiting⟩, world.symm ▸ instant, ?_⟩
    refine spends.imp_right fun ⟨whole, same, asked⟩ => ⟨whole, (Option.some.inj same).symm, ?_⟩
    rw [asked, waits.quiet]
    unfold turns
    rw [ready]
    simp only [List.map_nil, List.foldl_nil, leave, List.map_cons, List.sum_cons, if_true]
    omega
  · intro entry there other
    have serves := manned.serves entry there
    rw [Bench.Serves, if_neg other] at serves ⊢
    exact serves
  · intro job isJob
    cases isJob
    refine ⟨?_, fun leaf here timer isTimed => ?_⟩
    · rw [Bench.Serves, if_pos rfl]
      exact ⟨[], rfl⟩
    · obtain ⟨own, isOwn, later⟩ := timed.2 leaf here
      rw [Option.some.inj (isTimed.symm.trans isOwn)]
      exact later

theorem operator_ends (waits : schedule.world.Waits pace handlers post budget run) (rest : List Nat) (keys : List Nat)
    (found : schedule.jobs.lookup 0 = some (Bench.watching answer (run.wake keys))) (value : Value R) (cell : Cell R)
    (polled : (run.wake keys).resume handlers schedule.world.cell = (.done value, cell)) :
    (({ schedule with ready := rest } : BenchSchedule R A).turn Bench.workload 0).world.Served post answer := by
  have settles := Poll.settles_of_ends fun turns => waits.goes turns keys schedule.world.cell rfl
  rw [polled] at settles
  have turned : Bench.poll (Bench.watching answer (run.wake keys)) schedule.world =
      Bench.follow [] ((schedule.world.withCell cell).note (answer (.value value))) :=
    Bench.poll_watching _ _ _ _ _ (waits.table ▸ polled)
  rw [turn_of_poll rest found turned, grants_world, leave_world]
  refine ⟨rfl, waits.unbroken, ⟨value, ?_⟩, settles.2⟩
  show (schedule.world.log.push _).toList.map Prod.fst = _
  rw [waits.unlogged]
  rfl

theorem stir_attended (attended : schedule.Attended pace handlers post answer budget run)
    (resting : schedule.resting ≠ []) :
    (schedule.stir Bench.workload).Attended pace handlers post answer budget run ∧
      (schedule.stir Bench.workload).world.cell.now = schedule.world.cell.now ∧
      (schedule.stir Bench.workload).turns < schedule.turns := by
  have wakings : Wakings { schedule with resting := [] } (schedule.stir Bench.workload) :=
    Wakings.fold Prod.fst Prod.snd schedule.resting { schedule with resting := [] }
  obtain ⟨manned, waits⟩ := attended
  have cleared : ({ schedule with resting := [] } : BenchSchedule R A).Manned pace run answer :=
    ⟨manned.serves, manned.present, manned.next, manned.prompt⟩
  refine ⟨⟨cleared.waked wakings, wakings.world.symm ▸ waits⟩, by rw [wakings.world], ?_⟩
  have most : ∀ (entries : List (Nat × Nat)) (schedule : BenchSchedule R A),
      (entries.foldl (fun schedule entry => schedule.wake Bench.workload entry.1 entry.2) schedule).turns ≤
        schedule.turns + 2 * entries.length := by
    intro entries
    induction entries with
    | nil => exact fun schedule => Nat.le_add_right _ _
    | cons entry rest ih =>
        intro schedule
        have first := wake_turns entry.1 entry.2 schedule
        have later := ih (schedule.wake Bench.workload entry.1 entry.2)
        rw [List.foldl_cons, List.length_cons]
        omega
  have stirred := most schedule.resting { schedule with resting := [] }
  have before : ({ schedule with resting := [] } : BenchSchedule R A).turns + 3 * schedule.resting.length =
      schedule.turns := by
    unfold turns
    simp
  have places : 0 < schedule.resting.length := List.length_pos_iff.mpr resting
  refine Nat.lt_of_le_of_lt stirred (Nat.lt_of_lt_of_eq (Nat.add_lt_add_left ?_ _) before)
  omega

def limit (leaves : List Leaf) : Nat := ((leaves.head?.bind Leaf.timer).map Timer.due).getD 0

theorem jump_attended (attended : schedule.Attended pace handlers post answer budget run) (ready : schedule.ready = []) :
    ∃ next, schedule.jump Bench.workload = some next ∧ next.Attended pace handlers post answer budget run ∧
      schedule.world.cell.now < next.world.cell.now ∧ next.world.cell.now ≤ limit run.leaves := by
  obtain ⟨manned, waits⟩ := attended
  obtain ⟨leaf, later, isLeaves⟩ := List.exists_cons_of_ne_nil waits.begun
  obtain ⟨timer, isTimed⟩ := waits.timed leaf (isLeaves ▸ List.mem_cons_self)
  have bound : limit run.leaves = timer.due := by simp [limit, isLeaves, isTimed]
  obtain ⟨entry, there, first⟩ := List.mem_map.mp manned.present
  have serves := manned.serves entry there
  rw [Bench.Serves, if_pos first] at serves
  obtain ⟨keys, job⟩ := serves
  have place : (⟨0, leaf⟩ : Place) ∈ schedule.places Bench.workload := by
    refine List.mem_flatMap.mpr ⟨entry, there, List.mem_map.mpr ⟨leaf, ?_, by rw [first]⟩⟩
    have own : Bench.workload.leaves entry.2 = run.leaves := by
      rw [job]
      exact wake_leaves keys run
    rw [own, isLeaves]
    exact List.mem_cons_self
  have waiting : (timer, (⟨0, leaf⟩ : Place)) ∈ schedule.timers Bench.workload :=
    List.mem_filterMap.mpr ⟨_, place, by rw [isTimed]; rfl⟩
  cases earliest : earliest? (schedule.timers Bench.workload) with
  | none =>
      have none_ := List.map_eq_nil_iff.mp (List.min?_eq_none_iff.mp earliest)
      rw [none_] at waiting
      cases waiting
  | some due =>
      obtain ⟨inside, least⟩ := List.min?_eq_some_iff.mp earliest
      obtain ⟨⟨own, other⟩, isWaiting, isDue⟩ := List.mem_map.mp inside
      obtain ⟨there, isPlaced, same⟩ := List.mem_filterMap.mp isWaiting
      obtain ⟨own, isTimer, rfl, rfl⟩ : ∃ t, there.leaf.timer = some t ∧ t = own ∧ there = other := by
        obtain ⟨t, timed, pair⟩ := Option.map_eq_some_iff.mp same
        exact ⟨t, timed, congrArg Prod.fst pair, congrArg Prod.snd pair⟩
      have ahead : schedule.world.cell.now < due := by
        refine Nat.lt_of_not_le fun passed => ?_
        have coming := manned.prompt there isPlaced own isTimer (isDue ▸ passed)
        rw [ready] at coming
        cases coming
      let elapsed : BenchSchedule R A := { schedule with world := Bench.workload.elapse due schedule.world }
      let reached := sortBy (fun entry => entry.1.order)
        ((schedule.timers Bench.workload).filter fun entry => decide (entry.1.due ≤ due))
      have wakings := Wakings.fold (fun entry : Timer × Place => entry.2.job) (fun entry => entry.2.leaf.key) reached elapsed
      refine ⟨_, by rw [jump, earliest]; rfl, ⟨⟨?_, ?_, ?_, ?_⟩, ?_⟩, ?_, ?_⟩
      · exact wakings.serves pace run answer manned.serves
      · exact wakings.numbers.symm ▸ manned.present
      · exact wakings.next.symm ▸ manned.next
      · intro place member timer timed late
        rw [wakings.places] at member
        rw [wakings.world] at late
        have isReached : (timer, place) ∈ reached := by
          refine (mem_sortBy _ _ _).mpr (List.mem_filter.mpr ⟨?_, decide_eq_true late⟩)
          exact List.mem_filterMap.mpr ⟨place, member, by rw [timed]; rfl⟩
        obtain ⟨entry, known, inside⟩ := List.mem_flatMap.mp member
        obtain ⟨leaf, -, rfl⟩ := List.mem_map.mp inside
        exact Wakings.fold_ready _ _ reached elapsed _ isReached (List.mem_map_of_mem known)
      · rw [wakings.world]
        exact ⟨waits.quiet, waits.ready, waits.table, waits.unfinished, waits.unbroken, waits.unlogged, waits.begun,
          waits.timed, waits.goes⟩
      · rw [wakings.world]
        exact ahead
      · rw [wakings.world, bound]
        exact least timer.due (List.mem_map.mpr ⟨_, waiting, rfl⟩)

theorem step_attended (attended : schedule.Attended pace handlers post answer budget run) :
    ∃ next, schedule.step Bench.workload = some next ∧ (next.world.Served post answer ∨
      ∃ left later, next.Attended pace handlers post answer left later ∧
        (left < budget ∨ left = budget ∧
          (limit later.leaves - next.world.cell.now < limit run.leaves - schedule.world.cell.now ∨
            limit later.leaves - next.world.cell.now = limit run.leaves - schedule.world.cell.now ∧
              next.turns < schedule.turns))) := by
  cases ready : schedule.ready with
  | nil =>
      cases resting : schedule.resting with
      | nil =>
          obtain ⟨next, jumped, still, ahead, most⟩ := jump_attended attended ready
          refine ⟨next, by rw [step, ready, resting]; exact jumped, Or.inr ⟨budget, run, still, Or.inr ⟨rfl, Or.inl ?_⟩⟩⟩
          omega
      | cons first others =>
          obtain ⟨still, instant, less⟩ := stir_attended attended (by simp [resting])
          refine ⟨_, by rw [step, ready, resting], Or.inr ⟨budget, run, still, Or.inr ⟨rfl, Or.inr ⟨?_, less⟩⟩⟩⟩
          rw [instant]
  | cons number rest =>
      have stepped : schedule.step Bench.workload =
          some (({ schedule with ready := rest } : BenchSchedule R A).turn Bench.workload number) := by
        rw [step, ready]
      refine ⟨_, stepped, ?_⟩
      by_cases other : number ≠ 0
      · obtain ⟨still, instant, less⟩ := motor_turn attended number rest ready other
        refine Or.inr ⟨budget, run, still, Or.inr ⟨rfl, Or.inr ⟨?_, less⟩⟩⟩
        rw [instant]
      · obtain rfl := Decidable.not_not.mp other
        cases found : schedule.jobs.lookup 0 with
        | none =>
            obtain ⟨entry, there, first⟩ := List.mem_map.mp attended.manned.present
            have nobody := List.lookup_eq_none_iff.mp found entry there
            simp [first] at nobody
        | some job =>
            have serves := attended.manned.serves _ (HandlerTable.mem_of_lookup 0 job schedule.jobs found)
            rw [Bench.Serves, if_pos rfl] at serves
            obtain ⟨keys, rfl⟩ := serves
            have settles := Poll.settles_of_ends fun turns => attended.waits.goes turns keys schedule.world.cell rfl
            rcases polled : (run.wake keys).resume handlers schedule.world.cell with ⟨progress, cell⟩
            rw [polled] at settles
            cases progress with
            | fault fault => exact settles.elim
            | panicked message => exact settles.elim
            | done value => exact Or.inl (operator_ends attended.waits rest keys found value cell polled)
            | pending later =>
                obtain ⟨left, still, instant, spent⟩ := operator_goes_on attended rest ready keys found later cell polled
                refine Or.inr ⟨left, later, still, spent.imp_right fun ⟨whole, same, less⟩ => ⟨whole, Or.inr ⟨?_, less⟩⟩⟩
                rw [instant, same]

theorem Attended.ends (budget : Nat) (run : Run R) (schedule : BenchSchedule R A)
    (attended : schedule.Attended pace handlers post answer budget run) :
    ∃ fuel, (schedule.run Bench.workload (fun bench => bench.finished) fuel).world.Served post answer := by
  obtain ⟨next, stepped, ended | ⟨left, later, still, less⟩⟩ := step_attended attended
  · refine ⟨1, ?_⟩
    rw [Schedule.run, if_neg (by simp [attended.waits.unfinished]), stepped]
    exact ended
  · obtain ⟨fuel, ended⟩ := Attended.ends left later next still
    refine ⟨fuel + 1, ?_⟩
    rw [Schedule.run, if_neg (by simp [attended.waits.unfinished]), stepped]
    exact ended
termination_by (budget, limit run.leaves - schedule.world.cell.now, schedule.turns)
decreasing_by
  rcases less with less | ⟨rfl, less | ⟨same, less⟩⟩
  · exact Prod.Lex.left _ _ less
  · exact Prod.Lex.right _ (Prod.Lex.left _ _ less)
  · rw [same]
    exact Prod.Lex.right _ (Prod.Lex.right _ less)

end Schedule

open Schedule

theorem Bench.execute_served {pace : Duration} {handlers : HandlerTable R} {step : Step R} {final : Scene R}
    {budget : Nat} (cell : Cell R) (takes : step.Takes pace handlers cell.scene final budget)
    (epsilon : R) (answer : Outcome R → A) :
    ∃ fuel, ((Bench.new cell handlers epsilon).execute [.run step answer] fuel).Served (fun scene => scene = final)
      answer := by
  have settles := Poll.settles_of_ends fun turns => takes turns cell rfl
  let bench : Bench R A := Bench.new cell handlers epsilon
  let begun : BenchSchedule R A := bench.schedule [.run step answer]
  have fresh : begun.jobs.lookup 0 = some (.operator .ready [.run step answer]) := rfl
  have advanced : bench.advance (.fresh step) =
      ((step.start handlers cell).1.outcome, bench.withCell (step.start handlers cell).2) := rfl
  rcases polled : step.start handlers cell with ⟨progress, after⟩
  rw [polled] at settles advanced
  cases progress with
  | fault fault => exact settles.elim
  | panicked message => exact settles.elim
  | done value =>
      have first := begin_run_ended step answer bench (bench.withCell after) (.value value) advanced
      have turned := (poll_ready [.run step answer] begun.world).trans (follow_answered _ [] bench _ _ first)
      have next := congrArg Schedule.world (turn_of_poll [] fresh turned)
      rw [grants_world, leave_world] at next
      refine ⟨1, ?_⟩
      show (({ begun with ready := [] } : BenchSchedule R A).turn workload 0).world.Served _ answer
      rw [next]
      exact ⟨rfl, rfl, ⟨value, rfl⟩, settles.2⟩
  | pending run =>
      obtain ⟨instant, ready, timed, left, -, goes⟩ := settles
      have first := begin_run_waits step answer bench (bench.withCell after) (.running run) advanced
      have turned : Bench.poll (.operator .ready [.run step answer]) begun.world =
          (some (watching answer run), bench.withCell { after with outbox := [] },
            after.outbox.map (Effect.request .motor)) :=
        (poll_ready [.run step answer] begun.world).trans (follow_waits _ [] bench _ _ first)
      have next := turn_of_poll [] fresh turned
      have manned : (({ begun with ready := [], world := bench.withCell { after with outbox := [] } } :
          BenchSchedule R A).leave 0 (some (watching answer run))).Manned pace run answer := by
        refine ⟨?_, List.mem_singleton.mpr rfl, Nat.one_ne_zero, ?_⟩
        · intro entry member
          rw [List.mem_singleton.mp member, Bench.Serves]
          exact ⟨[], rfl⟩
        · intro place member timer isTimed due
          obtain ⟨entry, there, inside⟩ := List.mem_flatMap.mp member
          rw [List.mem_singleton.mp there] at inside
          obtain ⟨leaf, here, rfl⟩ := List.mem_map.mp inside
          obtain ⟨own, isOwn, later⟩ := timed.2 leaf here
          rw [Option.some.inj (isTimed.symm.trans isOwn)] at due
          exact absurd due (Nat.not_le_of_lt later)
      have world := grants_world Bench.workload 0 (after.outbox.map (Effect.request .motor))
        (({ begun with ready := [], world := bench.withCell { after with outbox := [] } } : BenchSchedule R A).leave 0
          (some (watching answer run)))
      have attended : (({ begun with ready := [] } : BenchSchedule R A).turn workload 0).Attended pace handlers
          (fun scene => scene = final) answer left run := by
        rw [next]
        refine ⟨manned.grants 0 after.outbox, ?_⟩
        rw [world]
        refine ⟨rfl, ready, rfl, rfl, rfl, rfl, timed.1, ?_, goes⟩
        intro leaf member
        obtain ⟨timer, isTimed, -⟩ := timed.2 leaf member
        exact ⟨timer, isTimed⟩
      obtain ⟨fuel, ended⟩ := attended.ends
      exact ⟨fuel + 1, ended⟩

end Workcell

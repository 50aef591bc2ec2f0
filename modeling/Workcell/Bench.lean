import Workcell.Run.Task
import Workcell.Scheduler
import Workcell.Telemetry.Sampler

/-!
The bench: one cell worked by an operator who follows a script.

The operator runs flows and waits for them, or lets them run beside; commands devices; looks at whatever the cell
holds. Every instruction is answered, and the answers are kept with the cell as it was then. `A` is what answers are
made of.
-/

set_option autoImplicit false

namespace Workcell

-- An observer of a device, and how many of its states have been seen.
inductive Watcher where
  | axis (handle seen : Nat)
  | actuator (handle seen : Nat)
  deriving DecidableEq, Repr

structure Bench (R A : Type) where
  cell : Cell R
  handlers : HandlerTable R
  sampler : Sampler R
  lastTick : Nat
  watchers : List Watcher
  begun : Nat
  outcomes : List (Nat × Outcome R)
  log : Array (A × Cell R)
  finished : Bool
  broken : Bool

inductive Instruction (R A : Type) where
  | act (work : Bench R A → Except Failure A × Bench R A) (refuse : Fault → A)
  | run (step : Step R) (answer : Outcome R → A)
  | begin (step : Step R) (answer : Nat → A)
  | join (number : Nat) (answer : Outcome R → A)
  | sleep (ms : Nat) (answer : A)
  | cancelIn (ms : Nat) (answer : A)
  | wait (id : String) (ms : Nat) (answer : Bool → A) (refuse : Fault → A)

inductive Pause (R A : Type) where
  | ready
  | running (task : Task R) (answer : Outcome R → A)
  | joining (number : Nat) (answer : Outcome R → A)
  | sleeping (timer : Timer) (answer : A)
  | axis (handle : Nat) (timer : Timer) (answer : Bool → A)
  | actuator (handle : Nat) (timer : Timer) (answer : Bool → A)

inductive BenchJob (R A : Type) where
  | motor (motor : Motor R)
  | operator (pause : Pause R A) (script : List (Instruction R A))
  | flow (number : Nat) (task : Task R)
  | canceller (ms : Nat) (timer : Option Timer)

namespace Bench

variable {R A : Type}

def new (cell : Cell R) (handlers : HandlerTable R) (epsilon : R) : Bench R A :=
  ⟨cell, handlers, .new epsilon cell.traces.position, 0, [], 0, [], #[], false, false⟩

def withCell (bench : Bench R A) (cell : Cell R) : Bench R A := { bench with cell := cell }

def work {B : Type} (act : Act R B) (bench : Bench R A) : Except Failure B × Bench R A :=
  let (result, cell) := act bench.cell
  (result, bench.withCell cell)

def note (answer : A) (bench : Bench R A) : Bench R A := { bench with log := bench.log.push (answer, bench.cell) }

def moving (bench : Bench R A) (axis : Nat) : Bool :=
  match bench.cell.axes.get? axis with
  | some axis => axis.state.moving
  | none => false

def changing (bench : Bench R A) (actuator : Nat) : Bool :=
  match bench.cell.actuators.get? actuator with
  | some actuator => actuator.state.changing
  | none => false

def collect [Scalar R] (bench : Bench R A) : Bench R A × List (Request (BenchJob R A)) :=
  (bench.withCell { bench.cell with outbox := [] }, bench.cell.outbox.map (Effect.request .motor))

variable [Scalar R]

def findDevice (id : String) : Act R (Sum Nat Nat) := do
  let cell ← get
  match cell.kind? id with
  | some .axis => do
      let (handle, _) ← findAxis id
      pure (.inl handle)
  | _ => do
      let (handle, _) ← findActuator id
      pure (.inr handle)

def watch (id : String) (bench : Bench R A) : Except Failure Unit × Bench R A :=
  match bench.work (findDevice id) with
  | (.ok (.inl handle), bench) =>
      let seen := ((bench.cell.axes.get? handle).map Axis.published).getD 0
      (.ok (), { bench with watchers := bench.watchers ++ [.axis handle seen] })
  | (.ok (.inr handle), bench) =>
      let seen := ((bench.cell.actuators.get? handle).map Actuator.published).getD 0
      (.ok (), { bench with watchers := bench.watchers ++ [.actuator handle seen] })
  | (.error failure, bench) => (.error failure, bench)

def glance (index : Nat) (bench : Bench R A) : Option (Bool × Sum (Axis R) (Actuator R)) × Bench R A :=
  match bench.watchers[index]? with
  | some (.axis handle seen) =>
      match bench.cell.axes.get? handle with
      | some axis =>
          (some (!(axis.published == seen), .inl axis),
            { bench with watchers := bench.watchers.set index (.axis handle axis.published) })
      | none => (none, bench)
  | some (.actuator handle seen) =>
      match bench.cell.actuators.get? handle with
      | some actuator =>
          (some (!(actuator.published == seen), .inr actuator),
            { bench with watchers := bench.watchers.set index (.actuator handle actuator.published) })
      | none => (none, bench)
  | none => (none, bench)

def sample (bench : Bench R A) : Option (Frame R) × Bench R A :=
  let (frame, sampler, lastTick, cell) := bench.sampler.sample bench.lastTick bench.cell
  (frame, { bench with cell := cell, sampler := sampler, lastTick := lastTick })

def advance (task : Task R) (bench : Bench R A) : Except (Task R) (Outcome R) × Bench R A :=
  let (progress, cell) := task.poll bench.handlers bench.cell
  (progress.outcome, bench.withCell cell)

def resume (pause : Pause R A) (bench : Bench R A) : Except (Pause R A) (Option A) × Bench R A :=
  match pause with
  | .ready => (.ok none, bench)
  | .running task answer =>
      match bench.advance task with
      | (.ok outcome, bench) => (.ok (some (answer outcome)), bench)
      | (.error task, bench) => (.error (.running task answer), bench)
  | .joining number answer =>
      match bench.outcomes.lookup number with
      | some outcome => (.ok (some (answer outcome)), bench)
      | none => (.error (.joining number answer), bench)
  | .sleeping timer answer =>
      if bench.cell.reached timer then (.ok (some answer), bench) else (.error (.sleeping timer answer), bench)
  | .axis handle timer answer =>
      if !bench.moving handle then (.ok (some (answer true)), bench)
      else if bench.cell.reached timer then (.ok (some (answer false)), bench)
      else (.error (.axis handle timer answer), bench)
  | .actuator handle timer answer =>
      if !bench.changing handle then (.ok (some (answer true)), bench)
      else if bench.cell.reached timer then (.ok (some (answer false)), bench)
      else (.error (.actuator handle timer answer), bench)

-- A pause until a timer, or an answer at once where no time is to pass.
def hold (span : Duration) (bench : Bench R A) (pause : Timer → Pause R A) (answer : A) :
    Except (Pause R A) A × Bench R A :=
  match bench.cell.alarm span with
  | (some timer, cell) => (.error (pause timer), bench.withCell cell)
  | (none, cell) => (.ok answer, bench.withCell cell)

-- Begins an instruction: its answer, or what it waits for, and jobs to begin beside. `none` is a breakdown.
def begin (instruction : Instruction R A) (bench : Bench R A) :
    Option (Except (Pause R A) A × List (BenchJob R A)) × Bench R A :=
  match instruction with
  | .act work refuse =>
      match work bench with
      | (.ok answer, bench) => (some (.ok answer, []), bench)
      | (.error (.fault fault), bench) => (some (.ok (refuse fault), []), bench)
      | (.error (.panic _), bench) => (none, bench)
  | .run step answer =>
      match bench.advance (.fresh step) with
      | (.ok outcome, bench) => (some (.ok (answer outcome), []), bench)
      | (.error task, bench) => (some (.error (.running task answer), []), bench)
  | .begin step answer =>
      (some (.ok (answer bench.begun), [.flow bench.begun (.fresh step)]), { bench with begun := bench.begun + 1 })
  | .join number answer =>
      match bench.outcomes.lookup number with
      | some outcome => (some (.ok (answer outcome), []), bench)
      | none => (some (.error (.joining number answer), []), bench)
  | .sleep ms answer =>
      let (result, bench) := bench.hold (.ofMillis ms) (fun timer => .sleeping timer answer) answer
      (some (result, []), bench)
  | .cancelIn ms answer => (some (.ok answer, [.canceller ms none]), bench)
  | .wait id ms answer refuse =>
      match bench.work (findDevice id) with
      | (.ok (.inl handle), bench) =>
          if bench.moving handle then
            let (result, bench) := bench.hold (.ofMillis ms) (fun timer => .axis handle timer answer) (answer false)
            (some (result, []), bench)
          else (some (.ok (answer true), []), bench)
      | (.ok (.inr handle), bench) =>
          if bench.changing handle then
            let (result, bench) := bench.hold (.ofMillis ms) (fun timer => .actuator handle timer answer) (answer false)
            (some (result, []), bench)
          else (some (.ok (answer true), []), bench)
      | (.error (.fault fault), bench) => (some (.ok (refuse fault), []), bench)
      | (.error (.panic _), bench) => (none, bench)

def follow : List (Instruction R A) → Bench R A →
    Option (BenchJob R A) × Bench R A × List (Request (BenchJob R A))
  | [], bench =>
      let (bench, requests) := { bench with finished := true }.collect
      (none, bench, requests)
  | instruction :: rest, bench =>
      match bench.begin instruction with
      | (none, bench) => (none, { bench with finished := true, broken := true }, [])
      | (some (.ok answer, jobs), bench) =>
          let (bench, asked) := (bench.note answer).collect
          let (job, bench, requests) := follow rest bench
          (job, bench, asked ++ jobs.map .begin ++ requests)
      | (some (.error pause, jobs), bench) =>
          let (bench, asked) := bench.collect
          (some (.operator pause rest), bench, asked ++ jobs.map .begin)

def poll (job : BenchJob R A) (bench : Bench R A) :
    Option (BenchJob R A) × Bench R A × List (Request (BenchJob R A)) :=
  match job with
  | .motor motor =>
      let (motor, cell) := motor.poll bench.cell
      let (bench, requests) := (bench.withCell cell).collect
      (motor.map .motor, bench, requests)
  | .operator pause script =>
      match bench.resume pause with
      | (.ok answer, bench) =>
          follow script (match answer with
            | some answer => bench.note answer
            | none => bench)
      | (.error pause, bench) =>
          let (bench, requests) := bench.collect
          (some (.operator pause script), bench, requests)
  | .flow number task =>
      match bench.advance task with
      | (.ok outcome, bench) =>
          let (bench, requests) := { bench with outcomes := (number, outcome) :: bench.outcomes }.collect
          (none, bench, requests ++ [.signal (.ended number)])
      | (.error task, bench) =>
          let (bench, requests) := bench.collect
          (some (.flow number task), bench, requests)
  | .canceller ms timer =>
      let (timer, cell) :=
        match timer with
        | some timer => (if bench.cell.reached timer then none else some timer, bench.cell)
        | none => bench.cell.alarm (.ofMillis ms)
      let cell := if timer.isSome then cell else cell.cancel
      let (bench, requests) := (bench.withCell cell).collect
      (timer.map fun timer => .canceller ms (some timer), bench, requests)

def leaves : BenchJob R A → List Leaf
  | .motor motor => [⟨0, motor.timer, []⟩]
  | .operator pause _ =>
      match pause with
      | .ready => []
      | .running task _ => task.leaves
      | .joining number _ => [⟨0, none, [.ended number]⟩]
      | .sleeping timer _ => [⟨0, some timer, []⟩]
      | .axis handle timer _ => [⟨0, some timer, [.axis handle]⟩]
      | .actuator handle timer _ => [⟨0, some timer, [.actuator handle]⟩]
  | .flow _ task => task.leaves
  | .canceller _ timer => [⟨0, timer, []⟩]

def touch (key : Nat) : BenchJob R A → BenchJob R A
  | .operator (.running task answer) script => .operator (.running (task.touch key) answer) script
  | .flow number task => .flow number (task.touch key)
  | job => job

def workload : Workload (Bench R A) (BenchJob R A) :=
  ⟨fun bench => bench.cell.now, fun now bench => bench.withCell { bench.cell with now := now }, poll, leaves, touch⟩

def schedule (bench : Bench R A) (script : List (Instruction R A)) : Schedule (Bench R A) (BenchJob R A) :=
  .start bench (.operator .ready script)

def execute (bench : Bench R A) (script : List (Instruction R A)) (fuel : Nat) : Bench R A :=
  ((bench.schedule script).run workload (fun bench => bench.finished) fuel).world

end Bench

end Workcell

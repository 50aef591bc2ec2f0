import Workcell.Command
import Workcell.Run.Task
import Workcell.Scenario
import Workcell.Scheduler
import Workcell.Telemetry.Sampler

/-!
The session: runs of scenarios one after another on one machine, told of in one stream of frames.

Every run has a cell of its own and two jobs: one drives the flow, the other samples the cell. When the flow has
ended, the devices are stopped, the reason is queued as an event, and the sampling ends with a last frame. A start
first ends the run that is active; a start that is refused is told of in a frame of its own. Operators follow
scripts, and their answers are kept with what was published until then.
-/

set_option autoImplicit false

namespace Workcell

def schemaVersion : Nat := 1

def Frame.capacity : Nat := 256

structure SessionSettings (R : Type) where
  sampling : Sampling R
  waitBound : Duration
  sampleTick : Duration
  seed : Nat

structure SessionRun (R : Type) where
  scenario : String
  cell : Cell R
  closing : Bool
  sampled : Bool
  finished : Bool

structure SessionEntry (R A : Type) where
  answer : A
  now : Nat
  -- How many frames were lost before the ones that are told.
  lag : Nat
  frames : List (Frame R)
  appeals : List Appeal

structure Session (R A : Type) where
  machine : Machine R
  driver : Driver
  catalog : Catalog (Scenario R)
  settings : SessionSettings R
  handlers : HandlerTable R
  hook : Hook R
  appeals : List Appeal
  now : Nat
  issued : Nat
  lastTick : Nat
  frames : Stream (Frame R)
  runs : List (SessionRun R)
  -- The run that a stop would end.
  active : Option Nat
  told : Nat
  log : Array (SessionEntry R A)
  finished : Bool
  broken : Bool

inductive Stopping (A : Type) where
  | start (scenario : String) (answer : Except Fault Unit → A)
  | stop (answer : A)

inductive SessionInstruction (R A : Type) where
  | act (work : Session R A → A × Session R A)
  | start (scenario : String) (answer : Except Fault Unit → A)
  | stop (answer : Bool → A)
  | sleep (ms : Nat) (answer : A)
  | waitIdle (answer : A)

inductive SessionPause (A : Type) where
  | ready
  | stopping (run : Nat) (next : Stopping A)
  | sleeping (timer : Timer) (answer : A)
  | idle (run : Nat) (answer : A)

inductive SessionJob (R A : Type) where
  | motor (run : Nat) (motor : Motor R)
  | operator (pause : SessionPause A) (script : List (SessionInstruction R A))
  | drive (run : Nat) (task : Task R)
  | closing (run : Nat)
  | sampling (run : Nat) (sampler : Sampler R) (timer : Option Timer)

namespace Session

variable {R A : Type}

def new (machine : Machine R) (driver : Driver) (catalog : Catalog (Scenario R)) (settings : SessionSettings R)
    (handlers : HandlerTable R) (hook : Hook R) : Session R A where
  machine := machine
  driver := driver
  catalog := catalog
  settings := settings
  handlers := handlers
  hook := hook
  appeals := []
  now := 0
  issued := 0
  lastTick := 0
  frames := .empty Frame.capacity
  runs := []
  active := none
  told := 0
  log := #[]
  finished := false
  broken := false

def isFinished (session : Session R A) (run : Nat) : Bool :=
  match session.runs[run]? with
  | some run => run.finished
  | none => true

def running? (session : Session R A) : Option String :=
  (session.active.filter fun run => !session.isFinished run).bind fun run =>
    (session.runs[run]?).map SessionRun.scenario

def note (run : Nat) (change : SessionRun R → SessionRun R) (session : Session R A) : Session R A :=
  { session with runs := session.runs.modify run change }

def answer (answer : A) (session : Session R A) : Session R A :=
  let entry : SessionEntry R A :=
    ⟨answer, session.now, session.frames.lag session.told, session.frames.since session.told, session.appeals⟩
  { session with log := session.log.push entry, told := session.frames.position, appeals := [] }

def publish (frame : Frame R) (session : Session R A) : Session R A :=
  { session with frames := session.frames.push frame }

def publishFault (fault : Fault) (session : Session R A) : Session R A :=
  let tick := nextTick session.now session.lastTick
  { session with lastTick := tick }.publish ⟨tick, "", none, none, some [.ofFault fault]⟩

def lend (run : SessionRun R) (session : Session R A) : Cell R :=
  { run.cell with now := session.now, issued := session.issued, hook := session.hook, appeals := session.appeals }

def take (number : Nat) (cell : Cell R) (session : Session R A) : Session R A :=
  { session with issued := cell.issued, hook := cell.hook, appeals := cell.appeals }.note number
    fun run => { run with cell := { cell with outbox := [] } }

variable [Scalar R]

def within {B : Type} (number : Nat) (absent : B) (work : Cell R → B × Cell R) (session : Session R A) :
    B × Session R A × List (Request (SessionJob R A)) :=
  match session.runs[number]? with
  | some run =>
      let (b, cell) := work (session.lend run)
      (b, session.take number cell, cell.outbox.map (Effect.request (.motor number)))
  | none => (absent, session, [])

def newCell (session : Session R A) : Cell R :=
  let settings := session.settings
  { Cell.new session.machine session.driver with
    ids := Ids.Source.seeded settings.seed
    waitBound := settings.waitBound
    sampleTick := settings.sampleTick
    now := session.now
    issued := session.issued
    hook := session.hook
    appeals := session.appeals }

-- Begins a run of a scenario; the run that was active before has ended.
def begin (scenario : String) (session : Session R A) :
    Except Failure Unit × Session R A × List (Request (SessionJob R A)) :=
  match Scenario.build session.catalog scenario session.machine with
  | .error (.fault fault) => (.error (.fault fault), session.publishFault fault, [])
  | .error failure => (.error failure, session, [])
  | .ok flow =>
      match materializeAll session.newCell with
      | (.error (.fault fault), _) => (.error (.fault fault), session.publishFault fault, [])
      | (.error failure, _) => (.error failure, session, [])
      | (.ok (), cell) =>
          let cell := cell.pushEvent (.flowStarted scenario session.now schemaVersion)
          let number := session.runs.length
          (.ok (),
            { session with runs := session.runs ++ [⟨scenario, cell, false, false, false⟩], active := some number },
            [.begin (.drive number (.fresh flow))])

def ending : Outcome R → List (Event R)
  | .value _ => [.flowStopped .complete]
  | .fault fault =>
      if fault.isCancellation then [.flowStopped .userStop] else [.ofFault fault, .flowStopped .error]
  | .panicked message => [.ofFault (.ofPanic message), .flowStopped .error]

def close (number : Nat) (outcome : Outcome R) (session : Session R A) :
    Session R A × List (Request (SessionJob R A)) :=
  let ((), session, requests) := session.within number () fun cell =>
    ((), (ending outcome).foldl Cell.pushEvent cell.stopAll)
  (session.note number fun run => { run with closing := true }, requests ++ [.signal .closing])

def sample (number : Nat) (sampler : Sampler R) (session : Session R A) :
    Sampler R × Session R A × List (Request (SessionJob R A)) :=
  let ((frame, sampler, lastTick), session, requests) :=
    session.within number (none, sampler, session.lastTick) fun cell =>
      let (frame, sampler, lastTick, cell) := sampler.sample session.lastTick cell
      ((frame, sampler, lastTick), cell)
  let session := { session with lastTick := lastTick }
  (sampler, match frame with
    | some frame => session.publish frame
    | none => session, requests)

-- Begins to stop the active run; `none` when there is none that is in progress.
def beginStop (session : Session R A) : Option Nat × Session R A × List (Request (SessionJob R A)) :=
  match session.active with
  | none => (none, session, [])
  | some run =>
      let session := { session with active := none }
      let inProgress := !session.isFinished run
      let ((), session, requests) := session.within run () fun cell => ((), cell.cancel)
      (if inProgress then some run else none, session, requests)

inductive Turn (A : Type) where
  | answered (answer : A)
  | waits (pause : SessionPause A)
  | broken

def afterStop (next : Stopping A) (session : Session R A) : Turn A × Session R A × List (Request (SessionJob R A)) :=
  match next with
  | .stop answer => (.answered answer, session, [])
  | .start scenario answer =>
      match session.begin scenario with
      | (.ok (), session, requests) => (.answered (answer (.ok ())), session, requests)
      | (.error (.fault fault), session, requests) => (.answered (answer (.error fault)), session, requests)
      | (.error (.panic _), session, requests) => (.broken, session, requests)

def stopThen (next : Bool → Stopping A) (session : Session R A) :
    Turn A × Session R A × List (Request (SessionJob R A)) :=
  match session.beginStop with
  | (some run, session, requests) => (.waits (.stopping run (next true)), session, requests)
  | (none, session, requests) =>
      let (turn, session, more) := session.afterStop (next false)
      (turn, session, requests ++ more)

def hold (ms : Nat) (answer : A) (session : Session R A) : Turn A × Session R A :=
  if ms = 0 then (.answered answer, session)
  else
    (.waits (.sleeping ⟨Duration.due session.now (.ofMillis ms), session.issued⟩ answer),
      { session with issued := session.issued + 1 })

def instruct (instruction : SessionInstruction R A) (session : Session R A) :
    Turn A × Session R A × List (Request (SessionJob R A)) :=
  match instruction with
  | .act work =>
      let (answer, session) := work session
      (.answered answer, session, [])
  | .start scenario answer => session.stopThen fun _ => .start scenario answer
  | .stop answer => session.stopThen fun inProgress => .stop (answer inProgress)
  | .sleep ms answer =>
      let (turn, session) := session.hold ms answer
      (turn, session, [])
  | .waitIdle answer =>
      match session.active with
      | some run =>
          if session.isFinished run then (.answered answer, session, [])
          else (.waits (.idle run answer), session, [])
      | none => (.answered answer, session, [])

def resume (pause : SessionPause A) (session : Session R A) :
    Option (Turn A) × Session R A × List (Request (SessionJob R A)) :=
  match pause with
  | .ready => (none, session, [])
  | .stopping run next =>
      if session.isFinished run then
        let (turn, session, requests) := session.afterStop next
        (some turn, session, requests)
      else (some (.waits (.stopping run next)), session, [])
  | .sleeping timer answer =>
      (some (if timer.due ≤ session.now then .answered answer else .waits (.sleeping timer answer)), session, [])
  | .idle run answer =>
      (some (if session.isFinished run then .answered answer else .waits (.idle run answer)), session, [])

def follow : List (SessionInstruction R A) → Session R A →
    Option (SessionJob R A) × Session R A × List (Request (SessionJob R A))
  | [], session => (none, { session with finished := true }, [])
  | instruction :: rest, session =>
      match session.instruct instruction with
      | (.answered answer, session, asked) =>
          let (job, session, requests) := follow rest (session.answer answer)
          (job, session, asked ++ requests)
      | (.waits pause, session, asked) => (some (.operator pause rest), session, asked)
      | (.broken, session, asked) => (none, { session with finished := true, broken := true }, asked)

def poll (job : SessionJob R A) (session : Session R A) :
    Option (SessionJob R A) × Session R A × List (Request (SessionJob R A)) :=
  match job with
  | .motor run motor =>
      let (motor, session, requests) := session.within run none fun cell => motor.poll cell
      (motor.map (.motor run), session, requests)
  | .operator pause script =>
      match session.resume pause with
      | (none, session, asked) =>
          let (job, session, requests) := follow script session
          (job, session, asked ++ requests)
      | (some (.answered answer), session, asked) =>
          let (job, session, requests) := follow script (session.answer answer)
          (job, session, asked ++ requests)
      | (some (.waits pause), session, asked) => (some (.operator pause script), session, asked)
      | (some .broken, session, asked) => (none, { session with finished := true, broken := true }, asked)
  | .drive run task =>
      let sampling : List (Request (SessionJob R A)) :=
        match task with
        | .fresh _ => [.begin (.sampling run (Sampler.new session.settings.sampling.epsilon 0).force none)]
        | .running _ => []
      let (progress, session, requests) :=
        session.within run (.fault .cancelled) fun cell => task.poll session.handlers cell
      match progress.outcome with
      | .error task => (some (.drive run task), session, sampling ++ requests)
      | .ok outcome =>
          let (session, more) := session.close run outcome
          (some (.closing run), session, sampling ++ requests ++ more)
  | .closing run =>
      match session.runs[run]? with
      | some state =>
          if state.sampled then
            (none, session.note run fun run => { run with finished := true }, [.signal (.ended run)])
          else (some (.closing run), session, [])
      | none => (none, session, [])
  | .sampling run sampler timer =>
      let closing := ((session.runs[run]?).map SessionRun.closing).getD true
      let due := match timer with
        | some timer => decide (timer.due ≤ session.now)
        | none => true
      if closing then
        let (_, session, requests) := session.sample run sampler
        (none, session.note run fun run => { run with sampled := true }, requests ++ [.signal (.sampled run)])
      else if due then
        let (sampler, session, requests) := session.sample run sampler
        let timer : Timer := ⟨Duration.due session.now session.settings.sampling.period, session.issued⟩
        (some (.sampling run sampler (some timer)), { session with issued := session.issued + 1 }, requests)
      else (some (.sampling run sampler timer), session, [])

def leaves : SessionJob R A → List Leaf
  | .motor _ motor => [⟨0, motor.timer, []⟩]
  | .operator pause _ =>
      match pause with
      | .ready => []
      | .stopping run _ => [⟨0, none, [.ended run]⟩]
      | .sleeping timer _ => [⟨0, some timer, []⟩]
      | .idle run _ => [⟨0, none, [.ended run]⟩]
  | .drive _ task => task.leaves
  | .closing run => [⟨0, none, [.sampled run]⟩]
  | .sampling _ _ timer => [⟨0, timer, [.closing]⟩]

def touch (key : Nat) : SessionJob R A → SessionJob R A
  | .drive run task => .drive run (task.touch key)
  | job => job

def workload : Workload (Session R A) (SessionJob R A) :=
  ⟨fun session => session.now, fun now session => { session with now := now }, poll, leaves, touch⟩

def execute (session : Session R A) (script : List (SessionInstruction R A)) (fuel : Nat) : Session R A :=
  ((Schedule.start session (.operator .ready script)).run workload (fun session => session.finished) fuel).world

end Session

end Workcell

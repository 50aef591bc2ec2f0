import Workcell.Cell.Motor
import Workcell.Run.Basic

/-!
The scheduler: jobs that take turns on one world, on a clock that jumps.

A job that is begun or woken goes to the end of the ready list, and the job at its head has the next turn; it keeps
the turn until it waits. Jobs that rest come back once no job is ready. When nobody is ready or resting, the clock
jumps to the earliest timer, and the timers due then wake their jobs in the order in which they were set. What a
turn asks for is done when the turn is over, in the order asked.
-/

set_option autoImplicit false

namespace Workcell

inductive Request (J : Type) where
  | begin (job : J)
  | signal (signal : Signal)
  | again (key : Nat)
  | rest (key : Nat)

def Effect.request {R J : Type} [Scalar R] (motor : Motor R → J) : Effect R → Request J
  | .motion handle way => .begin (motor (.ofMotion handle way))
  | .stroke handle way => .begin (motor (.ofStroke handle way))
  | .signal sent => .signal sent
  | .again key => .again key
  | .rest key => .rest key

structure Workload (W J : Type) where
  now : W → Nat
  elapse : Nat → W → W
  poll : J → W → Option J × W × List (Request J)
  leaves : J → List Leaf
  touch : Nat → J → J

structure Schedule (W J : Type) where
  world : W
  jobs : List (Nat × J)
  ready : List Nat
  resting : List (Nat × Nat)
  next : Nat

structure Place where
  job : Nat
  leaf : Leaf
  deriving DecidableEq, Repr

-- Puts an item into a list ordered by rank, after those of equal rank.
def insertBy {A : Type} (rank : A → Nat) (a : A) : List A → List A
  | [] => [a]
  | b :: rest => if rank a < rank b then a :: b :: rest else b :: insertBy rank a rest

def sortBy {A : Type} (rank : A → Nat) (items : List A) : List A :=
  items.foldl (fun sorted a => insertBy rank a sorted) []

namespace Schedule

variable {W J : Type}

def start (world : W) (job : J) : Schedule W J := ⟨world, [(0, job)], [0], [], 1⟩

def places (load : Workload W J) (schedule : Schedule W J) : List Place :=
  schedule.jobs.flatMap fun entry => (load.leaves entry.2).map fun leaf => ⟨entry.1, leaf⟩

def wake (load : Workload W J) (job key : Nat) (schedule : Schedule W J) : Schedule W J :=
  if schedule.jobs.any fun entry => entry.1 == job then
    { schedule with
      jobs := schedule.jobs.map fun entry => if entry.1 = job then (entry.1, load.touch key entry.2) else entry
      ready := enqueue schedule.ready [job] }
  else schedule

def deliver (load : Workload W J) (signal : Signal) (schedule : Schedule W J) : Schedule W J :=
  let listeners := (schedule.places load).filter fun place => place.leaf.signals.contains signal
  (sortBy (fun place => place.leaf.key) listeners).foldl
    (fun schedule place => schedule.wake load place.job place.leaf.key) schedule

def grant (load : Workload W J) (job : Nat) (schedule : Schedule W J) : Request J → Schedule W J
  | .begin newJob =>
      { schedule with
        jobs := schedule.jobs ++ [(schedule.next, newJob)]
        ready := schedule.ready ++ [schedule.next]
        next := schedule.next + 1 }
  | .signal signal => schedule.deliver load signal
  | .again key => schedule.wake load job key
  | .rest key => { schedule with resting := schedule.resting ++ [(job, key)] }

def leave (job : Nat) (left : Option J) (schedule : Schedule W J) : Schedule W J :=
  match left with
  | some left =>
      { schedule with jobs := schedule.jobs.map fun entry => if entry.1 = job then (job, left) else entry }
  | none =>
      { schedule with
        jobs := schedule.jobs.filter fun entry => !(entry.1 == job)
        resting := schedule.resting.filter fun entry => !(entry.1 == job) }

def turn (load : Workload W J) (job : Nat) (schedule : Schedule W J) : Schedule W J :=
  match schedule.jobs.lookup job with
  | none => schedule
  | some work =>
      let (left, world, requests) := load.poll work schedule.world
      requests.foldl (fun schedule request => schedule.grant load job request)
        ({ schedule with world := world }.leave job left)

def timers (load : Workload W J) (schedule : Schedule W J) : List (Timer × Place) :=
  (schedule.places load).filterMap fun place => place.leaf.timer.map fun timer => (timer, place)

def earliest? (timers : List (Timer × Place)) : Option Nat := (timers.map fun entry => entry.1.due).min?

-- Moves the clock to the earliest timer and wakes those whose time has come; nothing when there is no timer.
def jump (load : Workload W J) (schedule : Schedule W J) : Option (Schedule W J) :=
  let timers := schedule.timers load
  (earliest? timers).map fun due =>
    let reached := timers.filter fun entry => decide (entry.1.due ≤ due)
    (sortBy (fun entry => entry.1.order) reached).foldl
      (fun schedule entry => schedule.wake load entry.2.job entry.2.leaf.key)
      { schedule with world := load.elapse due schedule.world }

def stir (load : Workload W J) (schedule : Schedule W J) : Schedule W J :=
  schedule.resting.foldl (fun schedule entry => schedule.wake load entry.1 entry.2)
    { schedule with resting := [] }

-- The next thing that happens; nothing when nothing will ever happen.
def step (load : Workload W J) (schedule : Schedule W J) : Option (Schedule W J) :=
  match schedule.ready with
  | job :: rest => some ({ schedule with ready := rest }.turn load job)
  | [] =>
      match schedule.resting with
      | _ :: _ => some (schedule.stir load)
      | [] => schedule.jump load

def run (load : Workload W J) (stop : W → Bool) : (fuel : Nat) → Schedule W J → Schedule W J
  | 0, schedule => schedule
  | fuel + 1, schedule =>
      if stop schedule.world then schedule
      else
        match schedule.step load with
        | some next => run load stop fuel next
        | none => schedule

end Schedule

end Workcell

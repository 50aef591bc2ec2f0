import Workcell.Device.Driver
import Workcell.Flow.Hook
import Workcell.Material.Ids
import Workcell.Settings
import Workcell.Telemetry.Event
import Workcell.Telemetry.Trace

/-!
The cell as one run sees it: the machine, the devices made so far, variables, materials, queued events and the
clock.

Devices are held in slots. A slot number is a handle that stays good when another device is registered under the
same id, so whoever waits on the old device goes on waiting on it. What a turn asks of the scheduler is left in the
outbox, in order.
-/

set_option autoImplicit false

namespace Workcell

inductive Signal where
  | axis (handle : Nat)
  | actuator (handle : Nat)
  | cancelled
  | ended (name : Nat)
  | closing
  | sampled (run : Nat)
  deriving DecidableEq, Repr

inductive Effect (R : Type) where
  | motion (axis : Nat) (motion : AxisMotion R)
  | stroke (actuator : Nat) (stroke : Stroke R)
  | signal (signal : Signal)
  -- The place `key` of the job at work wants another turn after the jobs that are ready.
  | again (key : Nat)
  -- The place `key` of the job at work wants another turn once no job is ready.
  | rest (key : Nat)

-- Devices of one sort, with the ids of those that are registered in order.
structure Bank (D : Type) where
  slots : List D
  index : List (String × Nat)

namespace Bank

variable {D : Type}

def empty : Bank D := ⟨[], []⟩

def handle? (bank : Bank D) (id : String) : Option Nat := bank.index.lookup id

def get? (bank : Bank D) (handle : Nat) : Option D := bank.slots[handle]?

def find? (bank : Bank D) (id : String) : Option (Nat × D) :=
  (bank.handle? id).bind fun handle => (bank.get? handle).map fun device => (handle, device)

-- Registers a device in a new slot, in place of any of the same id.
def add (bank : Bank D) (id : String) (device : D) : Bank D :=
  ⟨bank.slots ++ [device], Tree.insertField id bank.slots.length bank.index⟩

def set (bank : Bank D) (handle : Nat) (device : D) : Bank D := ⟨bank.slots.set handle device, bank.index⟩

def registered (bank : Bank D) : List (String × Nat × D) :=
  bank.index.filterMap fun entry => (bank.get? entry.2).map fun device => (entry.1, entry.2, device)

end Bank

-- A wake-up at a millisecond; of those due together the one with the smaller order comes first.
structure Timer where
  due : Nat
  order : Nat
  deriving DecidableEq, Repr

structure Cell (R : Type) where
  machine : Machine R
  driver : Driver
  live : Bool
  waitBound : Duration
  sampleTick : Duration
  now : Nat
  -- How many keys and timers have been given out.
  issued : Nat
  axes : Bank (Axis R)
  actuators : Bank (Actuator R)
  bindings : List (String × Value R)
  materials : MaterialTable
  ids : Ids.Source
  events : List (Event R)
  cancelled : Bool
  traces : Stream Trace
  hook : Hook R
  appeals : List Appeal
  outbox : List (Effect R)

namespace Cell

variable {R : Type}

def new (machine : Machine R) (driver : Driver) : Cell R where
  machine := machine
  driver := driver
  live := true
  waitBound := defaultWait
  sampleTick := Duration.ofMillis defaultTick
  now := 0
  issued := 0
  axes := .empty
  actuators := .empty
  bindings := []
  materials := .empty
  ids := Ids.Source.seeded 0
  events := []
  cancelled := false
  traces := .empty Trace.capacity
  hook := .propagating
  appeals := []
  outbox := []

def effect (cell : Cell R) (effect : Effect R) : Cell R := { cell with outbox := cell.outbox ++ [effect] }

def signal (cell : Cell R) (signal : Signal) : Cell R := cell.effect (.signal signal)

def issue (cell : Cell R) : Nat × Cell R := (cell.issued, { cell with issued := cell.issued + 1 })

def timer (cell : Cell R) (due : Nat) : Timer × Cell R :=
  (⟨due, cell.issued⟩, { cell with issued := cell.issued + 1 })

-- A timer for the end of a span that begins now; nothing for a span that is already over.
def alarm (cell : Cell R) (span : Duration) : Option Timer × Cell R :=
  let due := Duration.due cell.now span
  if due ≤ cell.now then (none, cell)
  else
    let (timer, cell) := cell.timer due
    (some timer, cell)

def reached (cell : Cell R) (timer : Timer) : Bool := decide (timer.due ≤ cell.now)

def cancel (cell : Cell R) : Cell R :=
  if cell.cancelled then cell else { cell with cancelled := true }.signal .cancelled

def trace (cell : Cell R) (step : Step R) (status : TraceStatus) (attempt : Nat) : Cell R :=
  { cell with traces := cell.traces.push ⟨step.name, step.device, status, attempt⟩ }

def appeal (cell : Cell R) (step : Step R) (fault : Fault) : Resolution R × Cell R :=
  let (resolution, hook) := cell.hook.answer
  (resolution, { cell with hook := hook, appeals := cell.appeals ++ [⟨step.name, step.policy.onError, fault.code⟩] })

def readVariable (cell : Cell R) (name : String) : Option (Value R) := cell.bindings.lookup name

def setVariable (cell : Cell R) (name : String) (value : Value R) : Cell R :=
  { cell with bindings := Tree.insertField name value cell.bindings }

def pushEvent (cell : Cell R) (event : Event R) : Cell R := { cell with events := cell.events ++ [event] }

def drainEvents (cell : Cell R) : List (Event R) × Cell R := (cell.events, { cell with events := [] })

def putMaterial (cell : Cell R) (station : String) (material : Material) : Cell R :=
  { cell with materials := cell.materials.put station material }

def takeMaterial (cell : Cell R) (station : String) : Option Material × Cell R :=
  let (material, materials) := cell.materials.take station
  (material, { cell with materials := materials })

def nextId (cell : Cell R) (className : String) : String × Cell R :=
  let (id, ids) := cell.ids.next className
  (id, { cell with ids := ids })

-- The kind of a device: as declared, else as registered, an axis before an actuator.
def kind? (cell : Cell R) (id : String) : Option DeviceKind :=
  match cell.machine.kind? id with
  | some kind => some kind
  | none =>
      match cell.axes.find? id with
      | some _ => some .axis
      | none => (cell.actuators.find? id).map fun entry => entry.2.spec.kind.device

end Cell

end Workcell

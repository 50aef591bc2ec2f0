import Workcell.Cell.Basic
import Workcell.Telemetry.Frame

/-!
The sampler: turns the state of a cell into frames that tell what is new.

A device value is sent when it is the first one of its id or differs by more than epsilon from the last one sent;
the material table is sent whole when it has changed; queued events are sent once, in order. A sample in which
nothing is new gives no frame, unless a full one was asked for.
-/

set_option autoImplicit false

namespace Workcell

structure Sampler (R : Type) where
  epsilon : R
  position : Nat
  lastSent : List (String × R)
  step : String
  sentStep : Option String
  revision : Option Nat
  forced : Bool

-- The ticks of frames: milliseconds, but always later than the tick before.
def nextTick (now last : Nat) : Nat := if last < now then now else last + 1

def shapeNames : List String := [systemName, "Sequence", "Map", "Scope", "Parallel", "Loop"]

def isInternalStep (name : String) : Bool := name.isEmpty || name.startsWith "_" || shapeNames.contains name

namespace Sampler

variable {R : Type}

def new (epsilon : R) (position : Nat) : Sampler R := ⟨epsilon, position, [], "", none, none, false⟩

def force (sampler : Sampler R) : Sampler R := { sampler with forced := true }

def follow (step : String) (trace : Trace) : String :=
  if trace.status = .running ∧ !isInternalStep trace.name then trace.name else step

def readTraces (sampler : Sampler R) (traces : Stream Trace) : Sampler R :=
  { sampler with
    step := (traces.since sampler.position).foldl follow sampler.step
    position := traces.position }

variable [Scalar R]

def values (cell : Cell R) : List (String × R) :=
  let axes := cell.axes.registered.map fun entry => (entry.1, entry.2.2.state.position)
  let actuators := cell.actuators.registered.map fun entry =>
    (entry.1, if entry.2.2.state.settledAt true then Scalar.one else Scalar.zero)
  Tree.orderFields (axes ++ actuators)

-- Whether a value is to be sent.
def isNews (sampler : Sampler R) (entry : String × R) : Bool :=
  match sampler.lastSent.lookup entry.1 with
  | some last => decide (sampler.epsilon < Scalar.abs (entry.2 - last))
  | none => true

def given {A : Type} : List A → Option (List A)
  | [] => none
  | items => some items

def sample (sampler : Sampler R) (last : Nat) (cell : Cell R) : Option (Frame R) × Sampler R × Nat × Cell R :=
  let sampler := sampler.readTraces cell.traces
  let motions := (values cell).filter fun entry => sampler.forced || sampler.isNews entry
  let revision := cell.materials.revision
  let materials :=
    if sampler.forced ∨ sampler.revision ≠ some revision then some cell.materials.entries else none
  let (events, cell) := cell.drainEvents
  let hasContent :=
    !motions.isEmpty || materials.isSome || !events.isEmpty || !(sampler.sentStep == some sampler.step)
  let told : Sampler R :=
    { sampler with
      lastSent := motions.foldl (fun sent entry => Tree.insertField entry.1 entry.2 sent) sampler.lastSent
      revision := some revision
      forced := false }
  if sampler.forced || hasContent then
    let tick := nextTick cell.now last
    (some ⟨tick, sampler.step, given motions, materials, given events⟩,
      { told with sentStep := some sampler.step }, tick, cell)
  else (none, told, last, cell)

end Sampler

end Workcell

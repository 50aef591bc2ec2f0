import Workcell.Document.Record
import Workcell.Document.Toml.Reader
import Workcell.Duration

/-!
Settings of the engine: who it is, how often it reports, how fine the simulated devices step, and how runs are
executed. Every section and, except the service name of a section that is given, every entry has a default.
-/

set_option autoImplicit false

namespace Workcell

open Workcell.Document

inductive LogLevel where
  | trace
  | debug
  | info
  | warn
  | error
  deriving DecidableEq, Repr

def LogLevel.name : LogLevel → String
  | .trace => "trace"
  | .debug => "debug"
  | .info => "info"
  | .warn => "warn"
  | .error => "error"

def LogLevel.named? : String → Option LogLevel
  | "trace" => some .trace
  | "debug" => some .debug
  | "info" => some .info
  | "warn" => some .warn
  | "error" => some .error
  | _ => none

structure Service where
  logLevel : LogLevel
  name : String
  deriving DecidableEq, Repr

structure Sampling (R : Type) where
  interval : Nat
  epsilon : R

structure Execution (R : Type) where
  driver : String
  waitTimeout : R
  seed : Nat

structure Settings (R : Type) where
  service : Service
  sampling : Sampling R
  tick : Nat
  execution : Execution R

def Service.default : Service := ⟨.info, "cellflow"⟩

def simulationDriver : String := "simulation"

def defaultTick : Nat := 10

def defaultWait : Duration := Duration.ofMillis 30000

variable {R : Type} [Scalar R]

def Sampling.default : Sampling R := ⟨50, Scalar.ofDecimal false 1 (-3)⟩

def Execution.default : Execution R := ⟨simulationDriver, Scalar.ofNat 30, 0⟩

def Settings.default : Settings R := ⟨.default, .default, defaultTick, .default⟩

def Sampling.period (sampling : Sampling R) : Duration := Duration.ofMillis (max sampling.interval 1)

-- The bound of waits; a number that is no time falls back to the default.
def Execution.waitBound (execution : Execution R) : Duration :=
  (Scalar.nanoseconds execution.waitTimeout).getD defaultWait

omit [Scalar R] in
def Service.ofTree? (tree : Tree R) : Option Service := do
  let fields ← fieldsOf .toml ["log_level", "service_name"] tree
  let logLevel ← defaulted "log_level" .info (asVariant .toml LogLevel.named?) fields
  let name ← required "service_name" asText fields
  pure ⟨logLevel, name⟩

def Sampling.ofTree? (tree : Tree R) : Option (Sampling R) := do
  let fields ← fieldsOf .toml ["interval_ms", "epsilon"] tree
  let interval ← defaulted "interval_ms" (Sampling.default (R := R)).interval (asNat (Nat.pow 2 64)) fields
  let epsilon ← defaulted "epsilon" Sampling.default.epsilon asNumber fields
  pure ⟨interval, epsilon⟩

omit [Scalar R] in
def tickOfTree? (tree : Tree R) : Option Nat := do
  let fields ← fieldsOf .toml ["tick_ms"] tree
  defaulted "tick_ms" defaultTick (asNat (Nat.pow 2 64)) fields

def Execution.ofTree? (tree : Tree R) : Option (Execution R) := do
  let fields ← fieldsOf .toml ["driver", "wait_timeout_s", "seed"] tree
  let driver ← defaulted "driver" simulationDriver asText fields
  let waitTimeout ← defaulted "wait_timeout_s" Execution.default.waitTimeout asNumber fields
  let seed ← defaulted "seed" 0 (asNat (Nat.pow 2 64)) fields
  pure ⟨driver, waitTimeout, seed⟩

def Settings.ofTree? (tree : Tree R) : Option (Settings R) := do
  let fields ← fieldsOf .toml ["shared", "telemetry", "simulation", "execution"] tree
  let service ← defaulted "shared" .default Service.ofTree? fields
  let sampling ← defaulted "telemetry" .default Sampling.ofTree? fields
  let tick ← defaulted "simulation" defaultTick tickOfTree? fields
  let execution ← defaulted "execution" .default Execution.ofTree? fields
  pure ⟨service, sampling, tick, execution⟩

def Settings.ofToml? (text : String) : Option (Settings R) :=
  (Document.Toml.read text).bind Settings.ofTree?

inductive SettingsError (R : Type) where
  | emptyServiceName
  | zeroInterval
  | negativeEpsilon (epsilon : R)
  | zeroTick
  | unusableWait (seconds : R)
  | emptyDriver

def SettingsError.message : SettingsError R → String
  | .emptyServiceName => "service_name cannot be empty"
  | .zeroInterval => "telemetry.interval_ms must be > 0"
  | .negativeEpsilon epsilon => "telemetry.epsilon must be >= 0, got " ++ Scalar.plain epsilon
  | .zeroTick => "simulation.tick_ms must be > 0"
  | .unusableWait seconds => "execution.wait_timeout_s must be a positive number, got " ++ Scalar.plain seconds
  | .emptyDriver => "execution.driver cannot be empty"

def Settings.validate (settings : Settings R) : Except (SettingsError R) Unit := do
  if settings.service.name = "" then throw .emptyServiceName else pure ()
  if settings.sampling.interval = 0 then throw .zeroInterval else pure ()
  if Scalar.zero ≤ settings.sampling.epsilon then pure () else throw (.negativeEpsilon settings.sampling.epsilon)
  if settings.tick = 0 then throw .zeroTick else pure ()
  let wait := settings.execution.waitTimeout
  if Scalar.zero < wait ∧ (Scalar.nanoseconds wait).isSome then pure () else throw (.unusableWait wait)
  if settings.execution.driver = "" then throw .emptyDriver else pure ()

end Workcell

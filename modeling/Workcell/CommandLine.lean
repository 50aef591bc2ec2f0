import Workcell.Session
import Workcell.Setup

/-!
The command line: reading the arguments, and what a call of the program does.

A call lists the scenarios, runs one of them to its end, or follows the commands on its input, one a line. Frames
are written as they are published, each on a line of its own.
-/

set_option autoImplicit false

namespace Workcell.CommandLine

def programName : String := "cellflow"

def defaultDir : String := "config"

structure Options where
  configDir : Option String
  scenario : Option String
  driver : Option String
  intervalMs : Option Nat
  list : Bool
  verbose : Bool
  json : Bool
  deriving DecidableEq, Repr

def Options.none : Options := ⟨.none, .none, .none, .none, false, false, false⟩

inductive Request where
  | run (options : Options)
  | help
  | version
  | misuse
  deriving DecidableEq, Repr

inductive Switch where
  | takes (set : Options → String → Option Options)
  | flag (set : Options → Option Options)
  | ends (request : Request)

-- Digits with an optional plus before them, below `2 ^ 64`.
def count? (s : String) : Option Nat :=
  let digits := match s.toList with
    | '+' :: rest => rest
    | cs => cs
  if !digits.isEmpty && digits.all Char.isDigit then
    let n := digits.foldl (fun n c => n * 10 + (c.toNat - '0'.toNat)) 0
    if n < Nat.pow 2 64 then some n else .none
  else .none

def once {A B : Type} (old : Option A) (f : A → B) (new : Option A) : Option B :=
  match old with
  | some _ => .none
  | .none => new.map f

def onceFlag {B : Type} (old : Bool) (new : B) : Option B := if old then .none else some new

def long? : String → Option Switch
  | "config-dir" => some (.takes fun o s => once o.configDir (fun s => { o with configDir := some s }) (some s))
  | "scenario" => some (.takes fun o s => once o.scenario (fun s => { o with scenario := some s }) (some s))
  | "driver" => some (.takes fun o s => once o.driver (fun s => { o with driver := some s }) (some s))
  | "interval-ms" => some (.takes fun o s => once o.intervalMs (fun n => { o with intervalMs := some n }) (count? s))
  | "list" => some (.flag fun o => onceFlag o.list { o with list := true })
  | "verbose" => some (.flag fun o => onceFlag o.verbose { o with verbose := true })
  | "json" => some (.flag fun o => onceFlag o.json { o with json := true })
  | "help" => some (.ends .help)
  | "version" => some (.ends .version)
  | _ => .none

def short? : Char → Option Switch
  | 's' => long? "scenario"
  | 'd' => long? "driver"
  | 'v' => long? "verbose"
  | 'h' => long? "help"
  | 'V' => long? "version"
  | _ => .none

def splitValue (cs : List Char) : List Char × Option (List Char) :=
  match cs.dropWhile (fun c => !(c == '=')) with
  | _ :: value => (cs.takeWhile (fun c => !(c == '=')), some value)
  | [] => (cs, .none)

inductive Reading where
  | open (options : Options)
  | awaits (options : Options) (set : Options → String → Option Options)
  | closed (request : Request)

def Reading.ofOptions : Option Options → Reading
  | some options => .open options
  | .none => .closed .misuse

def readShorts (options : Options) : List Char → Reading
  | [] => .open options
  | c :: rest =>
      match short? c with
      | .none => .closed .misuse
      | some (.ends request) => .closed request
      | some (.flag set) =>
          match set options with
          | some options => readShorts options rest
          | .none => .closed .misuse
      | some (.takes set) =>
          match rest with
          | [] => .awaits options set
          | '=' :: value => .ofOptions (set options (String.ofList value))
          | value => .ofOptions (set options (String.ofList value))

def readLong (options : Options) (body : List Char) : Reading :=
  let (name, value) := splitValue body
  match long? (String.ofList name), value with
  | some (.takes set), some value => .ofOptions (set options (String.ofList value))
  | some (.takes set), .none => .awaits options set
  | some (.flag set), .none => .ofOptions (set options)
  | some (.ends request), .none => .closed request
  | _, _ => .closed .misuse

def readOption (options : Options) (arg : String) : Reading :=
  match arg.toList with
  | '-' :: '-' :: body => readLong options body
  | '-' :: body => readShorts options body
  | _ => .closed .misuse

def isOption (arg : String) : Bool :=
  match arg.toList with
  | '-' :: _ :: _ => true
  | _ => false

def readAll : Reading → List String → Request
  | .closed request, _ => request
  | .open options, [] => .run options
  | .awaits _ _, [] => .misuse
  | .open options, arg :: rest =>
      if arg = "--" then (if rest.isEmpty then .run options else .misuse)
      else if isOption arg then readAll (readOption options arg) rest
      else .misuse
  | .awaits options set, arg :: rest =>
      if isOption arg then .misuse else readAll (.ofOptions (set options arg)) rest

def read (args : List String) : Request := readAll (.open .none) args

def Request.configDir : Request → String
  | .run options => options.configDir.getD defaultDir
  | _ => defaultDir

structure Result (R : Type) where
  exit : Nat
  lines : List String
  frames : List (Frame R)

def Result.failed {R : Type} : Result R := ⟨1, [], []⟩

def versionLine : String := programName ++ " " ++ Driver.version

def helpLine (option text : String) : String :=
  option ++ String.ofList (List.replicate (29 - option.length) ' ') ++ text

def helpLines : List String :=
  ["Runs assembly-cell flows and streams telemetry frames", "", "Usage: " ++ programName ++ " [OPTIONS]", "",
    "Options:",
    helpLine "      --config-dir <DIR>"
      ("Config directory holding " ++ settingsFile ++ " and " ++ machineFile ++ " [default: " ++ defaultDir ++ "]"),
    helpLine "  -s, --scenario <SCENARIO>"
      "Run this scenario once and exit; without it, control commands are read from stdin",
    helpLine "  -d, --driver <DRIVER>" ("Override the device driver from " ++ settingsFile),
    helpLine "      --interval-ms <MS>" "Override the telemetry sampling period in milliseconds",
    helpLine "      --list" "List the built-in scenarios and exit",
    helpLine "  -v, --verbose" "Enable verbose logging",
    helpLine "      --json" "Output logs in JSON format",
    helpLine "  -h, --help" "Print help",
    helpLine "  -V, --version" "Print version"]

def isBlank (c : Char) : Bool :=
  let n := c.toNat
  decide ((9 ≤ n ∧ n ≤ 13) ∨ n = 0x20 ∨ n = 0x85 ∨ n = 0xA0 ∨ n = 0x1680 ∨ (0x2000 ≤ n ∧ n ≤ 0x200A) ∨
    n = 0x2028 ∨ n = 0x2029 ∨ n = 0x202F ∨ n = 0x205F ∨ n = 0x3000)

def trim (s : String) : String :=
  String.ofList (((s.toList.dropWhile isBlank).reverse.dropWhile isBlank).reverse)

variable {R : Type} [Scalar R]

def commands (input : String) : List Command :=
  (input.splitOn "\n").filterMap fun line => Command.read? R (trim line)

def override (options : Options) (settings : Settings R) : Settings R :=
  { settings with
    execution := { settings.execution with driver := options.driver.getD settings.execution.driver }
    sampling := { settings.sampling with interval := options.intervalMs.getD settings.sampling.interval } }

def sessionOf (machine : Machine R) (driver : Driver) (settings : Settings R) : Session R Bool :=
  .new machine driver Scenario.builtin
    ⟨settings.sampling, settings.execution.waitBound, Duration.ofMillis settings.tick, settings.execution.seed⟩
    .standard .propagating

def started : Except Fault Unit → Bool
  | .ok () => true
  | .error _ => false

def instructionOf : Command → SessionInstruction R Bool
  | .start scenario => .start scenario fun _ => true
  | .stop => .stop fun _ => true

def script (scenario : Option String) (input : String) : List (SessionInstruction R Bool) :=
  (match scenario with
    | some scenario => [.start scenario started, .waitIdle true]
    | .none => (commands (R := R) input).map instructionOf) ++ [.stop fun _ => true]

def fuel : Nat := 1000000000000

def serve (options : Options) (machine : Machine R) (settings : Settings R) (input : String) : Result R :=
  match Driver.create Driver.builtin settings.execution.driver (Duration.ofMillis settings.tick) with
  | .error _ => .failed
  | .ok driver =>
      if options.list then ⟨0, (Scenario.builtin (R := R)).names, []⟩
      else
        let session := (sessionOf machine driver settings).execute (script options.scenario input) fuel
        let succeeded := !session.broken && session.log.all fun entry => entry.answer
        ⟨if succeeded then 0 else 1, [], session.frames.sent⟩

def call (request : Request) (machine settings : FileContent) (input : String) : Result R :=
  match request with
  | .misuse => ⟨2, [], []⟩
  | .help => ⟨0, helpLines, []⟩
  | .version => ⟨0, [versionLine], []⟩
  | .run options =>
      let dir := request.configDir
      let result : Except SetupError (Result R) := do
        let settings ← Settings.load dir settings
        let settings := override options settings
        settings.check
        let machine ← Machine.load dir machine
        pure (serve options machine settings input)
      match result with
      | .ok result => result
      | .error _ => .failed

end Workcell.CommandLine

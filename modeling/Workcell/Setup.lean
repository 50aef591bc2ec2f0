import Workcell.Machine.Document
import Workcell.Machine.Validity
import Workcell.Settings

/-!
The configuration of a cell: a directory with a machine file and, if need be, a settings file.

A file is read, then understood, then checked. Without a settings file the default settings hold; a machine file
there must be.
-/

set_option autoImplicit false

namespace Workcell

def machineFile : String := "machine.toml"

def settingsFile : String := "engine.toml"

inductive FileContent where
  | absent
  | unreadable
  | text (s : String)
  deriving DecidableEq, Repr

inductive SetupError where
  | notFound (path : String)
  | unparsable
  | invalid (reason : String)
  deriving DecidableEq, Repr

def SetupError.message : SetupError → String
  | .notFound path => "Configuration file not found: " ++ path
  | .unparsable => "Failed to parse configuration"
  | .invalid reason => "Configuration validation failed: " ++ reason

def pathIn (dir file : String) : String := if dir.endsWith "/" then dir ++ file else dir ++ "/" ++ file

def FileContent.parse {A : Type} (content : FileContent) (path : String) (ofText? : String → Option A) :
    Except SetupError A :=
  match content with
  | .absent => .error (.notFound path)
  | .unreadable => .error .unparsable
  | .text s =>
      match ofText? s with
      | some a => .ok a
      | none => .error .unparsable

variable {R : Type} [Scalar R]

def Settings.check (settings : Settings R) : Except SetupError Unit :=
  match settings.validate with
  | .ok () => .ok ()
  | .error error => .error (.invalid error.message)

def Machine.check (machine : Machine R) : Except SetupError Unit :=
  match machine.validate with
  | .ok () => .ok ()
  | .error error => .error (.invalid error.message)

def Machine.load (dir : String) (content : FileContent) : Except SetupError (Machine R) := do
  let machine ← content.parse (pathIn dir machineFile) Machine.ofToml?
  machine.check
  pure machine

def Settings.load (dir : String) (content : FileContent) : Except SetupError (Settings R) := do
  let settings ← match content with
    | .absent => .ok Settings.default
    | _ => content.parse (pathIn dir settingsFile) Settings.ofToml?
  settings.check
  pure settings

end Workcell

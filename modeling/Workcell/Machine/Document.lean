import Workcell.Document.Record
import Workcell.Document.Toml.Reader
import Workcell.Machine.Basic

/-!
Machines read from documents.
-/

set_option autoImplicit false

namespace Workcell

open Workcell.Document

variable {R : Type} [Scalar R]

def Contact.ofTree? (dialect : Dialect) (tree : Tree R) : Option (Contact R) := do
  let fields ← fieldsOf dialect ["surface", "stiffness"] tree
  let surface ← required "surface" asNumber fields
  let stiffness ← required "stiffness" asNumber fields
  pure ⟨surface, stiffness⟩

def wordLimit : Nat := 65536

def AxisSpec.ofTree? (dialect : Dialect) (tree : Tree R) : Option (AxisSpec R) := do
  let fields ← fieldsOf dialect ["id", "board", "channel", "min", "max", "max_speed", "home", "contact"] tree
  let id ← required "id" asText fields
  let board ← defaulted "board" 0 (asNat wordLimit) fields
  let channel ← defaulted "channel" 0 (asNat wordLimit) fields
  let min ← required "min" asNumber fields
  let max ← required "max" asNumber fields
  let maxSpeed ← defaulted "max_speed" AxisSpec.defaultSpeed asNumber fields
  let home ← defaulted "home" none (optional asNumber) fields
  let contact ← defaulted "contact" none (optional (Contact.ofTree? dialect)) fields
  pure ⟨id, board, channel, min, max, maxSpeed, home, contact⟩

def ActuatorSpec.defaultTime : Nat := 200

omit [Scalar R] in
def ActuatorSpec.ofTree? (dialect : Dialect) (tree : Tree R) : Option ActuatorSpec := do
  let fields ← fieldsOf dialect ["id", "kind", "board", "channel", "action_time_ms"] tree
  let id ← required "id" asText fields
  let kind ← defaulted "kind" .cylinder (asVariant dialect ActuatorKind.named?) fields
  let board ← defaulted "board" 0 (asNat wordLimit) fields
  let channel ← defaulted "channel" 0 (asNat wordLimit) fields
  let time ← defaulted "action_time_ms" defaultTime (asNat (Nat.pow 2 64)) fields
  pure ⟨id, kind, board, channel, time⟩

def Machine.ofTree? (dialect : Dialect) (tree : Tree R) : Option (Machine R) := do
  let fields ← fieldsOf dialect ["name", "axes", "actuators"] tree
  let name ← defaulted "name" "" asText fields
  let axes ← defaulted "axes" [] (asList (AxisSpec.ofTree? dialect)) fields
  let actuators ← defaulted "actuators" [] (asList (ActuatorSpec.ofTree? dialect)) fields
  pure ⟨name, axes, actuators⟩

def Machine.ofToml? (text : String) : Option (Machine R) :=
  (Document.Toml.read text).bind (Machine.ofTree? .toml)

end Workcell

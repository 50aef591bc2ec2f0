import Workcell.Document.Record
import Workcell.Fault
import Workcell.Material.Table

/-!
Domain events: what happens in a run apart from motion. The payload of an event is a record with its fields in the
order of their names.
-/

set_option autoImplicit false

namespace Workcell

inductive EventKind where
  | flowStarted
  | flowStopped
  | error
  | materialSpawn
  | materialTransform
  | materialConsume
  | attach
  | detach
  deriving DecidableEq, Repr

inductive StopReason where
  | complete
  | error
  | userStop
  deriving DecidableEq, Repr

def EventKind.all : List EventKind :=
  [.flowStarted, .flowStopped, .error, .materialSpawn, .materialTransform, .materialConsume, .attach, .detach]

def EventKind.name : EventKind → String
  | .flowStarted => "FlowStarted"
  | .flowStopped => "FlowStopped"
  | .error => "Error"
  | .materialSpawn => "MaterialSpawn"
  | .materialTransform => "MaterialTransform"
  | .materialConsume => "MaterialConsume"
  | .attach => "Attach"
  | .detach => "Detach"

def EventKind.named? (s : String) : Option EventKind := EventKind.all.find? fun kind => kind.name == s

def StopReason.name : StopReason → String
  | .complete => "Complete"
  | .error => "Error"
  | .userStop => "UserStop"

def StopReason.named? : String → Option StopReason
  | "Complete" => some .complete
  | "Error" => some .error
  | "UserStop" => some .userStop
  | _ => none

structure Event (R : Type) where
  kind : EventKind
  message : Option String
  payload : Option (Tree R)

namespace Event

variable {R : Type}

def withPayload (kind : EventKind) (fields : List (String × Tree R)) : Event R :=
  ⟨kind, none, some (.record fields)⟩

def flowStarted (scenario : String) (tickBase schemaVersion : Nat) : Event R :=
  withPayload .flowStarted
    [("scenario", .text scenario), ("schemaVersion", .int schemaVersion), ("tickBase", .int tickBase)]

def flowStopped (reason : StopReason) : Event R := withPayload .flowStopped [("reason", .text reason.name)]

def given (name : String) : Option String → List (String × Tree R)
  | none => []
  | some s => [(name, .text s)]

def error (code source : Option String) (message : String) : Event R :=
  ⟨.error, some message, some (.record (given "code" code ++ given "source" source))⟩

def ofFault (fault : Fault) : Event R := error (some fault.code) fault.source? fault.message

def materialSpawn (station : String) (material : Material) : Event R :=
  withPayload .materialSpawn
    [("class", .text material.className), ("id", .text material.id), ("station", .text station)]

def materialTransform (station before : String) (material : Material) : Event R :=
  withPayload .materialTransform
    [("class", .text material.className), ("from", .text before), ("id", .text material.id),
      ("station", .text station)]

def materialConsume (station : String) (material : Material) : Event R :=
  withPayload .materialConsume
    [("class", .text material.className), ("id", .text material.id), ("station", .text station)]

def attach (holder source : String) (material : Material) : Event R :=
  withPayload .attach
    [("class", .text material.className), ("from", .text source), ("holder", .text holder),
      ("id", .text material.id)]

def detach (holder target : String) (material : Material) : Event R :=
  withPayload .detach
    [("class", .text material.className), ("holder", .text holder), ("id", .text material.id),
      ("to", .text target)]

def givenTree (name : String) : Option (Tree R) → List (String × Tree R)
  | none => []
  | some tree => [(name, tree)]

def tree (event : Event R) : Tree R :=
  .record (("type", .text event.kind.name) :: (given "msg" event.message ++ givenTree "payload" event.payload))

def payloadDepth : Nat := Tree.maxDepth - 3

def payloadOfTree? (tree : Tree R) : Option (Tree R) := if tree.readable payloadDepth then some tree.ordered else none

def ofTree? (tree : Tree R) : Option (Event R) := do
  let fields ← Document.fieldsOf .json ["type", "msg", "payload"] tree
  let kind ← Document.required "type" (Document.asVariant .json EventKind.named?) fields
  let message ← Document.defaulted "msg" none (Document.optional Document.asText) fields
  let payload ← Document.defaulted "payload" none (Document.optional payloadOfTree?) fields
  pure ⟨kind, message, payload⟩

end Event

end Workcell

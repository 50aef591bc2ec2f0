import Workcell.Document.Json
import Workcell.Telemetry.Event

/-!
Frames: what one sample reports. Device values and materials are tables ordered by name; a section that has nothing
to report is absent.
-/

set_option autoImplicit false

namespace Workcell

structure Frame (R : Type) where
  tick : Nat
  step : String
  values : Option (List (String × R))
  materials : Option (List (String × Material))
  events : Option (List (Event R))

def Material.tree {R : Type} (material : Material) : Tree R :=
  .record [("id", .text material.id), ("class", .text material.className)]

def Material.ofTree? {R : Type} (tree : Tree R) : Option Material := do
  let fields ← Document.fieldsOf .json ["id", "class"] tree
  let id ← Document.required "id" Document.asText fields
  let className ← Document.required "class" Document.asText fields
  pure ⟨id, className⟩

namespace Frame

variable {R : Type}

def tree (frame : Frame R) : Tree R :=
  .record ([("t", .int frame.tick), ("step", .text frame.step)]
    ++ Event.givenTree "m" (frame.values.map fun values =>
      .record (values.map fun entry => (entry.1, .number entry.2)))
    ++ Event.givenTree "mat" (frame.materials.map fun table =>
      .record (table.map fun entry => (entry.1, entry.2.tree)))
    ++ Event.givenTree "e" (frame.events.map fun events => .list (events.map Event.tree)))

def tableOfTree? {A : Type} (decode : Tree R → Option A) : Tree R → Option (List (String × A))
  | .record fields =>
      (fields.mapM fun field => (decode field.2).map fun entry => (field.1, entry)).map Tree.orderFields
  | _ => none

variable [Scalar R]

def ofTree? (tree : Tree R) : Option (Frame R) := do
  let fields ← Document.fieldsOf .json ["t", "step", "m", "mat", "e"] tree
  let tick ← Document.required "t" (Document.asNat (Nat.pow 2 64)) fields
  let step ← Document.required "step" Document.asText fields
  let values ← Document.defaulted "m" none (Document.optional (tableOfTree? Document.asNumber)) fields
  let materials ← Document.defaulted "mat" none (Document.optional (tableOfTree? Material.ofTree?)) fields
  let events ← Document.defaulted "e" none (Document.optional (Document.asList Event.ofTree?)) fields
  pure ⟨tick, step, values, materials, events⟩

def write (frame : Frame R) : String := Document.Json.write frame.tree

def read? (text : String) : Option (Frame R) := (Document.Json.read text).bind ofTree?

end Frame

end Workcell

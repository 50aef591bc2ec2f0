import Workcell.Action.Call

/-!
What the system can be asked to do with materials. Each operation but the two corrections, `bind` and `unbind`,
queues the event that tells of it.
-/

set_option autoImplicit false

namespace Workcell.Action.Stock

variable {R : Type} [Scalar R]

def spawn : Handler R := fun call => do
  let station ← Act.ofExcept (call.text 0 "station")
  let className ← Act.ofExcept (call.text 1 "class")
  let id ← Act.change fun cell => cell.nextId className
  let material : Material := ⟨id, className⟩
  Act.tell fun cell => (cell.putMaterial station material).pushEvent (.materialSpawn station material)
  Act.yield (.text id)

def transform : Handler R := fun call => do
  let station ← Act.ofExcept (call.text 0 "station")
  let className ← Act.ofExcept (call.text 1 "class")
  let cell ← get
  match cell.materials.at? station with
  | none => Act.fail (.emptyStation station)
  | some before =>
      let material : Material := ⟨before.id, className⟩
      Act.tell fun cell =>
        (cell.putMaterial station material).pushEvent (.materialTransform station before.className material)
      Act.yield (.text material.id)

def take (station : String) : Act R Material := do
  let material ← Act.change fun cell => cell.takeMaterial station
  match material with
  | some material => pure material
  | none => Act.fail (.emptyStation station)

def consume : Handler R := fun call => do
  let station ← Act.ofExcept (call.text 0 "station")
  let material ← take station
  Act.tell fun cell => cell.pushEvent (.materialConsume station material)
  Act.yield (.text material.id)

def bind : Handler R := fun call => do
  let station ← Act.ofExcept (call.text 0 "station")
  let id ← Act.ofExcept (call.text 1 "id")
  let className ← Act.ofExcept (call.text 2 "class")
  Act.tell fun cell => cell.putMaterial station ⟨id, className⟩
  Act.yield (.text id)

def unbind : Handler R := fun call => do
  let station ← Act.ofExcept (call.text 0 "station")
  let material ← Act.change fun cell => cell.takeMaterial station
  match material with
  | some material => Act.yield (.text material.id)
  | none => Act.yield .unit

def attach : Handler R := fun call => do
  let holder ← Act.ofExcept (call.text 0 "holder")
  let source ← Act.ofExcept (call.text 1 "source")
  let material ← take source
  Act.tell fun cell => (cell.putMaterial holder material).pushEvent (.attach holder source material)
  Act.yield (.text material.id)

def detach : Handler R := fun call => do
  let holder ← Act.ofExcept (call.text 0 "holder")
  let target ← Act.ofExcept (call.text 1 "target")
  let material ← take holder
  Act.tell fun cell => (cell.putMaterial target material).pushEvent (.detach holder target material)
  Act.yield (.text material.id)

end Workcell.Action.Stock

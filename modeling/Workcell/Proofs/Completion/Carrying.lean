import Workcell.Proofs.Completion.Fitness
import Workcell.Proofs.Stock.Accounted
import Workcell.Proofs.Stock.Names

/-!
The rounds of carrying end well on every machine that is fit to run, and balance: each feeds one blank and carries it
over, and leaves no material behind.
-/

set_option autoImplicit false

namespace Workcell

variable {R : Type} [Scalar R] {tick : Duration}

namespace Scene

variable (scene : Scene R)

section

omit [Scalar R]

def tell (materials : MaterialTable) (event : Event R) : Scene R :=
  { scene with materials := materials, events := scene.events ++ [event] }

def drawn (className : String) : Material := ⟨(scene.ids.next className).1, className⟩

def spawned (station className : String) : Scene R :=
  { scene with ids := (scene.ids.next className).2 }.tell (scene.materials.put station (scene.drawn className))
    (.materialSpawn station (scene.drawn className))

variable (material : Material)

def attached (holder source : String) : Scene R :=
  scene.tell ((scene.materials.clear source).put holder material) (.attach holder source material)

def detached (holder target : String) : Scene R :=
  scene.tell ((scene.materials.clear holder).put target material) (.detach holder target material)

def transformed (station className : String) : Scene R :=
  scene.tell (scene.materials.put station ⟨material.id, className⟩)
    (.materialTransform station material.className ⟨material.id, className⟩)

def consumed (station : String) : Scene R :=
  scene.tell (scene.materials.clear station) (.materialConsume station material)

def Bare : Prop := scene.materials.at? = fun _ => none

end

section

variable {scene} (ready : scene.Ready tick) (material : Material)

include ready

omit [Scalar R]

theorem Ready.spawned (station className : String) : (scene.spawned station className).Ready tick :=
  ⟨ready.simulated, ready.paced, ready.live, ready.going⟩

theorem Ready.attached (holder source : String) : (scene.attached material holder source).Ready tick :=
  ⟨ready.simulated, ready.paced, ready.live, ready.going⟩

theorem Ready.detached (holder target : String) : (scene.detached material holder target).Ready tick :=
  ⟨ready.simulated, ready.paced, ready.live, ready.going⟩

theorem Ready.transformed (station className : String) : (scene.transformed material station className).Ready tick :=
  ⟨ready.simulated, ready.paced, ready.live, ready.going⟩

theorem Ready.consumed (station : String) : (scene.consumed material station).Ready tick :=
  ⟨ready.simulated, ready.paced, ready.live, ready.going⟩

end

end Scene

namespace Step

open Workcell.Action

variable {scene : Scene R} (ready : scene.Ready tick) (label : Label)

section

variable (call : Call R) (cell : Cell R) (first second : String) (material : Material)

theorem spawn_apply (station : call.text 0 "station" = .ok first) (className : call.text 1 "class" = .ok second)
    (id : String) (left : Ids.Source) (next : cell.ids.next second = (id, left)) :
    Stock.spawn call cell = (.ok (.value (.text id)),
      { cell with
        ids := left
        materials := cell.materials.put first ⟨id, second⟩
        events := cell.events ++ [.materialSpawn first ⟨id, second⟩] }) := by
  rw [Stock.spawn, Act.read_bind_apply _ _ first station, Act.read_bind_apply _ _ second className, Act.bind_apply]
  simp only [Act.change, Cell.nextId, next]
  rfl

theorem transform_apply (station : call.text 0 "station" = .ok first) (className : call.text 1 "class" = .ok second)
    (stands : cell.materials.at? first = some material) :
    Stock.transform call cell = (.ok (.value (.text material.id)),
      { cell with
        materials := cell.materials.put first ⟨material.id, second⟩
        events := cell.events ++ [.materialTransform first material.className ⟨material.id, second⟩] }) := by
  rw [Stock.transform, Act.read_bind_apply _ _ first station, Act.read_bind_apply _ _ second className,
    Act.get_bind_apply]
  simp only [stands]
  rfl

theorem consume_apply (station : call.text 0 "station" = .ok first) (stands : cell.materials.at? first = some material) :
    Stock.consume call cell = (.ok (.value (.text material.id)),
      { cell with
        materials := cell.materials.clear first
        events := cell.events ++ [.materialConsume first material] }) := by
  rw [Stock.consume, Act.read_bind_apply _ _ first station, Act.bind_apply, take_apply, stands]
  rfl

theorem attach_apply (holder : call.text 0 "holder" = .ok first) (source : call.text 1 "source" = .ok second)
    (stands : cell.materials.at? second = some material) :
    Stock.attach call cell = (.ok (.value (.text material.id)),
      { cell with
        materials := (cell.materials.clear second).put first material
        events := cell.events ++ [.attach first second material] }) := by
  rw [Stock.attach, Act.read_bind_apply _ _ first holder, Act.read_bind_apply _ _ second source, Act.bind_apply,
    take_apply, stands]
  rfl

theorem detach_apply (holder : call.text 0 "holder" = .ok first) (target : call.text 1 "target" = .ok second)
    (stands : cell.materials.at? first = some material) :
    Stock.detach call cell = (.ok (.value (.text material.id)),
      { cell with
        materials := (cell.materials.clear first).put second material
        events := cell.events ++ [.detach first second material] }) := by
  rw [Stock.detach, Act.read_bind_apply _ _ first holder, Act.read_bind_apply _ _ second target, Act.bind_apply,
    take_apply, stands]
  rfl

end

include ready

theorem spawn_takes (station className : String) :
    (Step.action label systemName .spawn [Flow.text station, Flow.text className]).Takes tick .standard scene
      (scene.spawned station className) 0 := by
  refine takes_of_act label .spawn _ Stock.spawn _ ready.going rfl fun cell same => ?_
  subst same
  have drawn : cell.ids.next className = ((cell.ids.next className).1, (cell.ids.next className).2) := Prod.mk.eta.symm
  exact ⟨_, _, spawn_apply _ cell station className rfl rfl _ _ drawn, rfl, rfl⟩

variable (material : Material)

theorem attach_takes (holder source : String) (stands : scene.materials.at? source = some material) :
    (Step.action label systemName .attach [Flow.text holder, Flow.text source]).Takes tick .standard scene
      (scene.attached material holder source) 0 := by
  refine takes_of_act label .attach _ Stock.attach _ ready.going rfl fun cell same => ?_
  subst same
  exact ⟨_, _, attach_apply _ cell holder source material rfl rfl stands, rfl, rfl⟩

theorem detach_takes (holder target : String) (stands : scene.materials.at? holder = some material) :
    (Step.action label systemName .detach [Flow.text holder, Flow.text target]).Takes tick .standard scene
      (scene.detached material holder target) 0 := by
  refine takes_of_act label .detach _ Stock.detach _ ready.going rfl fun cell same => ?_
  subst same
  exact ⟨_, _, detach_apply _ cell holder target material rfl rfl stands, rfl, rfl⟩

theorem transform_takes (station className : String) (stands : scene.materials.at? station = some material) :
    (Step.action label systemName .transform [Flow.text station, Flow.text className]).Takes tick .standard scene
      (scene.transformed material station className) 0 := by
  refine takes_of_act label .transform _ Stock.transform _ ready.going rfl fun cell same => ?_
  subst same
  exact ⟨_, _, transform_apply _ cell station className material rfl rfl stands, rfl, rfl⟩

theorem consume_takes (station : String) (stands : scene.materials.at? station = some material) :
    (Step.action label systemName .consume [Flow.text station]).Takes tick .standard scene
      (scene.consumed material station) 0 := by
  refine takes_of_act label .consume _ Stock.consume _ ready.going rfl fun cell same => ?_
  subst same
  exact ⟨_, _, consume_apply _ cell station material rfl stands, rfl, rfl⟩

end Step

namespace Scene

open Scenario

omit [Scalar R]

variable (scene : Scene R) (suction : String)

def carried : Scene R :=
  let material := scene.drawn blank
  ((((scene.spawned infeed blank).attached material suction infeed).detached material suction outfeed).transformed
    material outfeed assembled).consumed ⟨material.id, assembled⟩ outfeed

theorem Ready.carried {scene : Scene R} (ready : scene.Ready tick) : (scene.carried suction).Ready tick :=
  ((((ready.spawned _ _).attached _ _ _).detached _ _ _).transformed _ _ _).consumed _ _

theorem carried_bare (bare : scene.Bare) : (scene.carried suction).Bare := by
  rw [Bare] at bare ⊢
  simp [carried, spawned, attached, detached, transformed, consumed, tell, bare]

def carriage (material : Material) : List (Event R) :=
  let product : Material := ⟨material.id, assembled⟩
  [.materialSpawn infeed material, .attach suction infeed material, .detach suction outfeed material,
    .materialTransform outfeed material.className product, .materialConsume outfeed product]

theorem carried_events : (scene.carried suction).events = scene.events ++ carriage suction (scene.drawn blank) := by
  simp [carried, spawned, attached, detached, transformed, consumed, tell, carriage]

def rounds (suction : String) (scene : Scene R) (count : Nat) : Scene R :=
  (fun scene => scene.carried suction)^[count] scene

theorem rounds_machine (count : Nat) : (rounds suction scene count).machine = scene.machine := by
  induction count with
  | zero => rfl
  | succ count ih =>
      rw [rounds, Function.iterate_succ_apply']
      exact ih

theorem rounds_ready {scene : Scene R} (ready : scene.Ready tick) (count : Nat) :
    (rounds suction scene count).Ready tick := by
  induction count with
  | zero => exact ready
  | succ count ih =>
      rw [rounds, Function.iterate_succ_apply']
      exact ih.carried suction

theorem rounds_bare (bare : scene.Bare) (count : Nat) : (rounds suction scene count).Bare := by
  induction count with
  | zero => exact bare
  | succ count ih =>
      rw [rounds, Function.iterate_succ_apply']
      exact carried_bare _ suction ih

theorem rounds_events (count : Nat) : (rounds suction scene count).events =
    scene.events ++ (scene.ids.materials (List.replicate count blank)).flatMap (carriage suction) := by
  induction count generalizing scene with
  | zero => simp [rounds, Ids.Source.materials]
  | succ count ih =>
      rw [List.replicate_succ, Ids.Source.materials, List.flatMap_cons, ← List.append_assoc]
      exact (ih (scene.carried suction)).trans (congrArg (· ++ _) (scene.carried_events suction))

end Scene

structure Scenario.Set (machine : Machine R) (x z gripper suction : String) (stops : Scenario.Stops R) : Prop where
  x : machine.Moves x
  z : machine.Moves z
  gripper : machine.Fires gripper
  suction : machine.Fires suction
  stops : stops.Finite

namespace Scenario.Set

open Step

variable {scene : Scene R} (ready : scene.Ready tick) {x z gripper suction : String} {stops : Scenario.Stops R}
  (set : Scenario.Set scene.machine x z gripper suction stops)

include ready

theorem fire_takes {id : String} (fires : scene.machine.Fires id) (on : Bool) :
    (Flow.fireAndWait id on).Takes tick .standard scene scene 1 := by
  obtain ⟨other, axis, spec, declared⟩ := fires
  exact (fire_stays ready id spec other axis declared on).takes ready

include set

theorem pick_takes (material : Material) (stands : scene.materials.at? infeed = some material) :
    (pick x z gripper suction stops).Takes tick .standard scene (scene.attached material suction infeed) 5 := by
  have across := (move_stays ready x set.x _ set.stops.pick).takes ready
  have lower := (move_stays ready z set.z _ set.stops.down).takes ready
  have hold := fire_takes ready set.suction true
  have grip := fire_takes ready set.gripper true
  have attach := attach_takes ready (Flow.plainLabel "System.Attach") material suction infeed stands
  have still := ready.attached material suction infeed
  have raise := (move_stays still z set.z _ set.stops.up).takes still
  have gripped := grip.andThen (attach.andThen raise ready.going) ready.going
  have held := lower.andThen (hold.andThen gripped ready.going) ready.going
  exact (across.andThen held ready.going).scope ready.going "Pick"

theorem place_takes (material : Material) (stands : scene.materials.at? suction = some material) :
    (place x z gripper suction stops).Takes tick .standard scene (scene.detached material suction outfeed) 5 := by
  have across := (move_stays ready x set.x _ set.stops.place).takes ready
  have lower := (move_stays ready z set.z _ set.stops.down).takes ready
  have loosen := fire_takes ready set.gripper false
  have release := fire_takes ready set.suction false
  have detach := detach_takes ready (Flow.plainLabel "System.Detach") material suction outfeed stands
  have still := ready.detached material suction outfeed
  have raise := (move_stays still z set.z _ set.stops.up).takes still
  have released := release.andThen (detach.andThen raise ready.going) ready.going
  have laid := lower.andThen (loosen.andThen released ready.going) ready.going
  exact (across.andThen laid ready.going).scope ready.going "Place"

theorem round_takes : (round x z gripper suction stops).Takes tick .standard scene (scene.carried suction) 10 := by
  have fed := ready.spawned infeed blank
  have held := fed.attached (scene.drawn blank) suction infeed
  have laid := held.detached (scene.drawn blank) suction outfeed
  have made := laid.transformed (scene.drawn blank) outfeed assembled
  have feed := spawn_takes ready (Flow.plainLabel "Feed blank") infeed blank
  have picks := pick_takes fed set (scene.drawn blank) (by simp [Scene.spawned, Scene.tell])
  have places := place_takes held set (scene.drawn blank) (by simp [Scene.attached, Scene.tell])
  have inspect := transform_takes laid (Flow.plainLabel "Inspect") (scene.drawn blank) outfeed assembled
    (by simp [Scene.detached, Scene.tell])
  have unload := consume_takes made (Flow.plainLabel "Unload") ⟨(scene.drawn blank).id, assembled⟩ outfeed
    (by simp [Scene.transformed, Scene.tell])
  have ended := places.andThen (inspect.andThen unload laid.going) held.going
  exact feed.andThen (picks.andThen ended fed.going) ready.going

omit ready set in
theorem carrying_takes (ready : scene.Ready tick) (set : Scenario.Set scene.machine x z gripper suction stops) :
    ∃ budget, (carrying x z gripper suction stops).Takes tick .standard scene (Scene.rounds suction scene 3) budget := by
  have homing : ∀ step ∈ [Flow.home x, Flow.home z], step.Stays .standard scene 1 := by
    intro step member
    rcases List.mem_pair.mp member with rfl | rfl
    · exact home_stays ready x set.x
    · exact home_stays ready z set.z
  have each : ∀ count, (round x z gripper suction stops).Takes tick .standard (Scene.rounds suction scene count)
      (Scene.rounds suction scene (count + 1)) 10 := by
    intro count
    have there : Scenario.Set (Scene.rounds suction scene count).machine x z gripper suction stops := by
      rw [Scene.rounds_machine]
      exact set
    rw [Scene.rounds, Scene.rounds, Function.iterate_succ_apply']
    exact round_takes (Scene.rounds_ready suction ready count) there
  have homes := (Stays.parallel (Flow.plainLabel "Home") _ (by simp [Branch.few]) ready.going homing).takes ready
  have repeats := Takes.repeated (Scene.rounds suction scene) _
    (fun count => (Scene.rounds_ready suction ready count).going) each 3
  exact ⟨_, (homes.andThen repeats ready.going).scope ready.going "Pick and place"⟩

end Scenario.Set

end Workcell

import Workcell.Catalog
import Workcell.Fault
import Workcell.Flow.Build

/-!
Scenarios: named flows that are built from the machine at hand.

`home_all` homes every axis, all at once. `axis_demo` moves the first axis and then the second. `pick_and_place`
makes three rounds of feeding a blank, carrying it over, inspecting it and unloading it.
-/

set_option autoImplicit false

namespace Workcell

abbrev Scenario (R : Type) := Machine R → Except Failure (Step R)

namespace Scenario

variable {R : Type} [Scalar R]

def infeed : String := "Infeed"

def outfeed : String := "Outfeed"

omit [Scalar R] in
def unavailable (scenario reason : String) : Except Failure (Step R) :=
  .error (.fault (.scenarioUnavailable scenario reason))

def homeAll : Scenario R := fun machine =>
  .ok (Flow.scope "Home all axes" (Flow.parallel (machine.axes.map fun spec => Flow.home spec.id)))

def axisDemo : Scenario R := fun machine =>
  match machine.axes with
  | first :: second :: _ =>
      .ok ((Flow.andThen (Flow.moveToAndWait first.id (Scalar.ofNat 50))
        (Flow.moveToAndWait second.id (Scalar.ofNat 90))).named "Axis demo")
  | _ => unavailable "axis_demo" "needs two axes"

def blank : String := "Blank"

def assembled : String := "Assembled"

structure Stops (R : Type) where
  pick : R
  place : R
  up : R
  down : R

-- A tenth of the travel off either end of the first axis; up at home, and down at four fifths of the second. Nothing
-- when the limits of the second are not in order.
def stops? (x z : AxisSpec R) : Option (Stops R) := do
  let span := x.max - x.min
  let up ← z.homePosition?
  let down ← z.clamp? (z.min + Scalar.ofDecimal false 8 (-1) * (z.max - z.min))
  let margin := Scalar.ofDecimal false 1 (-1) * span
  pure ⟨x.min + margin, x.max - margin, up, down⟩

def pick (x z gripper suction : String) (stops : Stops R) : Step R :=
  Flow.scope "Pick" (Flow.chain
    [Flow.moveToAndWait x stops.pick, Flow.moveToAndWait z stops.down, Flow.fireAndWait suction true,
      Flow.fireAndWait gripper true, Flow.attach suction infeed, Flow.moveToAndWait z stops.up])

def place (x z gripper suction : String) (stops : Stops R) : Step R :=
  Flow.scope "Place" (Flow.chain
    [Flow.moveToAndWait x stops.place, Flow.moveToAndWait z stops.down, Flow.fireAndWait gripper false,
      Flow.fireAndWait suction false, Flow.detach suction outfeed, Flow.moveToAndWait z stops.up])

def round (x z gripper suction : String) (stops : Stops R) : Step R :=
  Flow.chain
    [(Flow.spawn infeed blank).named "Feed blank", pick x z gripper suction stops, place x z gripper suction stops,
      (Flow.transform outfeed assembled).named "Inspect", (Flow.consume outfeed).named "Unload"]

def carrying (x z gripper suction : String) (stops : Stops R) : Step R :=
  Flow.scope "Pick and place" (Flow.chain
    [(Flow.parallel [Flow.home x, Flow.home z]).named "Home", Flow.repeated (round x z gripper suction stops) 3])

def firstOf (machine : Machine R) (kind : ActuatorKind) : Option String :=
  (machine.actuators.find? fun spec => spec.kind == kind).map ActuatorSpec.id

def pickAndPlaceName : String := "pick_and_place"

-- The rounds of carrying. A machine whose second axis has no range breaks the building down.
def pickAndPlace : Scenario R := fun machine =>
  match machine.axes with
  | x :: z :: _ =>
      match firstOf machine .cylinder, firstOf machine .vacuum with
      | none, _ => unavailable pickAndPlaceName "needs a cylinder"
      | some _, none => unavailable pickAndPlaceName "needs a vacuum effector"
      | some gripper, some suction =>
          match stops? x z with
          | some stops => .ok (carrying x.id z.id gripper suction stops)
          | none => .error (.panic (some z.rangeMessage))
  | _ => unavailable pickAndPlaceName "needs two axes"

def builtin : Catalog (Scenario R) :=
  ⟨[("axis_demo", axisDemo), ("home_all", homeAll), (pickAndPlaceName, pickAndPlace)]⟩

def build (catalog : Catalog (Scenario R)) (name : String) : Scenario R := fun machine =>
  match catalog.find? name with
  | some scenario => scenario machine
  | none => .error (.fault (.unknownScenario name))

def takenMessage (name : String) : String := "Scenario '" ++ name ++ "' is already registered"

end Scenario

end Workcell

import Workcell.Proofs.Awaiting.Actuators

/-!
Waits for devices are bounded, and softly so: whether the device comes to where it is waited for or the bound comes first,
the action ends well, with the device at rest.
-/

set_option autoImplicit false

namespace Workcell

open Exact (fractions)

theorem Axis.home_inside (axis : Axis Rat) (valid : axis.spec.validate = .ok ()) :
    max axis.spec.min (min axis.homeTarget axis.spec.max) =
      max axis.spec.min (min (axis.spec.home.getD 0) axis.spec.max) := by
  have ordered : axis.spec.min ≤ axis.spec.max := (Travel.limits_of_valid axis.spec valid).1.le
  have home : axis.homeTarget = max axis.spec.min (min (axis.spec.home.getD 0) axis.spec.max) := by
    rw [homeTarget, AxisSpec.homePosition?]
    show (axis.spec.clamp? (fractions.of (axis.spec.home.getD 0))).getD _ = _
    rw [clamp_exact fractions axis.spec axis.spec.min axis.spec.max _ rfl rfl ordered]
    rfl
  rw [home, min_eq_left (max_le ordered (min_le_right _ _)), max_eq_right (le_max_left _ _)]

theorem Actuator.fired_began {actuator fired : Actuator Rat} {on : Bool} {stroke : Stroke Rat}
    (fires : actuator.fire on = (some stroke, fired)) :
    stroke.time ≠ 0 ∧ fired.generation = stroke.generation ∧ fired.state = stroke.shows fired.state.on 0 := by
  unfold fire at fires
  dsimp only at fires
  split at fires
  · cases fires
  · rename_i takes
    cases fires
    refine ⟨takes, rfl, ?_⟩
    rw [Stroke.shows, if_pos (Nat.pos_of_ne_zero takes)]
    simp [publish]

def Axis.wayHome (axis : Axis Rat) : Leg :=
  ⟨axis.state.position, max axis.spec.min (min (axis.spec.home.getD 0) axis.spec.max),
    axis.spec.maxSpeed * ((axis.tick : Rat) / 1000000000)⟩

-- A job that is about to begin an action on a device, whichever operation it is.
structure Undertaking (W J : Type) where
  setting : Setting Rat W J
  runner : Nat
  begun : Schedule W J
  cell : Cell Rat
  label : Label
  device : String
  args : List (Arg Rat)

namespace Undertaking

variable {W J : Type} (work : Undertaking W J)

def step (operation : Operation) : Step Rat := .action work.label work.device operation work.args

def call (operation : Operation) : Call Rat := ⟨work.device, operation, work.args, work.label.policy.timeout⟩

def bound : Duration := work.label.policy.timeout.getD work.cell.waitBound

def limit : Nat := Duration.due work.cell.now work.bound

-- The motor is the first job that the action itself asks for, after those that the job asks for beside it.
def motor : Nat := work.begun.next + (work.setting.beside work.begun.world).length

def Takes (operation : Operation) : Prop := work.setting.Takes work.runner (work.step operation) work.cell work.begun

def SoftOn (operation : Operation) (handle : Nat) (axis : Axis Rat) (leg : Leg) (homing : Bool) : Prop :=
  work.setting.Soft (fun cell => cell.axes.get? handle) work.runner none (some work.motor)
    (Drive.LeavesAxis handle (axis.generation + 1)) (work.step operation) work.limit
    (fun _ => leg.Waited fractions axis.state.homed homing axis.tick work.cell.now work.limit) work.begun

-- `before` is the motor that the actuator has when the action begins, `mover` the one that it has while it is waited for.
def SoftFor (operation : Operation) (handle generation : Nat) (before mover : Option Nat)
    (well : Nat → Progress Rat → Actuator Rat → Prop) : Prop :=
  work.setting.Soft (fun cell => cell.actuators.get? handle) work.runner before mover
    (Drive.LeavesActuator handle generation) (work.step operation) work.limit (fun _ => well) work.begun

structure AxisInTime (handle : Nat) (axis : Axis Rat) : Prop where
  moves : work.Takes .moveToAndWait → ∀ goal request,
    (work.call .moveToAndWait).target 0 axis.state.position = .ok goal →
    (work.call .moveToAndWait).number? 1 "speed" = .ok request →
    ∃ v, Effective fractions axis.spec.maxSpeed request v ∧
      work.SoftOn .moveToAndWait handle axis
        ⟨axis.state.position, max axis.spec.min (min goal axis.spec.max), v * ((axis.tick : Rat) / 1000000000)⟩ false
  homes : work.Takes .home → work.SoftOn .home handle axis axis.wayHome true

-- A stroke that was begun before, since when nobody but its motor has changed the actuator.
structure OnStroke (handle : Nat) (stroke : Stroke Rat) (fired : Actuator Rat) (before : Schedule W J) : Prop where
  fires : ∃ (earlier : Actuator Rat) (state : Bool), earlier.fire state = (some stroke, fired)
  numbered : before.Numbered
  seen : Workload.shownActuator work.setting.cell? handle before.world = some fired
  undisturbed : ∃ (number : Nat) (later : List (Request J)) (ticks : List Nat),
    (later.foldl (fun schedule request => schedule.grant work.setting.load number request)
      (before.grant work.setting.load number (Effect.request work.setting.motor (.stroke handle stroke)))).Undisturbed
        work.setting.load (Workload.shownActuator work.setting.cell? handle) before.next ticks work.begun ∧
    ∀ time ∈ ticks, time ≤ work.cell.now
  since : work.setting.load.now before.world ≤ work.cell.now

structure ActuatorInTime (handle : Nat) (actuator : Actuator Rat) (lasts : actuator.tick ≠ 0) (on : Bool) : Prop where
  fires_at_once : work.Takes .fireAndWait → (work.call .fireAndWait).flag 0 "state" = .ok on → actuator.strokeTime on = 0 →
    work.SoftFor .fireAndWait handle (actuator.generation + 1) none none
      (Actuator.Rested ⟨on, on, false, Actuator.travelEnd on⟩ on work.cell.now work.limit)
  fires : work.Takes .fireAndWait → (work.call .fireAndWait).flag 0 "state" = .ok on → actuator.strokeTime on ≠ 0 →
    work.SoftFor .fireAndWait handle (actuator.generation + 1) none (some work.motor)
      ((⟨actuator.generation + 1, on, actuator.state.position, Actuator.travelEnd on,
        actuator.strokeTime on⟩ : Stroke Rat).Waited actuator.state.on on actuator.tick lasts work.cell.now work.limit)
  rests : work.Takes .cylinderWaitFor → (work.call .cylinderWaitFor).flag 0 "state" = .ok on →
    actuator.state.changing = false →
    work.SoftFor .cylinderWaitFor handle actuator.generation none none
      (Actuator.Rested actuator.state on work.cell.now work.limit)
  follows : work.Takes .cylinderWaitFor → (work.call .cylinderWaitFor).flag 0 "state" = .ok on →
    actuator.state.changing = true →
    ∀ stroke fired before, ∀ lasts : fired.tick ≠ 0, work.OnStroke handle stroke fired before →
      work.SoftFor .cylinderWaitFor handle actuator.generation (some before.next) (some before.next)
        (stroke.Waited fired.state.on on fired.tick lasts (work.setting.load.now before.world) work.limit)

variable {work}

theorem axis_resolved (known : work.device ≠ systemName) (kind : work.cell.kind? work.device = some .axis)
    {operation : Operation} {handler : Handler Rat}
    (found : HandlerTable.standard.find? ⟨operation, some .axis⟩ = some handler) :
    HandlerTable.standard.resolve work.cell (work.call operation) = .ok handler :=
  resolve_known _ (work.call operation) _ handler known work.cell kind found

theorem actuator_resolved (known : work.device ≠ systemName)
    (kind : work.cell.kind? work.device = some .cylinder ∨ work.cell.kind? work.device = some .vacuum)
    {operation : Operation} {handler : Handler Rat}
    (cylinder : HandlerTable.standard.find? ⟨operation, some .cylinder⟩ = some handler)
    (vacuum : HandlerTable.standard.find? ⟨operation, some .vacuum⟩ = some handler) :
    HandlerTable.standard.resolve work.cell (work.call operation) = .ok handler := by
  rcases kind with kind | kind
  · exact resolve_known _ (work.call operation) _ handler known work.cell kind cylinder
  · exact resolve_known _ (work.call operation) _ handler known work.cell kind vacuum

theorem axis_in_time (known : work.device ≠ systemName) {handle : Nat} {axis : Axis Rat} {axes : Bank (Axis Rat)}
    (isFound : Cell.FindsAxis work.device work.cell handle axis axes) (kind : work.cell.kind? work.device = some .axis)
    (valid : axis.spec.validate = .ok ()) (lasts : axis.tick ≠ 0) : work.AxisInTime handle axis where
  moves takes goal request aimed asked := by
    obtain ⟨v, effective, -, moves, commanded⟩ :=
      Leg.of_command fractions Exact.fractions_timed axis valid lasts axis.spec.min
      axis.spec.max axis.spec.maxSpeed axis.state.position goal rfl rfl rfl rfl request false
    refine ⟨v, effective,
      Leg.soft fractions _ moves lasts takes isFound (work.cell.trace (work.step .moveToAndWait) .running 1).traces rfl ?_⟩
    exact Vigil.opens_move takes.uncut takes.live (axis_resolved known kind rfl) commanded (Nat.succ_ne_self _) isFound aimed
      asked rfl
  homes takes := by
    obtain ⟨v, effective, -, moves, commanded⟩ :=
      Leg.of_command fractions Exact.fractions_timed axis valid lasts axis.spec.min
      axis.spec.max axis.spec.maxSpeed axis.state.position axis.homeTarget rfl rfl rfl rfl none true
    cases effective
    have same : (⟨axis.state.position, max axis.spec.min (min axis.homeTarget axis.spec.max),
        axis.spec.maxSpeed * ((axis.tick : Rat) / 1000000000)⟩ : Leg) = axis.wayHome := by rw [axis.home_inside valid]; rfl
    rw [same] at moves commanded
    refine Leg.soft fractions axis.wayHome moves lasts takes isFound
      (work.cell.trace (work.step .home) .running 1).traces rfl ?_
    exact Vigil.opens_home takes.uncut takes.live (axis_resolved known kind rfl) commanded (Nat.succ_ne_self _) isFound

theorem OnStroke.underway {handle : Nat} {stroke : Stroke Rat} {fired actuator : Actuator Rat} {before : Schedule W J}
    {actuators : Bank (Actuator Rat)} (isOn : work.OnStroke handle stroke fired before) (lasts : fired.tick ≠ 0)
    (held : work.setting.cell? work.begun.world = some work.cell)
    (isFound : Cell.FindsActuator work.device work.cell handle actuator actuators)
    (changing : actuator.state.changing = true) :
    ∃ ticks, work.cell.actuators.get? handle = some actuator ∧ actuator.generation = fired.generation ∧
      ticks < stroke.ticks fired.tick lasts (work.setting.load.now before.world) ∧
      tickAt fired.tick (work.setting.load.now before.world) ticks ≤ work.cell.now ∧
      (stroke.trip fired lasts handle (work.setting.load.now before.world)).Underway work.setting.load
        (Workload.shownActuator work.setting.cell? handle) work.setting.motor (some before.next) ticks work.begun := by
  obtain ⟨earlier, state, fires⟩ := isOn.fires
  obtain ⟨number, later, ticks, undisturbed, past⟩ := isOn.undisturbed
  obtain ⟨took, own, began⟩ := Actuator.fired_began fires
  obtain ⟨underway, times⟩ :=
    stroke.underway_of_undisturbed fired lasts took own began work.setting.houses isOn.numbered isOn.seen undisturbed
  obtain ⟨seen, isSeen, there⟩ := Option.bind_eq_some_iff.mp underway.there
  cases isSeen.symm.trans held
  have along : actuator = stroke.along fired (work.setting.load.now before.world) ticks.length :=
    Option.some.inj (isFound.there.symm.trans (isFound.same _ there))
  refine ⟨ticks.length, along ▸ there, ?_, ?_, ?_, underway⟩
  · rw [along]
    exact stroke.along_generation fired _ _
  · refine Nat.lt_of_not_le fun ended => ?_
    have isOver : ¬ elapsedAt fired.tick (work.setting.load.now before.world) ticks.length < stroke.time :=
      mt (Stroke.lt_ticks_iff fired.tick lasts _ _).mpr (Nat.not_lt_of_le ended)
    rw [along, Stroke.along, Stroke.shows, if_neg isOver] at changing
    cases changing
  · cases counted : ticks.length with
    | zero => exact isOn.since
    | succ passed =>
        refine past _ ?_
        rw [times, counted]
        exact List.mem_map.mpr ⟨passed, List.mem_range.mpr (Nat.lt_succ_self passed), rfl⟩

theorem actuator_in_time (known : work.device ≠ systemName) {handle : Nat} {actuator : Actuator Rat}
    {actuators : Bank (Actuator Rat)} (isFound : Cell.FindsActuator work.device work.cell handle actuator actuators)
    (kind : work.cell.kind? work.device = some .cylinder ∨ work.cell.kind? work.device = some .vacuum)
    (lasts : actuator.tick ≠ 0) (on : Bool) : work.ActuatorInTime handle actuator lasts on where
  fires_at_once takes asked instant := by
    let settled := actuator.publish ⟨on, on, false, Actuator.travelEnd on⟩ (actuator.generation + 1)
    have fires : actuator.fire on = (none, settled) := if_pos instant
    have met : settled.state.settledAt on = true := by simp [settled, Actuator.publish, ActuatorState.settledAt]
    let sent := work.cell.fired (work.cell.trace (work.step .fireAndWait) .running 1).traces actuators handle settled none
    have there : sent.actuators.get? handle = some settled := Bank.get_set isFound.there settled
    have ticking : work.cell.Ticking → sent.Ticking := fun all => ⟨all.axes, isFound.ticking lasts lasts all⟩
    have now : sent.now = work.cell.now := rfl
    have uncut : sent.cancelled = false := takes.uncut
    have quiet : settled.state.settledAt on = false → sent.outbox = [] := fun unmet =>
      absurd (met.symm.trans unmet) (by decide)
    have settledLasts : settled.tick ≠ 0 := lasts
    have opens := Vigil.opens_fire takes.uncut takes.live (actuator_resolved known kind rfl rfl) fires isFound asked
    exact Actuator.rest_soft settledLasts rfl takes there now uncut quiet ticking opens
  fires takes asked takesTime := by
    let stroke : Stroke Rat :=
      ⟨actuator.generation + 1, on, actuator.state.position, Actuator.travelEnd on, actuator.strokeTime on⟩
    let fired := actuator.publish ⟨actuator.state.on, on, true, actuator.state.position⟩ (actuator.generation + 1)
    have fires : actuator.fire on = (some stroke, fired) := if_neg takesTime
    obtain ⟨-, own, began⟩ : stroke.time ≠ 0 ∧ fired.generation = stroke.generation ∧
        fired.state = stroke.shows fired.state.on 0 := Actuator.fired_began fires
    let sent := work.cell.fired (work.cell.trace (work.step .fireAndWait) .running 1).traces actuators handle fired
      (some stroke)
    have there : sent.actuators.get? handle = some fired := Bank.get_set isFound.there fired
    have ticking : work.cell.Ticking → sent.Ticking := fun all => ⟨all.axes, isFound.ticking lasts lasts all⟩
    have outbox : sent.outbox = [.signal (.actuator handle), .stroke handle stroke] := by
      show work.cell.outbox ++ _ = _
      rw [takes.quiet]
      rfl
    have now : sent.now = work.cell.now := rfl
    have uncut : sent.cancelled = false := takes.uncut
    have firedLasts : fired.tick ≠ 0 := lasts
    have opens := Vigil.opens_fire takes.uncut takes.live (actuator_resolved known kind rfl rfl) fires isFound asked
    exact Stroke.sent_soft firedLasts takesTime own began takes there now uncut outbox ticking opens
  rests takes asked still := by
    let sent : Cell Rat :=
      { work.cell with traces := (work.cell.trace (work.step .cylinderWaitFor) .running 1).traces, actuators := actuators }
    have opens := Vigil.opens_wait takes.uncut (actuator_resolved known kind rfl rfl) isFound asked
    have ticking : work.cell.Ticking → sent.Ticking := fun all => ⟨all.axes, isFound.lasting lasts all⟩
    have there : sent.actuators.get? handle = some actuator := isFound.there
    have now : sent.now = work.cell.now := rfl
    have uncut : sent.cancelled = false := takes.uncut
    exact Actuator.rest_soft lasts still takes there now uncut (fun _ => takes.quiet) ticking opens
  follows takes asked changing stroke fired before firedLasts isOn := by
    obtain ⟨earlier, state, fires⟩ := isOn.fires
    obtain ⟨took, own, -⟩ := Actuator.fired_began fires
    obtain ⟨ticks, there, generation, short, reached, underway⟩ :=
      isOn.underway firedLasts takes.begins.held isFound changing
    let sent : Cell Rat :=
      { work.cell with traces := (work.cell.trace (work.step .cylinderWaitFor) .running 1).traces, actuators := actuators }
    have same : sent.actuators.get? handle = work.cell.actuators.get? handle := isFound.there.trans there.symm
    have opens := Vigil.opens_wait takes.uncut (actuator_resolved known kind rfl rfl) isFound asked
    have ticking : work.cell.Ticking → sent.Ticking := fun all => ⟨all.axes, isFound.lasting lasts all⟩
    have now : sent.now = work.cell.now := rfl
    have uncut : sent.cancelled = false := takes.uncut
    rw [generation]
    exact Stroke.standing_soft firedLasts took own short underway reached takes same now uncut takes.quiet ticking opens

end Undertaking

/-- What is waited for ends in time and without a fault, from wherever the device is and whatever was on its way before. Of
an action that moves, homes or fires a device and waits for it, or that only waits for an actuator, with `limit` the end of
its bound:

* The clock does not pass the limit before the action has ended, and something is still to happen; it does end when there
  are only motors beside it. It ends with a value, and the device is at rest.
* An axis that can go its leg in less time has gone it: it stands at the target inside its limits, homed by a homing. One
  that cannot stands where it was at the limit, and a homing has not homed it.
* An actuator on a stroke to the state that is waited for is settled there at the tick that ends the stroke, if that comes
  first, be the stroke begun by the action or before; at the limit it is frozen where it was.
* An actuator that is at rest otherwise, or on a stroke to the other state, is waited for up to the limit.

For spans of whole milliseconds the limit is so many later, and the ticks are so many apart. -/
theorem waits_end_in_time {W J : Type} (work : Undertaking W J) (known : work.device ≠ systemName) :
    (∀ handle axis found, findAxis work.device work.cell = (.ok (handle, axis), found) →
      work.cell.kind? work.device = some .axis → axis.spec.validate = .ok () → axis.tick ≠ 0 →
      work.AxisInTime handle axis) ∧
    (∀ handle actuator found, findActuator work.device work.cell = (.ok (handle, actuator), found) →
      (work.cell.kind? work.device = some .cylinder ∨ work.cell.kind? work.device = some .vacuum) →
      ∀ (lasts : actuator.tick ≠ 0) (on : Bool), work.ActuatorInTime handle actuator lasts on) ∧
    (∀ ms, work.bound = Duration.ofMillis ms → Duration.beyond work.cell.now work.bound = false →
      work.limit = work.cell.now + ms) ∧
    ∀ ms start ticks, Duration.beyond (start + ticks * ms) (Duration.ofMillis ms) = false →
      tickAt (Duration.ofMillis ms) start (ticks + 1) = start + (ticks + 1) * ms := by
  refine ⟨fun handle axis found finds kind valid lasts => ?_, fun handle actuator found finds kind lasts on => ?_,
    fun ms whole named => ?_, fun ms start ticks named => tickAt_of_millis ms start ticks named⟩
  · obtain ⟨axes, isFound⟩ := Cell.finds_axis work.device work.cell found handle axis finds
    exact Undertaking.axis_in_time known isFound kind valid lasts
  · obtain ⟨actuators, isFound⟩ := Cell.finds_actuator work.device work.cell found handle actuator finds
    exact Undertaking.actuator_in_time known isFound kind lasts on
  · simp only [Undertaking.limit, Duration.due]
    rw [named, if_neg Bool.false_ne_true, whole]
    simp only [Duration.ofMillis]
    omega

def openClamp : Actuator Rat := .new (.new "clamp" .cylinder 200) (.ofMillis 10)

def closeClamp : Step Rat := .action ⟨"close", .default⟩ "clamp" .fireAndWait [.literal (.bool true)]

def closingBench : Schedule (Bench Rat Unit) (BenchJob Rat Unit) :=
  ⟨.new (clampCell openClamp) .standard 1, [(0, .operator .ready [.run closeClamp fun _ => ()])], [0], [], 1⟩

theorem clamp_is_closed_in_time :
    openClamp.strokeTime true = .ofMillis 200 ∧ ∃ looks progress after reached,
      (Setting.operator (fun _ => ()) []).Performs (fun cell => cell.actuators.get? 0) 0 (some 1) closeClamp closingBench
        looks (some (progress, after)) reached ∧
      reached.world.cell.now = 200 ∧ (after.actuators.get? 0).map Actuator.state = some ⟨true, true, false, 1⟩ := by
  have time : openClamp.strokeTime true = .ofMillis 200 := by decide +kernel
  have lasts : openClamp.tick ≠ 0 := by decide
  have takes : (Setting.operator (fun _ => ()) []).Takes 0 closeClamp (clampCell openClamp) closingBench :=
    ⟨⟨⟨⟨by decide, by decide⟩, by decide, rfl⟩, rfl, rfl⟩, rfl, rfl, rfl, rfl⟩
  obtain ⟨-, actuators, -⟩ := waits_end_in_time (⟨.operator (fun _ => ()) [], 0, closingBench, clampCell openClamp,
    ⟨"close", .default⟩, "clamp", [.literal (.bool true)]⟩ : Undertaking (Bench Rat Unit) (BenchJob Rat Unit)) (by decide)
  have inTime := actuators 0 openClamp (clampCell openClamp) rfl (Or.inl rfl) lasts true
  have soft := inTime.fires takes rfl (time ▸ by decide)
  have secluded : closingBench.Secluded Bench.workload .motor (Drive.LeavesActuator 0 (openClamp.generation + 1)) none 0 :=
    fun entry member other => absurd (congrArg Prod.fst (List.mem_singleton.mp member)) other
  have ticking : ∀ cell, some closingBench.world.cell = some cell → cell.Ticking := by
    rintro cell ⟨rfl⟩
    exact ⟨fun _ member => absurd member List.not_mem_nil, fun other member => List.mem_singleton.mp member ▸ lasts⟩
  obtain ⟨looks, ⟨progress, after⟩, reached, performs⟩ := soft.comes rfl secluded ticking
  obtain ⟨device, there, waited⟩ := soft.ends looks progress after reached performs
  let stroke : Stroke Rat := ⟨1, true, 0, 1, openClamp.strokeTime true⟩
  have twenty : stroke.ticks openClamp.tick lasts 0 = 20 := by
    have counts : ∀ steps, steps < stroke.ticks openClamp.tick lasts 0 ↔
        elapsedAt openClamp.tick 0 steps < .ofMillis 200 := by
      intro steps
      rw [Stroke.lt_ticks_iff, show stroke.time = .ofMillis 200 from time]
    exact Nat.le_antisymm (Nat.not_lt.mp ((counts 20).not.mpr (by decide +kernel))) ((counts 19).mpr (by decide +kernel))
  have last : tickAt openClamp.tick 0 (stroke.ticks openClamp.tick lasts 0) = 200 := by
    rw [twenty]
    decide +kernel
  have early : 200 < Duration.due (clampCell openClamp).now (clampCell openClamp).waitBound := by decide +kernel
  obtain ⟨exactly, state⟩ := waited.settles rfl (last.trans_lt early)
  refine ⟨time, looks, progress, after, reached, performs, exactly.trans last, ?_⟩
  rw [there, Option.map_some, state]
  rfl

end Workcell

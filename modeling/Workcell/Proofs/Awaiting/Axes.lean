import Workcell.Proofs.Awaiting.Opening

/-!
Axes that are moved or homed and waited for. The command gives the axis its way, from wherever it stands and whatever was on
its way before; then the wait is for the motor that goes it.
-/

set_option autoImplicit false

namespace Workcell

section

variable {R : Type} [Scalar R] {W J D : Type}

-- A sort of jobs that carry steps out, with motors among them.
structure Setting (R W J : Type) [Scalar R] where
  load : Workload W J
  cell? : W → Option (Cell R)
  motor : Motor R → J
  table : W → HandlerTable R
  fresh : Step R → J
  going : Run R → J
  beside : W → List J
  houses : load.Houses cell? motor
  carries : load.Carries cell? motor table fresh going beside

def Setting.operator {A : Type} (answer : Outcome R → A) (script : List (Instruction R A)) :
    Setting R (Bench R A) (BenchJob R A) :=
  ⟨_, _, _, _, _, _, _, bench_houses, Bench.operator_carries answer script⟩

def Setting.flow {A : Type} (number : Nat) : Setting R (Bench R A) (BenchJob R A) :=
  ⟨_, _, _, _, _, _, _, bench_houses, Bench.flow_carries number⟩

def Setting.drive {A : Type} (number : Nat) : Setting R (Session R A) (SessionJob R A) :=
  ⟨_, _, _, _, _, _, _, session_houses number, Session.drive_carries number⟩

structure Setting.Takes (setting : Setting R W J) (runner : Nat) (step : Step R) (cell : Cell R) (begun : Schedule W J) :
    Prop where
  begins : begun.Begins setting.load setting.cell? setting.fresh runner step cell
  standard : setting.table begun.world = .standard
  uncut : cell.cancelled = false
  live : cell.live = true
  quiet : cell.outbox = []

-- What may become of an action as long as nobody but the motor of the number `mover` changes what is seen of its
-- device; `looks` are the cells that it has looked at in time since its first turn and that have left it waiting.
def Setting.Performs (setting : Setting R W J) (seen : Cell R → Option D) (runner : Nat) (mover : Option Nat) (step : Step R)
    (begun : Schedule W J) (looks : List (Cell R)) (result : Option (Progress R × Cell R)) (reached : Schedule W J) : Prop :=
  begun.Performs setting.load setting.cell? setting.table setting.going seen runner mover step looks result reached

-- An action is soft: it has not passed its limit and something is still to happen, until it ends as it should; and it
-- does end when there is nobody at work beside it but motors that leave its device alone, `before` the mover already
-- among them.
structure Setting.Soft (setting : Setting R W J) (seen : Cell R → Option D) (runner : Nat) (before mover : Option Nat)
    (spares : Drive R → Prop) (step : Step R) (limit : Nat) (well : List (Cell R) → Nat → Progress R → D → Prop)
    (begun : Schedule W J) : Prop where
  lasts : ∀ looks reached, setting.Performs seen runner mover step begun looks none reached →
    setting.load.now reached.world ≤ limit ∧ (reached.step setting.load).isSome = true
  ends : ∀ looks progress after reached, setting.Performs seen runner mover step begun looks (some (progress, after))
    reached →
    ∃ device, seen after = some device ∧ well looks (setting.load.now reached.world) progress device
  comes : setting.beside begun.world = [] → begun.Secluded setting.load setting.motor spares before runner →
    (∀ cell, setting.cell? begun.world = some cell → cell.Ticking) →
    ∃ looks result reached, setting.Performs seen runner mover step begun looks (some result) reached

theorem Setting.Soft.weaken {setting : Setting R W J} {seen : Cell R → Option D} {runner : Nat} {before mover : Option Nat}
    {spares : Drive R → Prop} {step : Step R} {limit : Nat} {well weaker : List (Cell R) → Nat → Progress R → D → Prop}
    {begun : Schedule W J} (soft : setting.Soft seen runner before mover spares step limit well begun)
    (follows : ∀ looks now progress device, well looks now progress device → weaker looks now progress device) :
    setting.Soft seen runner before mover spares step limit weaker begun where
  lasts := soft.lasts
  ends looks progress after reached performs := by
    obtain ⟨device, seen, ended⟩ := soft.ends looks progress after reached performs
    exact ⟨device, seen, follows _ _ _ _ ended⟩
  comes := soft.comes

theorem Setting.soft_of_bounded {setting : Setting R W J} {vigil : Vigil R D} {trip : Trip R D} {runner : Nat}
    {before mover : Option Nat} {spares : Drive R → Prop} {step : Step R} {bound : Duration} {cell sent : Cell R}
    {well : Nat → Progress R → D → Prop} {begun : Schedule W J} (takes : setting.Takes runner step cell begun)
    (bounded : (∀ looks result reached, begun.Performs setting.load setting.cell? setting.table setting.going
      vigil.seen runner
          mover step looks result reached →
        vigil.Soft trip setting.load (setting.load.now begun.world)
        (Duration.due (setting.load.now begun.world) bound) result
          reached) ∧
      ∀ spares, trip.Spared vigil.seen spares → setting.beside begun.world = [] →
        begun.Secluded setting.load setting.motor spares before runner → sent.Ticking →
        ∃ looks result reached, begun.Performs setting.load setting.cell? setting.table setting.going vigil.seen runner mover
          step looks (some result) reached)
    (spared : trip.Spared vigil.seen spares) (ticking : cell.Ticking → sent.Ticking)
    (ends : ∀ now progress after ticks device,
      vigil.Ends trip cell.now (Duration.due cell.now bound) now progress after ticks device → well now progress device) :
    setting.Soft vigil.seen runner before mover spares step (Duration.due cell.now bound) (fun _ => well) begun := by
  obtain ⟨soft, comes⟩ := bounded
  rw [← setting.houses.clock begun.world cell takes.begins.held] at soft
  refine ⟨fun looks reached performs => soft looks none reached performs, fun looks progress after reached performs => ?_,
    fun alone secluded all => comes spares spared alone secluded (ticking (all cell takes.begins.held))⟩
  obtain ⟨ticks, device, ended⟩ := soft looks _ reached performs
  exact ⟨device, ended.seen, ends _ _ _ ticks device ended⟩

omit [Scalar R] in
theorem Vigil.Ends.timely {vigil : Vigil R D} {trip : Trip R D} {since limit now ticks : Nat} {progress : Progress R}
    {after : Cell R} {device : D} (ends : vigil.Ends trip since limit now progress after ticks device)
    (lasts : trip.pace ≠ 0) (meets : ∀ ticks ≤ trip.ticks, vigil.met (trip.stand ticks) = true ↔ ticks = trip.ticks) :
    (max since (tickAt trip.pace trip.start trip.ticks) < limit →
      now = max since (tickAt trip.pace trip.start trip.ticks) ∧ device = trip.stand trip.ticks) ∧
    (limit < tickAt trip.pace trip.start trip.ticks → now = limit ∧ ∃ ticks < trip.ticks,
      tickAt trip.pace trip.start ticks ≤ limit ∧ limit ≤ tickAt trip.pace trip.start (ticks + 1) ∧
        device = vigil.stopped (trip.stand ticks)) := by
  have within := ends.within
  cases met : vigil.met (trip.stand ticks) with
  | true =>
      obtain ⟨exactly, there⟩ := ends.comes met
      rw [(meets ticks ends.bounded).mp met] at exactly there
      exact ⟨fun _ => ⟨exactly, there⟩, fun late => by omega⟩
  | false =>
      have short : ticks < trip.ticks := Nat.lt_of_le_of_ne ends.bounded fun same =>
        Bool.false_ne_true (met.symm.trans ((meets ticks ends.bounded).mpr same))
      obtain ⟨exactly, frozen, past, ahead⟩ := ends.passes met
      have later : tickAt trip.pace trip.start (ticks + 1) ≤ tickAt trip.pace trip.start trip.ticks :=
        (tickAt_mono trip.pace lasts trip.start).monotone short
      have soon := ahead short
      exact ⟨fun early => by omega, fun _ => ⟨exactly, ticks, short, past, soon, frozen⟩⟩

end

section

variable {R : Type} [Scalar R]

def Cell.commanded (traces : Stream Trace) (axes : Bank (Axis R)) (handle : Nat) (moved : Axis R)
    (motion? : Option (AxisMotion R)) (cell : Cell R) : Cell R :=
  { cell with
    traces := traces
    axes := axes.set handle moved
    outbox := cell.outbox ++ .signal (.axis handle) :: motion?.toList.map fun motion => .motion handle motion }

theorem Cell.FindsAxis.ticking {id : String} {cell : Cell R} {handle : Nat} {axis moved : Axis R} {axes : Bank (Axis R)}
    (found : cell.FindsAxis id handle axis axes) (lasts : axis.tick ≠ 0) (movedLasts : moved.tick ≠ 0) (all : cell.Ticking) :
    ∀ other ∈ (axes.set handle moved).slots, other.tick ≠ 0 := by
  intro other member
  rcases List.mem_or_eq_of_mem_set member with old | rfl
  · rcases found.known other old with before | rfl
    · exact all.axes other before
    · exact lasts
  · exact movedLasts

namespace Vigil

variable {label : Label} {device : String} {operation : Operation} {args : List (Arg R)} {cell : Cell R} {handle : Nat}
  {axis moved : Axis R} {axes : Bank (Axis R)} {motion? : Option (AxisMotion R)} {target : R}

omit [Scalar R] in
theorem await_idle_of (call : Call R) {sent : Cell R} {reply : Reply R} {after : Cell R}
    (sameBound : sent.waitBound = cell.waitBound) (awaited : sent.awaitIdle handle (call.bound cell) = (reply, after)) :
    Action.Motion.awaitIdle call handle sent = (.ok reply, after) := by
  have bounds : call.bound sent = call.bound cell := congrArg (fun bound => call.timeout.getD bound) sameBound
  show (Except.ok (sent.awaitIdle handle (call.bound sent)).1, (sent.awaitIdle handle (call.bound sent)).2) = _
  rw [bounds, awaited]

theorem opens_commanded {handler : Handler R} {goal : R} {request : Option R} {homing : Bool}
    (uncut : cell.cancelled = false) (live : cell.live = true)
    (resolved : HandlerTable.standard.resolve cell ⟨device, operation, args, label.policy.timeout⟩ = .ok handler)
    (commanded : axis.command goal request homing = (target, motion?, moved)) (shown : moved.published ≠ axis.published)
    (works : ∀ traces, handler ⟨device, operation, args, label.policy.timeout⟩ { cell with traces := traces } =
      (commandAxis handle axis goal request homing >>= fun _ =>
        Action.Motion.awaitIdle ⟨device, operation, args, label.policy.timeout⟩ handle)
          { cell with traces := traces, axes := axes }) :
    (idle handle).Opens (.action label device operation args) .standard
      (Call.bound ⟨device, operation, args, label.policy.timeout⟩ cell) cell
      (cell.commanded (cell.trace (.action label device operation args) .running 1).traces axes handle moved motion?) := by
  let call : Call R := ⟨device, operation, args, label.policy.timeout⟩
  let traced := cell.trace (.action label device operation args) .running 1
  let sent := cell.commanded traced.traces axes handle moved motion?
  rcases awaited : sent.awaitIdle handle (call.bound cell) with ⟨reply, after⟩
  have worked : handler call traced = (.ok reply, after) := by
    refine (works traced.traces).trans ?_
    rw [Act.bind_apply, command_leaves { cell with traces := traced.traces, axes := axes } handle axis moved goal target
      request homing motion? live commanded shown]
    exact await_idle_of call rfl awaited
  have awaits : (idle handle).await (Call.bound ⟨device, operation, args, label.policy.timeout⟩ cell)
      (cell.commanded (cell.trace (.action label device operation args) .running 1).traces axes handle moved motion?) =
        (reply, after) := awaited
  rw [Opens, Step.start_action label device operation args .standard cell after handler reply uncut resolved worked, awaits]
  cases reply with
  | value value => rfl
  | waiting wait => rfl

theorem opens_move {goal : R} {request : Option R} (uncut : cell.cancelled = false) (live : cell.live = true)
    (resolved : HandlerTable.standard.resolve cell ⟨device, operation, args, label.policy.timeout⟩ =
      .ok Action.Motion.moveToAndWait)
    (commanded : axis.command goal request false = (target, motion?, moved)) (shown : moved.published ≠ axis.published)
    (found : Cell.FindsAxis device cell handle axis axes)
    (aimed : Call.target ⟨device, operation, args, label.policy.timeout⟩ 0 axis.state.position = .ok goal)
    (asked : Call.number? ⟨device, operation, args, label.policy.timeout⟩ 1 "speed" = .ok request)
    (sensible : Scalar.isFinite goal = true) :
    (idle handle).Opens (.action label device operation args) .standard
      (Call.bound ⟨device, operation, args, label.policy.timeout⟩ cell) cell
      (cell.commanded (cell.trace (.action label device operation args) .running 1).traces axes handle moved motion?) := by
  refine opens_commanded uncut live resolved commanded shown fun traces => ?_
  simp only [Action.Motion.moveToAndWait, Action.Motion.command, bind_assoc]
  rw [Act.bind_apply, found.finds traces]
  dsimp only
  rw [Act.read_bind_apply _ _ goal aimed, Act.read_bind_apply _ _ request asked, move_is_command handle axis goal request
    sensible]
  rfl

theorem opens_home (uncut : cell.cancelled = false) (live : cell.live = true)
    (resolved : HandlerTable.standard.resolve cell ⟨device, operation, args, label.policy.timeout⟩ = .ok Action.Motion.home)
    (commanded : axis.command axis.homeTarget none true = (target, motion?, moved))
    (shown : moved.published ≠ axis.published) (found : Cell.FindsAxis device cell handle axis axes) :
    (idle handle).Opens (.action label device operation args) .standard
      (Call.bound ⟨device, operation, args, label.policy.timeout⟩ cell) cell
      (cell.commanded (cell.trace (.action label device operation args) .running 1).traces axes handle moved motion?) := by
  refine opens_commanded uncut live resolved commanded shown fun traces => ?_
  rw [Action.Motion.home, Act.bind_apply, found.finds traces]
  rfl

end Vigil

theorem Leg.of_command (exact : Scalar.Exact R) (timed : exact.Timed) (axis : Axis R)
    (valid : axis.spec.validate = .ok ()) (lasts : axis.tick ≠ 0) (low high own p q : Rat)
    (lower : axis.spec.min = exact.of low) (upper : axis.spec.max = exact.of high) (fast : axis.spec.maxSpeed = exact.of own)
    (position : axis.state.position = exact.of p) (request : Option R) (homing : Bool) :
    ∃ v, Effective exact own request v ∧
      let leg : Leg := ⟨p, max low (min q high), v * ((axis.tick : Rat) / 1000000000)⟩
      0 < v ∧ 0 < leg.step ∧ axis.command (exact.of q) request homing = (exact.of leg.target,
        if leg.start = leg.target then none
        else some ⟨axis.generation + 1, exact.of leg.target, exact.of leg.step, homing⟩,
        axis.publish (leg.state exact axis.state.homed homing 0) (axis.generation + 1)) := by
  obtain ⟨range, positive⟩ := Travel.limits_of_valid axis.spec valid
  have ordered : low ≤ high := ((exact.lt low high).mp (lower ▸ upper ▸ range)).le
  have speedy : 0 < own := (exact.lt 0 own).mp (exact.zero ▸ fast ▸ positive)
  obtain ⟨v, effective, above, speed⟩ := speed_effective exact axis own fast speedy request
  refine ⟨v, effective, ?_⟩
  intro leg
  have moves : 0 < leg.step := by
    have counts : 0 < axis.tick := Nat.pos_of_ne_zero lasts
    have spans : (0 : Rat) < axis.tick := by exact_mod_cast counts
    exact mul_pos above (div_pos spans (by norm_num))
  have clamped : (axis.spec.clamp? (exact.of q)).getD (exact.of q) = exact.of leg.target := by
    rw [clamp_exact exact axis.spec low high q lower upper ordered, Option.getD_some]
  have step : axis.speed request * Scalar.seconds axis.tick = exact.of leg.step := by rw [speed, timed, exact.mul]
  exact ⟨above, moves, leg.command_state exact axis (exact.of q) request homing clamped position step moves⟩

def Drive.LeavesAxis (handle generation : Nat) : Drive R → Prop
  | .axis other motion => other = handle → motion.generation ≠ generation
  | .actuator .. => True

theorem Leg.trip_spared (exact : Scalar.Exact R) (leg : Leg) (homed homing : Bool) (axis : Axis R) (handle start : Nat) :
    (leg.trip exact homed homing axis handle start).Spared (fun cell => cell.axes.get? handle)
      (Drive.LeavesAxis handle axis.generation) where
  begun now drive spares := by
    cases drive with
    | axis other motion => exact spares
    | actuator other stroke began => exact spares
  issued _ _ := rfl
  still cell drive done after ticks spares there stepped := by
    cases drive with
    | actuator other stroke began =>
        obtain ⟨actuator, -, later⟩ := Option.bind_eq_some_iff.mp stepped
        obtain ⟨moved, -, same⟩ := Option.bind_eq_some_iff.mp later
        cases same
        rfl
    | axis other motion =>
        obtain ⟨found, isFound, later⟩ := Option.bind_eq_some_iff.mp stepped
        obtain ⟨⟨moved, last⟩, ticked, same⟩ := Option.bind_eq_some_iff.mp later
        cases same
        by_cases own : other = handle
        · subst own
          -- The axis is of the generation of its trip, so a motion of another one has no tick.
          have other : ¬ found.generation = motion.generation := by
            rw [Option.some.inj (isFound.symm.trans there)]
            exact fun same => spares rfl same.symm
          rw [AxisMotion.tick?, if_neg other] at ticked
          cases ticked
        · show (cell.axes.set other moved).get? handle = cell.axes.get? handle
          simp [Bank.get?, Bank.set, List.getElem?_set_ne own]

-- How a wait ends for an axis that has a leg of its way before it since the wait began.
structure Leg.Waited (exact : Scalar.Exact R) (leg : Leg) (homed homing : Bool) (tick : Duration) (since limit now : Nat)
    (progress : Progress R) (axis : Axis R) : Prop where
  returns : progress = .done (.number axis.state.position)
  within : now ≤ limit
  idle : axis.state.moving = false
  arrives : tickAt tick since leg.ticks < limit → now = tickAt tick since leg.ticks ∧
    axis.state = ⟨exact.of leg.target, exact.of leg.target, false, homed || homing⟩
  frozen : limit < tickAt tick since leg.ticks → now = limit ∧ ∃ ticks < leg.ticks,
    tickAt tick since ticks ≤ limit ∧ limit ≤ tickAt tick since (ticks + 1) ∧
      axis.state = ⟨exact.of (leg.place ticks), exact.of leg.target, false, homed && !homing⟩

omit [Scalar R] in
theorem Axis.stop_idle (axis : Axis R) : axis.stop.state.moving = false := by
  unfold stop
  split
  · rfl
  · rename_i still
    exact Bool.eq_false_iff.mpr still

theorem Leg.waited_of_ends {exact : Scalar.Exact R} {leg : Leg} {homed homing : Bool} {moved axis : Axis R}
    {handle since limit now ticks : Nat} {progress : Progress R} {after : Cell R} (lasts : moved.tick ≠ 0)
    (ends : (Vigil.idle handle).Ends (leg.trip exact homed homing moved handle since) since limit now progress after ticks
      axis) : leg.Waited exact homed homing moved.tick since limit now progress axis := by
  have meets : ∀ ticks ≤ leg.ticks, (Vigil.idle handle : Vigil R (Axis R)).met
    (moved.along exact leg homed homing ticks) = true ↔
      ticks = leg.ticks := by
    intro ticks bounded
    show (!decide (ticks < leg.ticks)) = true ↔ _
    rw [Bool.not_eq_true', decide_eq_false_iff_not]
    omega
  have begins : since ≤ tickAt moved.tick since leg.ticks :=
    (tickAt_mono moved.tick lasts since).monotone (Nat.zero_le leg.ticks)
  obtain ⟨early, late⟩ := ends.timely lasts meets
  refine ⟨ends.done, ends.within, ?_, fun short => ?_, fun long => ?_⟩
  · cases met : (Vigil.idle handle : Vigil R (Axis R)).met (moved.along exact leg homed homing ticks) with
    | true =>
        rw [(ends.comes met).2]
        exact (Bool.not_eq_true' _).mp met
    | false =>
        rw [(ends.passes met).2.1]
        exact Axis.stop_idle _
  · obtain ⟨exactly, there⟩ := early ((max_eq_right begins).trans_lt short)
    refine ⟨exactly.trans (max_eq_right begins), ?_⟩
    rw [there]
    show leg.state exact homed homing leg.ticks = _
    simp [Leg.state, Leg.place]
  · obtain ⟨exactly, ticks, under, past, ahead, there⟩ := late long
    refine ⟨exactly, ticks, under, past, ahead, ?_⟩
    have short : ticks < leg.ticks := under
    rw [there]
    show (moved.along exact leg homed homing ticks).stop.state = _
    simp [Axis.stop, Axis.along, Axis.publish, Leg.state, short]

theorem Leg.soft {W J : Type} (exact : Scalar.Exact R) (leg : Leg) (moves : 0 < leg.step) {homing : Bool} {axis : Axis R}
    (lasts : axis.tick ≠ 0) {setting : Setting R W J} {runner handle : Nat} {step : Step R} {cell : Cell R}
    {begun : Schedule W J} {device : String} {axes : Bank (Axis R)} {bound : Duration}
    (takes : setting.Takes runner step cell begun) (found : Cell.FindsAxis device cell handle axis axes)
    (traces : Stream Trace) {motion? : Option (AxisMotion R)}
    (motion : motion? = if leg.start = leg.target then none
      else some ⟨axis.generation + 1, exact.of leg.target, exact.of leg.step, homing⟩)
    (opens : (Vigil.idle handle).Opens step .standard bound cell
      (cell.commanded traces axes handle (axis.publish (leg.state exact axis.state.homed homing 0) (axis.generation + 1))
        motion?)) :
    setting.Soft (fun cell => cell.axes.get? handle) runner none (some (begun.next + (setting.beside begun.world).length))
      (Drive.LeavesAxis handle (axis.generation + 1)) step (Duration.due cell.now bound)
      (fun _ => leg.Waited exact axis.state.homed homing axis.tick cell.now (Duration.due cell.now bound)) begun := by
  let moved := axis.publish (leg.state exact axis.state.homed homing 0) (axis.generation + 1)
  let trip := leg.trip exact axis.state.homed homing moved handle cell.now
  have paced : moved.tick ≠ 0 := lasts
  have there : (axes.set handle moved).get? handle = some (trip.stand 0) := Bank.get_set found.there moved
  have goes : (Vigil.idle handle : Vigil R (Axis R)).met (trip.stand 0) = false → 0 < trip.ticks ∧ ∃ alert way,
      (cell.commanded traces axes handle moved motion?).outbox = [.signal alert, way] ∧
        way.request setting.motor = .begin (setting.motor ⟨trip.drive, none⟩) := by
    intro unmet
    have going : 0 < leg.ticks := by
      have away : (!decide (0 < leg.ticks)) = false := unmet
      simpa using away
    have away : ¬ leg.start = leg.target := fun same => going.ne' ((Leg.ticks_eq_zero_iff moves).mpr same)
    refine ⟨going, .axis handle, .motion handle (leg.motion exact homing moved), ?_, rfl⟩
    show cell.outbox ++ _ = _
    rw [takes.quiet, motion, if_neg away]
    rfl
  have ticking : cell.Ticking → (cell.commanded traces axes handle moved motion?).Ticking :=
    fun all => ⟨found.ticking lasts paced all, all.actuators⟩
  have lawful : trip.Lawful _ _ := leg.trip_lawful moves paced
  have isOpen : (Vigil.idle handle).Opens step (setting.table begun.world) bound cell
      (cell.commanded traces axes handle moved motion?) := takes.standard.symm ▸ opens
  obtain ⟨soft, comes⟩ := Vigil.sent_bounded (Vigil.idle_lawful handle) lawful setting.houses setting.carries
    takes.begins isOpen
    rfl takes.uncut there rfl goes
  have well : ∀ now progress after ticks device,
      (Vigil.idle handle).Ends trip cell.now (Duration.due cell.now bound) now progress after ticks device →
      leg.Waited exact axis.state.homed homing moved.tick cell.now (Duration.due cell.now bound) now progress device :=
    fun _ _ _ _ _ ends => Leg.waited_of_ends paced ends
  refine setting.soft_of_bounded takes ⟨soft, fun spares spared alone => ?_⟩
    (leg.trip_spared exact axis.state.homed homing moved handle cell.now) ticking well
  rw [alone]
  exact comes spares spared alone

end

end Workcell

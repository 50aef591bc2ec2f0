import Workcell.Proofs.Awaiting.Axes

/-!
Actuators that are fired and waited for, or only waited for: the wait is for a stroke, one that has just been begun or one
that was on its way before, or for an actuator that stays as it is.
-/

set_option autoImplicit false

namespace Workcell

section

variable {R : Type} [Scalar R]

def Cell.fired (traces : Stream Trace) (actuators : Bank (Actuator R)) (handle : Nat) (fired : Actuator R)
    (stroke? : Option (Stroke R)) (cell : Cell R) : Cell R :=
  { cell with
    traces := traces
    actuators := actuators.set handle fired
    outbox := cell.outbox ++ .signal (.actuator handle) :: stroke?.toList.map fun stroke => .stroke handle stroke }

theorem Cell.FindsActuator.lasting {id : String} {cell : Cell R} {handle : Nat} {actuator : Actuator R}
    {actuators : Bank (Actuator R)} (found : cell.FindsActuator id handle actuator actuators) (lasts : actuator.tick ≠ 0)
    (all : cell.Ticking) : ∀ other ∈ actuators.slots, other.tick ≠ 0 := by
  intro other member
  rcases found.known other member with before | rfl
  · exact all.actuators other before
  · exact lasts

theorem Cell.FindsActuator.ticking {id : String} {cell : Cell R} {handle : Nat} {actuator moved : Actuator R}
    {actuators : Bank (Actuator R)} (found : cell.FindsActuator id handle actuator actuators) (lasts : actuator.tick ≠ 0)
    (movedLasts : moved.tick ≠ 0) (all : cell.Ticking) :
    ∀ other ∈ (actuators.set handle moved).slots, other.tick ≠ 0 := by
  intro other member
  rcases List.mem_or_eq_of_mem_set member with old | rfl
  · exact found.lasting lasts all other old
  · exact movedLasts

namespace Vigil

variable {label : Label} {device : String} {operation : Operation} {args : List (Arg R)} {cell sent : Cell R}
  {handle : Nat} {actuator fired : Actuator R} {actuators : Bank (Actuator R)} {stroke? : Option (Stroke R)} {on : Bool}

omit [Scalar R] in
theorem await_settled_of (call : Call R) {reply : Reply R} {after : Cell R} (sameBound : sent.waitBound = cell.waitBound)
    (awaited : sent.awaitSettled handle on (call.bound cell) = (reply, after)) :
    Action.Switching.awaitSettled call handle on sent = (.ok reply, after) := by
  have bounds : call.bound sent = call.bound cell := congrArg (fun bound => call.timeout.getD bound) sameBound
  show (Except.ok (sent.awaitSettled handle on (call.bound sent)).1, (sent.awaitSettled handle on (call.bound sent)).2) = _
  rw [bounds, awaited]

theorem opens_settled {handler : Handler R} (uncut : cell.cancelled = false)
    (resolved : HandlerTable.standard.resolve cell ⟨device, operation, args, label.policy.timeout⟩ = .ok handler)
    (sameBound : sent.waitBound = cell.waitBound)
    (works : handler ⟨device, operation, args, label.policy.timeout⟩
        (cell.trace (.action label device operation args) .running 1) =
      Action.Switching.awaitSettled ⟨device, operation, args, label.policy.timeout⟩ handle on sent) :
    (settled handle on).Opens (.action label device operation args) .standard
      (Call.bound ⟨device, operation, args, label.policy.timeout⟩ cell) cell sent := by
  let call : Call R := ⟨device, operation, args, label.policy.timeout⟩
  rcases awaited : sent.awaitSettled handle on (call.bound cell) with ⟨reply, after⟩
  have worked : handler call (cell.trace (.action label device operation args) .running 1) = (.ok reply, after) :=
    works.trans (await_settled_of call sameBound awaited)
  have awaits : (settled handle on).await (Call.bound ⟨device, operation, args, label.policy.timeout⟩ cell) sent =
      (reply, after) := awaited
  rw [Opens, Step.start_action label device operation args .standard cell after handler reply uncut resolved worked, awaits]
  cases reply with
  | value value => rfl
  | waiting wait => rfl

theorem opens_fire (uncut : cell.cancelled = false) (live : cell.live = true)
    (resolved : HandlerTable.standard.resolve cell ⟨device, operation, args, label.policy.timeout⟩ =
      .ok Action.Switching.fireAndWait)
    (fires : actuator.fire on = (stroke?, fired)) (found : Cell.FindsActuator device cell handle actuator actuators)
    (asked : Call.flag ⟨device, operation, args, label.policy.timeout⟩ 0 "state" = .ok on) :
    (settled handle on).Opens (.action label device operation args) .standard
      (Call.bound ⟨device, operation, args, label.policy.timeout⟩ cell) cell
      (cell.fired (cell.trace (.action label device operation args) .running 1).traces actuators handle fired stroke?) := by
  let traces := (cell.trace (.action label device operation args) .running 1).traces
  refine opens_settled uncut resolved rfl ?_
  show Action.Switching.fireAndWait _ { cell with traces := traces } = _
  simp only [Action.Switching.fireAndWait, Action.Switching.command, bind_assoc]
  rw [Act.bind_apply, found.finds traces]
  dsimp only
  rw [Act.read_bind_apply _ _ on asked, Act.bind_apply,
    fire_leaves { cell with traces := traces, actuators := actuators } handle actuator fired on stroke? live fires]
  rfl

theorem opens_wait (uncut : cell.cancelled = false)
    (resolved : HandlerTable.standard.resolve cell ⟨device, operation, args, label.policy.timeout⟩ =
      .ok Action.Switching.waitFor)
    (found : Cell.FindsActuator device cell handle actuator actuators)
    (asked : Call.flag ⟨device, operation, args, label.policy.timeout⟩ 0 "state" = .ok on) :
    (settled handle on).Opens (.action label device operation args) .standard
      (Call.bound ⟨device, operation, args, label.policy.timeout⟩ cell) cell
      { cell with
        traces := (cell.trace (.action label device operation args) .running 1).traces
        actuators := actuators } := by
  let traces := (cell.trace (.action label device operation args) .running 1).traces
  refine opens_settled uncut resolved rfl ?_
  show Action.Switching.waitFor _ { cell with traces := traces } = _
  rw [Action.Switching.waitFor, Act.bind_apply, found.finds traces]
  dsimp only
  rw [Act.read_bind_apply _ _ on asked]

end Vigil

-- Drives that do not move an actuator of this generation.
def Drive.LeavesActuator (handle generation : Nat) : Drive R → Prop
  | .axis .. => True
  | .actuator other stroke _ => other = handle → stroke.generation ≠ generation

theorem Trip.spared_of_generation (trip : Trip R (Actuator R)) (handle generation : Nat)
    (same : ∀ ticks, (trip.stand ticks).generation = generation) :
    trip.Spared (fun cell => cell.actuators.get? handle) (Drive.LeavesActuator handle generation) where
  begun now drive spares := by
    cases drive with
    | axis other motion => exact spares
    | actuator other stroke began => exact spares
  issued _ _ := rfl
  still cell drive done after ticks spares there stepped := by
    cases drive with
    | axis other motion =>
        obtain ⟨axis, -, later⟩ := Option.bind_eq_some_iff.mp stepped
        obtain ⟨moved, -, same⟩ := Option.bind_eq_some_iff.mp later
        cases same
        rfl
    | actuator other stroke began =>
        obtain ⟨found, isFound, later⟩ := Option.bind_eq_some_iff.mp stepped
        obtain ⟨⟨moved, last⟩, ticked, isAfter⟩ := Option.bind_eq_some_iff.mp later
        cases isAfter
        by_cases own : other = handle
        · subst own
          have older : ¬ found.generation = stroke.generation := by
            rw [Option.some.inj (isFound.symm.trans there), same]
            exact fun same => spares rfl same.symm
          rw [Stroke.tick?, if_neg older] at ticked
          cases ticked
        · show (cell.actuators.set other moved).get? handle = cell.actuators.get? handle
          simp [Bank.get?, Bank.set, List.getElem?_set_ne own]

omit [Scalar R] in
theorem Actuator.stop_state (actuator : Actuator R) : actuator.stop.state =
    ⟨actuator.state.on, actuator.state.commanded, false, actuator.state.position⟩ := by
  unfold stop
  dsimp only
  split
  · rfl
  · rename_i still
    obtain ⟨spec, tick, ⟨on, commanded, changing, position⟩, generation, published⟩ := actuator
    cases changing with
    | false => rfl
    | true => exact absurd rfl still

-- How a wait ends for an actuator that stays as it is: at once where it is settled, and else at the limit.
structure Actuator.Rested (state : ActuatorState R) (on : Bool) (since limit now : Nat) (progress : Progress R)
    (actuator : Actuator R) : Prop where
  returns : progress = .done (.bool (actuator.state.settledAt true))
  within : now ≤ limit
  stays : actuator.state = state
  settles : state.settledAt on = true → now = since
  lapses : state.settledAt on = false → now = limit

def Actuator.rest (actuator : Actuator R) (handle start : Nat) : Trip R (Actuator R) :=
  ⟨.actuator handle ⟨actuator.generation, actuator.state.on, actuator.state.position, actuator.state.position, 0⟩ 0, start,
    actuator.tick, 0,
    fun ticks => ⟨actuator.spec, actuator.tick, actuator.state, actuator.generation, actuator.published + ticks⟩⟩

theorem Actuator.rest_lawful (actuator : Actuator R) (lasts : actuator.tick ≠ 0) (handle start : Nat) :
    (actuator.rest handle start).Lawful (fun cell => cell.actuators.get? handle) (.actuator handle) where
  lasts := lasts
  own _ _ := rfl
  paced cell ticks there := by
    show ((cell.actuators.get? handle).map Actuator.tick).getD 0 = actuator.tick
    rw [there]
    rfl
  goes cell ticks short := absurd short (Nat.not_lt_zero ticks)
  differs ticks := by
    intro same
    have published := congrArg Actuator.published same
    simp only [rest] at published
    omega

omit [Scalar R] in
theorem Actuator.rested_of_ends {actuator left : Actuator R} {on : Bool} {handle since limit now ticks : Nat}
    {progress : Progress R} {after : Cell R} (still : actuator.state.changing = false)
    (ends : (Vigil.settled handle on).Ends (actuator.rest handle since) since limit now progress after ticks left) :
    Actuator.Rested actuator.state on since limit now progress left := by
  obtain rfl : ticks = 0 := Nat.le_zero.mp ends.bounded
  cases met : actuator.state.settledAt on with
  | true =>
      obtain ⟨exactly, there⟩ := ends.comes met
      subst there
      exact ⟨ends.done, ends.within, rfl, fun _ => exactly.trans (max_self since), fun unmet =>
        absurd (met.symm.trans unmet) (by decide)⟩
  | false =>
      obtain ⟨exactly, there, -⟩ := ends.passes met
      subst there
      refine ⟨ends.done, ends.within, ?_, fun isMet => absurd (met.symm.trans isMet) (by decide), fun _ => exactly⟩
      show Actuator.state (Actuator.stop _) = _
      rw [Actuator.stop_state]
      show (⟨actuator.state.on, actuator.state.commanded, false, actuator.state.position⟩ : ActuatorState R) = _
      rw [← still]

theorem Actuator.rest_soft {W J : Type} {actuator : Actuator R} (lasts : actuator.tick ≠ 0)
    (still : actuator.state.changing = false) {on : Bool} {setting : Setting R W J} {runner handle : Nat} {step : Step R}
    {cell sent : Cell R} {begun : Schedule W J} {bound : Duration} (takes : setting.Takes runner step cell begun)
    (there : sent.actuators.get? handle = some actuator) (now : sent.now = cell.now) (uncut : sent.cancelled = false)
    (quiet : actuator.state.settledAt on = false → sent.outbox = []) (ticking : cell.Ticking → sent.Ticking)
    (opens : (Vigil.settled handle on).Opens step .standard bound cell sent) :
    setting.Soft (fun cell => cell.actuators.get? handle) runner none none
      (Drive.LeavesActuator handle actuator.generation) step (Duration.due cell.now bound)
      (fun _ => Actuator.Rested actuator.state on cell.now (Duration.due cell.now bound)) begun := by
  let trip := actuator.rest handle cell.now
  have lawful : trip.Lawful _ _ := actuator.rest_lawful lasts handle cell.now
  have isOpen : (Vigil.settled handle on).Opens step (setting.table begun.world) bound cell sent :=
    takes.standard.symm ▸ opens
  have stands : (Vigil.settled handle on).seen sent = some (trip.stand 0) := there
  have bounded := Vigil.resting_bounded (Vigil.settled_lawful handle on) lawful setting.houses setting.carries takes.begins
    isOpen now uncut stands rfl rfl quiet
  have spared := trip.spared_of_generation handle actuator.generation fun _ => rfl
  exact setting.soft_of_bounded takes bounded spared ticking fun _ _ _ _ _ ends => Actuator.rested_of_ends still ends

end

-- How a wait for a state ends for an actuator on a stroke: the stroke brings it there in time, or it is stopped at
-- the limit where the last tick by then has brought it.
structure Stroke.Waited (stroke : Stroke Rat) (was on : Bool) (tick : Duration) (lasts : tick ≠ 0) (start limit now : Nat)
    (progress : Progress Rat) (actuator : Actuator Rat) : Prop where
  returns : progress = .done (.bool (actuator.state.settledAt true))
  within : now ≤ limit
  idle : actuator.state.changing = false
  settles : stroke.on = on → tickAt tick start (stroke.ticks tick lasts start) < limit →
    now = tickAt tick start (stroke.ticks tick lasts start) ∧ actuator.state = ⟨on, on, false, stroke.target⟩
  frozen : (stroke.on = on → limit < tickAt tick start (stroke.ticks tick lasts start)) → now = limit ∧
    ∃ ticks ≤ stroke.ticks tick lasts start, tickAt tick start ticks ≤ limit ∧
      (ticks < stroke.ticks tick lasts start → limit ≤ tickAt tick start (ticks + 1)) ∧
      actuator.state = ⟨(stroke.shows was (elapsedAt tick start ticks)).on, stroke.on, false,
        (stroke.shows was (elapsedAt tick start ticks)).position⟩

namespace Stroke

variable {stroke : Stroke Rat} {fired actuator : Actuator Rat} {on : Bool}

theorem shows_commanded (stroke : Stroke Rat) (was : Bool) (elapsed : Duration) :
    (stroke.shows was elapsed).commanded = stroke.on := by
  unfold shows
  split
  · rfl
  · rfl

theorem settled_iff (lasts : fired.tick ≠ 0) (begun : Nat) (ticks : Nat)
    (bounded : ticks ≤ stroke.ticks fired.tick lasts begun) :
    (stroke.along fired begun ticks).state.settledAt on = true ↔ stroke.on = on ∧
    ticks = stroke.ticks fired.tick lasts begun := by
  show (stroke.shows fired.state.on (elapsedAt fired.tick begun ticks)).settledAt on = true ↔ _
  have short : ticks < stroke.ticks fired.tick lasts begun ↔ elapsedAt fired.tick begun ticks < stroke.time :=
    lt_ticks_iff fired.tick lasts begun ticks
  unfold shows
  by_cases going : elapsedAt fired.tick begun ticks < stroke.time
  · have less := short.mpr going
    rw [if_pos going]
    refine iff_of_false (by simp [ActuatorState.settledAt]) fun both => ?_
    omega
  · have last : ticks = stroke.ticks fired.tick lasts begun := Nat.le_antisymm bounded (Nat.not_lt.mp (mt short.mp going))
    rw [if_neg going]
    simp [ActuatorState.settledAt, last]

theorem waited_of_ends {handle start since limit now ticks : Nat} {progress : Progress Rat} {after : Cell Rat}
    (lasts : fired.tick ≠ 0) (begins : since ≤ tickAt fired.tick start (stroke.ticks fired.tick lasts start))
    (ends : (Vigil.settled handle on).Ends (stroke.trip fired lasts handle start) since limit now progress after ticks
      actuator) : stroke.Waited fired.state.on on fired.tick lasts start limit now progress actuator := by
  have stopped : ∀ ticks, (stroke.along fired start ticks).stop.state =
      ⟨(stroke.shows fired.state.on (elapsedAt fired.tick start ticks)).on, stroke.on, false,
        (stroke.shows fired.state.on (elapsedAt fired.tick start ticks)).position⟩ := by
    intro ticks
    rw [Actuator.stop_state]
    show (⟨_, (stroke.shows fired.state.on (elapsedAt fired.tick start ticks)).commanded, _, _⟩ : ActuatorState Rat) = _
    rw [shows_commanded]
    rfl
  refine ⟨ends.done, ends.within, ?_, fun leads short => ?_, fun long => ?_⟩
  · cases met : (stroke.along fired start ticks).state.settledAt on with
    | true =>
        have rests := (ends.comes met).2
        have settled : (!actuator.state.changing && actuator.state.on == on && actuator.state.commanded == on) = true :=
          rests.symm ▸ met
        simp only [Bool.and_eq_true, Bool.not_eq_true'] at settled
        exact settled.1.1
    | false =>
        rw [(ends.passes met).2.1]
        exact congrArg ActuatorState.changing (stopped ticks)
  · have meets : ∀ ticks ≤ stroke.ticks fired.tick lasts start,
        (Vigil.settled handle on).met (stroke.along fired start ticks) = true ↔
        ticks = stroke.ticks fired.tick lasts start :=
      fun ticks bounded => (settled_iff lasts start ticks bounded).trans (and_iff_right leads)
    obtain ⟨exactly, there⟩ := (ends.timely lasts meets).1 ((max_eq_right begins).trans_lt short)
    refine ⟨exactly.trans (max_eq_right begins), ?_⟩
    have last : ¬ elapsedAt fired.tick start (stroke.ticks fired.tick lasts start) < stroke.time :=
      mt (lt_ticks_iff fired.tick lasts start _).mpr (lt_irrefl _)
    rw [there]
    show stroke.shows fired.state.on (elapsedAt fired.tick start (stroke.ticks fired.tick lasts start)) = _
    rw [shows, if_neg last, leads]
  · by_cases leads : stroke.on = on
    · have meets : ∀ ticks ≤ stroke.ticks fired.tick lasts start,
          (Vigil.settled handle on).met (stroke.along fired start ticks) = true ↔
          ticks = stroke.ticks fired.tick lasts start :=
        fun ticks bounded => (settled_iff lasts start ticks bounded).trans (and_iff_right leads)
      obtain ⟨exactly, ticks, under, past, ahead, there⟩ := (ends.timely lasts meets).2 (long leads)
      refine ⟨exactly, ticks, Nat.le_of_lt under, past, fun _ => ahead, ?_⟩
      rw [there]
      exact stopped ticks
    · have unmet : (Vigil.settled handle on).met ((stroke.trip fired lasts handle start).stand ticks) = false :=
        Bool.eq_false_iff.mpr fun met => leads ((settled_iff lasts start ticks ends.bounded).mp met).1
      obtain ⟨exactly, there, past, ahead⟩ := ends.passes unmet
      refine ⟨exactly, ticks, ends.bounded, past, ahead, ?_⟩
      rw [there]
      exact stopped ticks

section

variable {W J : Type} {setting : Setting Rat W J} {runner handle : Nat} {step : Step Rat} {cell sent : Cell Rat}
  {begun : Schedule W J} {bound : Duration}

theorem sent_soft (lasts : fired.tick ≠ 0) (took : stroke.time ≠ 0) (own : fired.generation = stroke.generation)
    (began : fired.state = stroke.shows fired.state.on 0) (takes : setting.Takes runner step cell begun)
    (there : sent.actuators.get? handle = some fired) (now : sent.now = cell.now) (uncut : sent.cancelled = false)
    (outbox : sent.outbox = [.signal (.actuator handle), .stroke handle stroke]) (ticking : cell.Ticking → sent.Ticking)
    (opens : (Vigil.settled handle on).Opens step .standard bound cell sent) :
    setting.Soft (fun cell => cell.actuators.get? handle) runner none
      (some (begun.next + (setting.beside begun.world).length)) (Drive.LeavesActuator handle fired.generation) step
      (Duration.due cell.now bound)
      (fun _ => stroke.Waited fired.state.on on fired.tick lasts cell.now (Duration.due cell.now bound)) begun := by
  let trip := stroke.trip fired lasts handle cell.now
  have lawful : trip.Lawful _ _ := stroke.trip_lawful fired lasts handle cell.now took own
  have isOpen : (Vigil.settled handle on).Opens step (setting.table begun.world) bound cell sent :=
    takes.standard.symm ▸ opens
  have stands : (Vigil.settled handle on).seen sent = some (trip.stand 0) :=
    there.trans (congrArg some (stroke.along_zero fired began cell.now).symm)
  have far : 0 < stroke.ticks fired.tick lasts cell.now := by
    rw [lt_ticks_iff, elapsedAt, tickAt, Nat.sub_self]
    exact Nat.pos_of_ne_zero took
  have begins : cell.now ≤ tickAt fired.tick cell.now (stroke.ticks fired.tick lasts cell.now) :=
    (tickAt_mono fired.tick lasts cell.now).monotone (Nat.zero_le _)
  obtain ⟨soft, comes⟩ := Vigil.sent_bounded (Vigil.settled_lawful handle on) lawful setting.houses setting.carries
    takes.begins isOpen now uncut stands rfl fun _ => ⟨far, _, _, outbox, rfl⟩
  have spared := trip.spared_of_generation handle fired.generation (stroke.trip_generation fired lasts handle cell.now)
  refine setting.soft_of_bounded takes ⟨soft, fun spares spared alone => ?_⟩ spared ticking
    fun _ _ _ _ _ ends => waited_of_ends lasts begins ends
  rw [alone]
  exact comes spares spared alone

theorem standing_soft (lasts : fired.tick ≠ 0) (took : stroke.time ≠ 0) (own : fired.generation = stroke.generation)
    {mover : Option Nat} {start first : Nat} (short : first < stroke.ticks fired.tick lasts start)
    (underway : (stroke.trip fired lasts handle start).Underway setting.load (Workload.shownActuator setting.cell? handle)
      setting.motor mover first begun)
    (past : tickAt fired.tick start first ≤ cell.now) (takes : setting.Takes runner step cell begun)
    (same : sent.actuators.get? handle = cell.actuators.get? handle) (now : sent.now = cell.now)
    (uncut : sent.cancelled = false) (quiet : sent.outbox = []) (ticking : cell.Ticking → sent.Ticking)
    (opens : (Vigil.settled handle on).Opens step .standard bound cell sent) :
    setting.Soft (fun cell => cell.actuators.get? handle) runner mover mover
      (Drive.LeavesActuator handle fired.generation) step (Duration.due cell.now bound)
      (fun _ => stroke.Waited fired.state.on on fired.tick lasts start (Duration.due cell.now bound)) begun := by
  let trip := stroke.trip fired lasts handle start
  have clock := setting.houses.clock begun.world cell takes.begins.held
  have lawful : trip.Lawful (Vigil.settled handle on).seen (.actuator handle) :=
    stroke.trip_lawful fired lasts handle start took own
  have isOpen : (Vigil.settled handle on).Opens step (setting.table begun.world) bound cell sent :=
    takes.standard.symm ▸ opens
  have isUnderway : trip.Underway setting.load (fun world => (setting.cell? world).bind (Vigil.settled handle on).seen)
      setting.motor mover first begun := underway
  have begins : cell.now ≤ tickAt fired.tick start (stroke.ticks fired.tick lasts start) := by
    have ahead : setting.load.now begun.world ≤ tickAt fired.tick start (first + 1) :=
      (underway.ahead lawful (setting.houses.shows _ fun _ _ => rfl) short).1
    rw [clock]
    exact ahead.trans ((tickAt_mono fired.tick lasts start).monotone short)
  have bounded := Vigil.standing_bounded (Vigil.settled_lawful handle on) lawful setting.houses setting.carries takes.begins
    isOpen now uncut same quiet isUnderway (clock ▸ past)
  have spared := trip.spared_of_generation handle fired.generation (stroke.trip_generation fired lasts handle start)
  exact setting.soft_of_bounded takes bounded spared ticking fun _ _ _ _ _ ends => waited_of_ends lasts begins ends

end

end Stroke

end Workcell

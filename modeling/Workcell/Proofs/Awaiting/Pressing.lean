import Workcell.Proofs.Awaiting.Probing

/-!
Axes that move until the process value has reached a threshold: where they come to stand, and how deep they press.
-/

set_option autoImplicit false

namespace Workcell

section

variable {R : Type} [Scalar R] {label : Label} {device : String} {args : List (Arg R)} {cell : Cell R} {handle : Nat}
  {axis moved : Axis R} {axes : Bank (Axis R)} {motion? : Option (AxisMotion R)} {target goal threshold : R}
  {request : Option R}

structure Call.Asks (call : Call R) (axis : Axis R) (contact : Contact R) (goal threshold : R) (request : Option R) :
    Prop where
  model : axis.contact = some contact
  aimed : call.target 0 axis.state.position = .ok goal
  limited : call.number 1 "threshold" = .ok threshold
  asked : call.number? 2 "speed" = .ok request
  sensible : Scalar.isFinite goal = true

-- The work of the first turn up to where it looks at the clock.
theorem moveUntil_commands {contact : Contact R} {call : Call R} (asks : call.Asks axis contact goal threshold request)
    (live : cell.live = true) (commanded : axis.command goal request false = (target, motion?, moved))
    (shown : moved.published ≠ axis.published) (found : Cell.FindsAxis call.device cell handle axis axes)
    (traces : Stream Trace) :
    let sent := cell.commanded traces axes handle moved motion?
    Action.Motion.moveUntil call { cell with traces := traces } =
      (if Duration.beyond cell.now (call.bound cell) then Action.Motion.collapse handle Action.Motion.deadlineMessage
      else if cell.sampleTick = 0 then Action.Motion.collapse handle Action.Motion.periodMessage
      else Act.change fun cell => cell.lookProbe handle threshold (cell.instant + call.bound sent)) sent := by
  intro sent
  have process : axis.process? = some (contact.sample axis.state.position) := by rw [Axis.process?, asks.model]; rfl
  rw [Action.Motion.moveUntil, Act.bind_apply, found.finds traces]
  dsimp only
  rw [Act.read_bind_apply _ _ goal asks.aimed, Act.read_bind_apply _ _ threshold asks.limited,
    Act.read_bind_apply _ _ request asks.asked, process]
  dsimp only
  have sends := command_leaves { cell with traces := traces, axes := axes } handle axis moved goal target request
    false motion?
    live commanded shown
  rw [move_is_command handle axis goal request asks.sensible, Act.bind_apply, sends]
  -- The clock and the bound are those of the cell before, told one by one so that no horizon is reckoned with.
  have now : sent.now = cell.now := rfl
  have bound : call.bound sent = call.bound cell := rfl
  have period : sent.sampleTick = cell.sampleTick := rfl
  show ((get : Act R (Cell R)) >>= _) sent = _
  rw [Act.get_bind_apply, now, bound, period]

theorem Probe.opens_moveUntil {contact : Contact R} (uncut : cell.cancelled = false) (live : cell.live = true)
    (resolved : HandlerTable.standard.resolve cell ⟨device, .moveUntil, args, label.policy.timeout⟩ =
      .ok Action.Motion.moveUntil)
    (asks : Call.Asks ⟨device, .moveUntil, args, label.policy.timeout⟩ axis contact goal threshold request)
    (commanded : axis.command goal request false = (target, motion?, moved)) (shown : moved.published ≠ axis.published)
    (found : Cell.FindsAxis device cell handle axis axes)
    (named : Duration.beyond cell.now (label.policy.timeout.getD cell.waitBound) = false) (ticking : cell.sampleTick ≠ 0) :
    (⟨handle, contact, threshold, Duration.ofMillis cell.now + label.policy.timeout.getD cell.waitBound, cell.sampleTick⟩ :
      Probe R).Opens (.action label device .moveUntil args) .standard cell
        (cell.commanded (cell.trace (.action label device .moveUntil args) .running 1).traces axes handle moved
          motion?) := by
  let call : Call R := ⟨device, .moveUntil, args, label.policy.timeout⟩
  let traced := cell.trace (.action label device .moveUntil args) .running 1
  let sent := cell.commanded traced.traces axes handle moved motion?
  let deadline := Duration.ofMillis cell.now + label.policy.timeout.getD cell.waitBound
  rcases looked : sent.lookProbe handle threshold deadline with ⟨reply, after⟩
  have worked : Action.Motion.moveUntil call traced = (.ok reply, after) := by
    refine (moveUntil_commands asks live commanded shown found traced.traces).trans ?_
    rw [if_neg (by rw [show call.bound cell = label.policy.timeout.getD cell.waitBound from rfl, named]; decide),
      if_neg ticking]
    show (Except.ok (sent.lookProbe handle threshold deadline).1, (sent.lookProbe handle threshold deadline).2) = _
    rw [looked]
  rw [Opens, Step.start_action label device .moveUntil args .standard cell after _ reply uncut resolved worked, looked]
  cases reply with
  | value value => rfl
  | waiting wait => rfl

theorem start_collapses {contact : Contact R} (uncut : cell.cancelled = false) (live : cell.live = true)
    (resolved : HandlerTable.standard.resolve cell ⟨device, .moveUntil, args, label.policy.timeout⟩ =
      .ok Action.Motion.moveUntil)
    (asks : Call.Asks ⟨device, .moveUntil, args, label.policy.timeout⟩ axis contact goal threshold request)
    (commanded : axis.command goal request false = (target, motion?, moved)) (shown : moved.published ≠ axis.published)
    (found : Cell.FindsAxis device cell handle axis axes)
    (unusable : Duration.beyond cell.now (label.policy.timeout.getD cell.waitBound) = true ∨ cell.sampleTick = 0) :
    ∃ message, (Step.action label device .moveUntil args).start .standard cell = (.panicked (some message),
      (cell.commanded (cell.trace (.action label device .moveUntil args) .running 1).traces axes handle moved
        motion?).stopAxis handle) := by
  let call : Call R := ⟨device, .moveUntil, args, label.policy.timeout⟩
  let traced := cell.trace (.action label device .moveUntil args) .running 1
  let sent := cell.commanded traced.traces axes handle moved motion?
  have commands := moveUntil_commands asks live commanded shown found traced.traces
  have broken : ∃ message, Action.Motion.moveUntil call traced = (.error (.panic (some message)), sent.stopAxis handle) := by
    by_cases far : Duration.beyond cell.now (call.bound cell) = true
    · exact ⟨_, commands.trans (by rw [if_pos far]; rfl)⟩
    · have idle : cell.sampleTick = 0 := unusable.resolve_left far
      exact ⟨_, commands.trans (by rw [if_neg far, if_pos idle]; rfl)⟩
  obtain ⟨message, worked⟩ := broken
  exact ⟨message, Step.start_broken label device .moveUntil args .standard cell _ _ (some message) uncut resolved worked⟩

end

namespace Duration

theorem due_after_early (since look bound period : Nat) (early : ofMillis look < ofMillis since + bound)
    (named : beyond since (bound + period) = false) : due look period = look + (period + 999999) / 1000000 := by
  have early : look * 1000000 < since * 1000000 + bound := early
  have near : beyond look period = false := by
    refine decide_eq_false fun far => of_decide_eq_false named (far.trans ?_)
    omega
  rw [due, near, if_neg Bool.false_ne_true]

theorem round_millis (ms : Nat) : (ofMillis ms + 999999) / 1000000 = ms := by
  show (ms * 1000000 + 999999) / 1000000 = ms
  omega

theorem due_within (since look bound ms : Nat) (early : ofMillis look < ofMillis since + bound)
    (named : beyond since (bound + ofMillis ms) = false) :
    ofMillis (due look (ofMillis ms)) < ofMillis since + bound + ofMillis ms := by
  have sum : ofMillis (look + ms) = ofMillis look + ofMillis ms := Nat.add_mul look ms 1000000
  rw [due_after_early since look bound (ofMillis ms) early named, round_millis, sum]
  exact Nat.add_lt_add_right early _

theorem next_look_within (since bound period : Nat) : ∃ limit,
    (∀ look, ofMillis look < ofMillis since + bound → due look period ≤ limit) ∧
    ∀ ms, period = ofMillis ms → period ≠ 0 → beyond since (bound + period) = false →
      ofMillis limit < ofMillis since + bound + period := by
  by_cases named : beyond since (bound + period) = false
  · refine ⟨if since * 1000000 + bound = 0 then 0
      else (since * 1000000 + bound - 1) / 1000000 + (period + 999999) / 1000000, fun look early => ?_,
      fun ms whole lasts _ => ?_⟩
    · rw [due_after_early since look bound period early named]
      have early : look * 1000000 < since * 1000000 + bound := early
      split
      · omega
      · omega
    · have whole : period = ms * 1000000 := whole
      show _ * 1000000 < since * 1000000 + bound + period
      split
      · omega
      · omega
  · refine ⟨since + (bound + 999999) / 1000000 + (period + 999999) / 1000000 + farAway, fun look early => ?_,
      fun ms _ _ isNamed => absurd isNamed named⟩
    have early : look * 1000000 < since * 1000000 + bound := early
    unfold due
    split
    · omega
    · omega

end Duration

section

variable {R W J : Type} [Scalar R] {label : Label} {device : String} {args : List (Arg R)} {cell : Cell R} {handle : Nat}
  {axis : Axis R} {axes : Bank (Axis R)} {goal threshold : R} {request : Option R} {contact : Contact R}

theorem Leg.probed_soft (exact : Scalar.Exact R) (leg : Leg) (moves : 0 < leg.step) (lasts : axis.tick ≠ 0)
    {setting : Setting R W J} {runner : Nat} {begun : Schedule W J}
    (takes : setting.Takes runner (.action label device .moveUntil args) cell begun)
    (found : Cell.FindsAxis device cell handle axis axes)
    (resolved : HandlerTable.standard.resolve cell ⟨device, .moveUntil, args, label.policy.timeout⟩ =
      .ok Action.Motion.moveUntil)
    (asks : Call.Asks ⟨device, .moveUntil, args, label.policy.timeout⟩ axis contact goal threshold request)
    (commanded : axis.command goal request false = (exact.of leg.target,
      if leg.start = leg.target then none else some ⟨axis.generation + 1, exact.of leg.target, exact.of leg.step, false⟩,
      axis.publish (leg.state exact axis.state.homed false 0) (axis.generation + 1)))
    (named : Duration.beyond cell.now (label.policy.timeout.getD cell.waitBound) = false) (ticking : cell.sampleTick ≠ 0) :
    let bound := label.policy.timeout.getD cell.waitBound
    let probe : Probe R := ⟨handle, contact, threshold, Duration.ofMillis cell.now + bound, cell.sampleTick⟩
    let moved := axis.publish (leg.state exact axis.state.homed false 0) (axis.generation + 1)
    let trip := (leg.trip exact axis.state.homed false moved handle cell.now).timed cell.sampleTick
    ∃ limit, (∀ ms, cell.sampleTick = Duration.ofMillis ms → Duration.beyond cell.now (bound + cell.sampleTick) = false →
        Duration.ofMillis limit < Duration.ofMillis cell.now + bound + cell.sampleTick) ∧
      setting.Soft probe.seen runner none (some (begun.next + (setting.beside begun.world).length))
        (Drive.LeavesAxis handle (axis.generation + 1)) (.action label device .moveUntil args) limit
        (fun looks now progress seen => ∃ after ticks, probe.Ends trip cell.now looks now progress after ticks seen.1)
        begun := by
  intro bound probe moved trip
  obtain ⟨limit, within, formula⟩ := Duration.next_look_within cell.now bound cell.sampleTick
  refine ⟨limit, fun ms whole => formula ms whole ticking, ?_⟩
  let traces := (cell.trace (.action label device .moveUntil args) .running 1).traces
  let motion? : Option (AxisMotion R) := if leg.start = leg.target then none
    else some ⟨axis.generation + 1, exact.of leg.target, exact.of leg.step, false⟩
  have paced : moved.tick ≠ 0 := lasts
  have untimed : (leg.trip exact axis.state.homed false moved handle cell.now).Lawful (fun cell => cell.axes.get? handle)
      (.axis handle) := leg.trip_lawful moves paced
  have lawful : trip.Lawful probe.seen (.axis handle) := untimed.timed cell.sampleTick
  have opens := Probe.opens_moveUntil takes.uncut takes.live resolved asks commanded (Nat.succ_ne_self _) found named ticking
  have there : probe.seen (cell.commanded traces axes handle moved motion?) = some (trip.stand 0) :=
    Cell.timed_eq_some.mpr ⟨Bank.get_set found.there moved, rfl⟩
  refine Probe.sent_soft takes opens lawful
    ⟨fun _ => asks.model, fun _ => rfl, fun _ => rfl⟩ ticking rfl takes.uncut there rfl (fun far => ?_)
    ((leg.trip_spared exact axis.state.homed false moved handle cell.now).timed cell.sampleTick) ?_ within
    fun looks now progress after ticks axis ended => ⟨after, ticks, ended⟩
  · have away : ¬ leg.start = leg.target := fun same => Nat.ne_of_gt far ((Leg.ticks_eq_zero_iff moves).mpr same)
    refine ⟨.axis handle, .motion handle (leg.motion exact false moved), ?_, rfl⟩
    show cell.outbox ++ .signal (.axis handle) :: motion?.toList.map _ = _
    rw [takes.quiet, show motion? = some _ from if_neg away]
    rfl
  · exact fun all => ⟨found.ticking lasts paced all, all.actuators⟩

end

theorem Leg.place_le (leg : Leg) (moves : 0 < leg.step) (earlier later : Nat) (short : earlier < leg.ticks)
    (ordered : earlier ≤ later) : leg.place later ≤ leg.place earlier + (later - earlier : Nat) * leg.step := by
  have span : ((later - earlier : Nat) : Rat) = later - earlier := by rw [Nat.cast_sub ordered]
  have rising : (0 : Rat) ≤ (later - earlier : Nat) * leg.step := mul_nonneg (Nat.cast_nonneg _) moves.le
  have first : leg.place earlier = leg.toward earlier := if_pos short
  obtain ⟨-, side⟩ := leg.rest_of_way earlier ((lt_ticks_iff moves earlier).mp short)
  rw [first]
  by_cases going : later < leg.ticks
  · have last : leg.place later = leg.toward later := if_pos going
    rw [last]
    unfold toward
    rw [span] at rising ⊢
    split
    · linarith
    · linarith
  · have last : leg.place later = leg.target := if_neg going
    rw [last]
    by_cases back : leg.target < leg.start
    · have behind := side.mpr back
      linarith
    · have far : |leg.target - leg.start| ≤ later * leg.step := (ticks_le_iff moves later).mp (not_lt.mp going)
      rw [abs_of_nonneg (sub_nonneg.mpr (not_lt.mp back))] at far
      rw [toward, if_neg back, span]
      linarith

theorem Contact.sample_lt_iff (contact : Contact Rat) (stiff : 0 < contact.stiffness) (threshold : Rat)
    (above : 0 < threshold) (position : Rat) :
    contact.sample position < threshold ↔ position < contact.surface + threshold / contact.stiffness := by
  have sampled : contact.sample position =
      (if 0 < position - contact.surface then position - contact.surface else 0) * contact.stiffness := rfl
  rw [sampled, ← lt_div_iff₀ stiff]
  split
  · exact sub_lt_iff_lt_add'
  · have positive : 0 < threshold / contact.stiffness := div_pos above stiff
    exact iff_of_true positive (by linarith)

theorem tickAt_spaced (tick : Duration) (start earlier later : Nat) (ordered : earlier ≤ later)
    (named : ∀ ticks < later, Duration.beyond (tickAt tick start ticks) tick = false) :
    tickAt tick start earlier * 1000000 + (later - earlier) * tick ≤ tickAt tick start later * 1000000 := by
  induction later, ordered using Nat.le_induction with
  | base => rw [Nat.sub_self, Nat.zero_mul, Nat.add_zero]
  | succ later ordered ih =>
      have near := named later (Nat.lt_succ_self later)
      have spaced := ih fun ticks short => named ticks (Nat.lt_succ_of_lt short)
      have next : tickAt tick start (later + 1) = tickAt tick start later + (tick + 999999) / 1000000 := by
        rw [tickAt, Duration.due, near, if_neg Bool.false_ne_true]
      have longer : (later + 1 - earlier) * tick = (later - earlier) * tick + tick := by
        rw [Nat.succ_sub ordered, Nat.succ_mul]
      rw [next, longer]
      omega

theorem Duration.ticks_between (since now look bound period tick : Nat) (lasts : tick ≠ 0) (earlier later : Nat)
    (ordered : earlier ≤ later) (early : ofMillis look < ofMillis since + bound) (next : now = due look period)
    (named : beyond since (bound + period + tick) = false) (ahead : look ≤ tickAt tick since (earlier + 1))
    (past : tickAt tick since later ≤ now) :
    ((later - earlier) * tick : Nat) ≤ tick + ofMillis ((period + 999999) / 1000000) := by
  rcases Nat.eq_or_lt_of_le ordered with same | further
  · rw [same, Nat.sub_self, Nat.zero_mul]
    exact Nat.zero_le _
  · have rest : beyond since (bound + period) = false := by
      refine decide_eq_false fun far => of_decide_eq_false named (far.trans ?_)
      exact Nat.add_le_add_left (Nat.le_add_right _ _) _
    rw [due_after_early since look bound period early rest] at next
    have near : ∀ ticks < later, beyond (tickAt tick since ticks) tick = false := by
      intro ticks sooner
      have less : tickAt tick since ticks < tickAt tick since later := tickAt_mono tick lasts since sooner
      have early : look * 1000000 < since * 1000000 + bound := early
      refine decide_eq_false fun far => of_decide_eq_false named (far.trans ?_)
      generalize tickAt tick since ticks = reached at less ⊢
      omega
    have spaced := tickAt_spaced tick since (earlier + 1) later further near
    have split : (later - earlier) * tick = (later - (earlier + 1)) * tick + tick := by
      rw [← Nat.succ_mul]
      congr 1
      omega
    have whole : ofMillis ((period + 999999) / 1000000) = (period + 999999) / 1000000 * 1000000 := rfl
    rw [split, whole]
    generalize (later - (earlier + 1)) * tick = gained at spaced ⊢
    generalize (period + 999999) / 1000000 = pause at next ⊢
    omega

-- How probing ends for an axis that is looked at once a period since it was sent on its way.
structure Leg.Probed (leg : Leg) (contact : Contact Rat) (threshold : Rat) (handle : Nat) (period : Duration) (since : Nat)
    (bound : Duration) (looks : List (Cell Rat)) (now : Nat) (progress : Progress Rat) (axis : Axis Rat) : Prop where
  returns : progress = .done (.number axis.state.position)
  idle : axis.state.moving = false
  model : axis.process? = some (contact.sample axis.state.position)
  times : looks.map Cell.now = (List.range looks.length).map fun look => tickAt period since (look + 1)
  below : ∀ look ∈ looks, look.process handle < threshold
  last : (now = since ∧ looks = []) ∨
    (now = tickAt period since (looks.length + 1) ∧ contact.sample leg.start < threshold)
  reason : threshold ≤ contact.sample axis.state.position ∨ axis.state.position = leg.target ∨
    (Duration.ofMillis since + bound ≤ Duration.ofMillis now ∧ ∀ ms, period = Duration.ofMillis ms →
      Duration.beyond since (bound + period) = false →
      Duration.ofMillis now < Duration.ofMillis since + bound + period)
  unmoved : threshold ≤ contact.sample leg.start → now = since ∧ looks = [] ∧ axis.state.position = leg.start

open Exact (fractions)

theorem Leg.place_start (leg : Leg) (moves : 0 < leg.step) : leg.place 0 = leg.start := by
  rcases leg.place_zero with there | ⟨there, isOver⟩
  · exact there
  · rw [there, (Leg.ticks_eq_zero_iff moves).mp isOver]

section

variable {leg : Leg} {contact : Contact Rat} {threshold : Rat} {handle since now ticks : Nat} {period bound : Duration}
  {homed : Bool} {moved axis : Axis Rat} {looks : List (Cell Rat)} {progress : Progress Rat} {after : Cell Rat}

theorem Leg.probed_of_ends (moves : 0 < leg.step) (lasts : period ≠ 0)
    (ends : (⟨handle, contact, threshold, Duration.ofMillis since + bound, period⟩ : Probe Rat).Ends
      ((leg.trip fractions homed false moved handle since).timed period) since looks now progress after ticks axis) :
    leg.Probed contact threshold handle period since bound looks now progress axis := by
  have placed : axis.state.position = leg.place ticks := ends.stands
  have first := leg.place_start moves
  refine ⟨ends.done, ends.idle, ?_, ends.kept.times, fun look member => not_le.mp (ends.kept.below look member), ?_, ?_, ?_⟩
  · rw [Axis.process?, ends.model]
    rfl
  · refine ends.last.imp (fun atOnce => ⟨atOnce.1, atOnce.2.1⟩) fun later => ⟨later.1, ?_⟩
    have below : ¬ threshold ≤ contact.sample (leg.place 0) := (not_or.mp later.2.1).1
    rw [first] at below
    exact not_le.mp below
  · rcases ends.isOver with reached | still | late
    · exact Or.inl (placed ▸ reached)
    · have arrived : ¬ ticks < leg.ticks := of_decide_eq_false still
      exact Or.inr (Or.inl (placed.trans (if_neg arrived)))
    · refine Or.inr (Or.inr ⟨late, fun ms whole named => ?_⟩)
      rcases ends.last with ⟨atOnce, -, -⟩ | ⟨later, -, sampled, -, last⟩
      · rw [atOnce, Nat.add_assoc]
        exact Nat.lt_add_of_pos_right (Nat.add_pos_right bound (Nat.pos_of_ne_zero lasts))
      · have early : Duration.ofMillis (tickAt period since looks.length) < Duration.ofMillis since + bound :=
          Nat.lt_of_not_le (not_or.mp (not_or.mp last.unmet).2).2
        rw [later]
        subst whole
        exact Duration.due_within since _ bound ms early named
  · intro reached
    rcases ends.last with ⟨atOnce, nothing, none_⟩ | ⟨-, unmet, -⟩
    · exact ⟨atOnce, nothing, by rw [placed, none_, first]⟩
    · have below : ¬ threshold ≤ contact.sample (leg.place 0) := (not_or.mp unmet).1
      exact absurd reached (first ▸ below)

theorem Leg.depth_of_ends (moved : Axis Rat) (moves : 0 < leg.step) (paced : moved.tick ≠ 0) (v : Rat) (positive : 0 < v)
    (step : leg.step = v * ((moved.tick : Rat) / 1000000000)) (stiff : 0 < contact.stiffness) (above : 0 < threshold)
    (before : leg.start < contact.surface + threshold / contact.stiffness)
    (named : Duration.beyond since (bound + period + moved.tick) = false)
    (ends : (⟨handle, contact, threshold, Duration.ofMillis since + bound, period⟩ : Probe Rat).Ends
      ((leg.trip fractions homed false moved handle since).timed period) since looks now progress after ticks axis) :
    axis.state.position < contact.surface + threshold / contact.stiffness +
      v * (((moved.tick : Rat) + Duration.ofMillis ((period + 999999) / 1000000)) / 1000000000) := by
  have placed : axis.state.position = leg.place ticks := ends.stands
  have room : 0 ≤ v * (((moved.tick : Rat) + Duration.ofMillis ((period + 999999) / 1000000)) / 1000000000) := by positivity
  rw [placed]
  rcases ends.last with ⟨-, -, none_⟩ | ⟨later, -, sampled, behind, last⟩
  · rw [none_, leg.place_start moves]
    linarith
  · have shallow : leg.place sampled < contact.surface + threshold / contact.stiffness :=
      (contact.sample_lt_iff stiff threshold above _).mp (not_le.mp (not_or.mp last.unmet).1)
    have short : sampled < leg.ticks := last.short
    have counted : ((ticks - sampled) * moved.tick : Nat) ≤
        moved.tick + Duration.ofMillis ((period + 999999) / 1000000) :=
      Duration.ticks_between since now _ bound period moved.tick paced sampled ticks behind
        (Nat.lt_of_not_le (not_or.mp (not_or.mp last.unmet).2).2) later named last.ahead ends.past
    have deeper := leg.place_le moves sampled ticks short behind
    have gained : ((ticks - sampled : Nat) : Rat) * leg.step ≤
        v * (((moved.tick : Rat) + Duration.ofMillis ((period + 999999) / 1000000)) / 1000000000) := by
      have spans : (((ticks - sampled) * moved.tick : Nat) : Rat) ≤
          moved.tick + Duration.ofMillis ((period + 999999) / 1000000) := by exact_mod_cast counted
      rw [step]
      push_cast at spans
      calc ((ticks - sampled : Nat) : Rat) * (v * (moved.tick / 1000000000))
          = v * (((ticks - sampled : Nat) : Rat) * moved.tick / 1000000000) := by ring
        _ ≤ _ := by gcongr
    linarith

end

structure Cell.Probes (cell : Cell Rat) (call : Call Rat) (handle : Nat) (axis : Axis Rat) (contact : Contact Rat)
    (goal threshold : Rat) (request : Option Rat) : Prop where
  known : call.device ≠ systemName
  kind : cell.kind? call.device = some .axis
  finds : ∃ found, findAxis call.device cell = (.ok (handle, axis), found)
  valid : axis.spec.validate = .ok ()
  lasts : axis.tick ≠ 0
  asks : call.Asks axis contact goal threshold request

section

variable {cell : Cell Rat} {label : Label} {device : String} {args : List (Arg Rat)} {handle : Nat} {axis : Axis Rat}
  {contact : Contact Rat} {goal threshold : Rat} {request : Option Rat}

theorem Cell.Probes.commands
    (probes : cell.Probes ⟨device, .moveUntil, args, label.policy.timeout⟩ handle axis contact goal threshold request) :
    ∃ v axes, Effective fractions axis.spec.maxSpeed request v ∧ 0 < v ∧ Cell.FindsAxis device cell handle axis axes ∧
      HandlerTable.standard.resolve cell ⟨device, .moveUntil, args, label.policy.timeout⟩ = .ok Action.Motion.moveUntil ∧
      let leg : Leg := ⟨axis.state.position, max axis.spec.min (min goal axis.spec.max),
        v * ((axis.tick : Rat) / 1000000000)⟩
      0 < leg.step ∧ axis.command goal request false = (fractions.of leg.target,
        if leg.start = leg.target then none
        else some ⟨axis.generation + 1, fractions.of leg.target, fractions.of leg.step, false⟩,
        axis.publish (leg.state fractions axis.state.homed false 0) (axis.generation + 1)) := by
  obtain ⟨found, finds⟩ := probes.finds
  obtain ⟨axes, isFound⟩ := Cell.finds_axis device cell found handle axis finds
  obtain ⟨v, effective, above, moves, commanded⟩ := Leg.of_command fractions Exact.fractions_timed axis probes.valid
    probes.lasts axis.spec.min axis.spec.max axis.spec.maxSpeed axis.state.position goal rfl rfl rfl rfl request false
  exact ⟨v, axes, effective, above, isFound, resolve_known _ _ _ _ probes.known cell probes.kind rfl, moves, commanded⟩

end

/-- An axis that moves until the process value has reached a threshold stops for a reason. As long as nobody else commands
it or changes the sample tick, the action ends with the place where the axis stands, at rest. Either the process value there
has reached the threshold, which it had not at any look before; or the place is the target inside the limits; or the bound
has passed, and not for as long as a sample tick. An axis at which the threshold is reached from the first does not move.

After every look but the last there is something still to happen, no later than a sample tick after the deadline; and the
action does end when there are only motors beside it. -/
theorem probing_stops_for_a_reason {W J : Type} (setting : Setting Rat W J) (runner : Nat) (begun : Schedule W J)
    (cell : Cell Rat) (label : Label) (device : String) (args : List (Arg Rat)) (handle : Nat) (axis : Axis Rat)
    (contact : Contact Rat) (goal threshold : Rat) (request : Option Rat)
    (takes : setting.Takes runner (.action label device .moveUntil args) cell begun)
    (probes : cell.Probes ⟨device, .moveUntil, args, label.policy.timeout⟩ handle axis contact goal threshold request)
    (sampled : cell.sampleTick ≠ 0)
    (named : Duration.beyond cell.now (label.policy.timeout.getD cell.waitBound) = false) :
    let bound := label.policy.timeout.getD cell.waitBound
    ∃ v, Effective fractions axis.spec.maxSpeed request v ∧
      let leg : Leg := ⟨axis.state.position, max axis.spec.min (min goal axis.spec.max),
        v * ((axis.tick : Rat) / 1000000000)⟩
      ∃ limit, (∀ ms, cell.sampleTick = Duration.ofMillis ms → Duration.beyond cell.now (bound + cell.sampleTick) = false →
          Duration.ofMillis limit < Duration.ofMillis cell.now + bound + cell.sampleTick) ∧
        setting.Soft (Cell.timed fun cell => cell.axes.get? handle) runner none
          (some (begun.next + (setting.beside begun.world).length)) (Drive.LeavesAxis handle (axis.generation + 1))
          (.action label device .moveUntil args) limit
          (fun looks now progress seen =>
            leg.Probed contact threshold handle cell.sampleTick cell.now bound looks now progress seen.1) begun := by
  intro bound
  obtain ⟨v, axes, effective, -, found, resolved, moves, commanded⟩ := probes.commands
  obtain ⟨limit, formula, soft⟩ := Leg.probed_soft fractions _ moves probes.lasts takes found resolved probes.asks commanded
    named sampled
  refine ⟨v, effective, limit, formula, soft.weaken fun looks now progress seen ended => ?_⟩
  obtain ⟨after, ticks, ends⟩ := ended
  exact Leg.probed_of_ends moves sampled ends

def press : Axis Rat :=
  ⟨⟨"press", 0, 0, 0, 100, 100, none, some ⟨1, 2⟩⟩, .ofMillis 10, some ⟨1, 2⟩, ⟨0, 0, false, false⟩, 0, 0⟩

def pressCell : Cell Rat :=
  { Cell.new ⟨"stand", [press.spec], []⟩ (.simulation (.ofMillis 10)) with axes := ⟨[press], [("press", 0)]⟩ }

def pressStep : Step Rat := .action ⟨"press", .default⟩ "press" .moveUntil [.literal (.number 50), .literal (.number 3)]

def pressBench : Schedule (Bench Rat Unit) (BenchJob Rat Unit) :=
  ⟨.new pressCell .standard 1, [(0, .operator .ready [.run pressStep fun _ => ()])], [0], [], 1⟩

theorem pressBench_takes : (Setting.operator (fun _ => ()) []).Takes 0 pressStep pressCell pressBench :=
  ⟨⟨⟨⟨by decide, by decide⟩, by decide, rfl⟩, rfl, rfl⟩, rfl, rfl, rfl, rfl⟩

theorem pressCell_probes :
    pressCell.Probes ⟨"press", .moveUntil, [.literal (.number 50), .literal (.number 3)], none⟩ 0 press ⟨1, 2⟩ 50 3
    none where
  known := by decide
  kind := rfl
  finds := ⟨pressCell, rfl⟩
  valid := rfl
  lasts := by decide
  asks := ⟨rfl, rfl, rfl, rfl, rfl⟩

theorem pressBench_secluded :
    pressBench.Secluded Bench.workload .motor (Drive.LeavesAxis 0 (press.generation + 1)) none 0 :=
  fun _ member other => absurd (congrArg Prod.fst (List.mem_singleton.mp member)) other

theorem pressBench_ticking (cell : Cell Rat) (held : some pressBench.world.cell = some cell) : cell.Ticking := by
  cases held
  exact ⟨fun other member => List.mem_singleton.mp member ▸ by decide, fun _ member => absurd member List.not_mem_nil⟩

theorem press_stops_for_a_reason :
    ∃ looks progress after reached stopped, (Setting.operator (fun _ => ()) []).Performs
        (Cell.timed fun cell => cell.axes.get? 0) 0 (some 1) pressStep pressBench looks (some (progress, after)) reached ∧
      after.axes.get? 0 = some stopped ∧ (⟨0, 50, 1⟩ : Leg).Probed ⟨1, 2⟩ 3 0 (.ofMillis 10) 0 (.ofMillis 30000) looks
        reached.world.cell.now progress stopped := by
  obtain ⟨v, effective, limit, -, soft⟩ :=
    probing_stops_for_a_reason (Setting.operator (fun _ => ()) []) 0 pressBench pressCell
    ⟨"press", .default⟩ "press" [.literal (.number 50), .literal (.number 3)] 0 press ⟨1, 2⟩ 50 3 none pressBench_takes
    pressCell_probes (by decide) (by decide +kernel)
  cases effective
  obtain ⟨looks, ⟨progress, after⟩, reached, performs⟩ := soft.comes rfl pressBench_secluded pressBench_ticking
  obtain ⟨⟨stopped, period⟩, there, probed⟩ := soft.ends looks progress after reached performs
  have leg : (⟨press.state.position, max press.spec.min (min 50 press.spec.max),
      press.spec.maxSpeed * ((press.tick : Rat) / 1000000000)⟩ : Leg) = ⟨0, 50, 1⟩ := by
    simp only [Leg.mk.injEq]
    decide +kernel
  exact ⟨looks, progress, after, reached, stopped, performs, (Cell.timed_eq_some.mp there).1, leg ▸ probed⟩

/-- However probing ends, an axis that starts where the pressure is below the threshold does not come deeper below the
place where the pressure reaches it than it goes in a sample tick, as the clock keeps it, and a tick of its own; and an
action that breaks down for want of a deadline or of a sample tick leaves the axis where it was. It makes no difference
which way the axis goes, and which comes first of a tick and a look at the same time. -/
theorem press_depth_is_bounded {W J : Type} (setting : Setting Rat W J) (runner : Nat) (begun : Schedule W J)
    (cell : Cell Rat) (label : Label) (device : String) (args : List (Arg Rat)) (handle : Nat) (axis : Axis Rat)
    (contact : Contact Rat) (goal threshold : Rat) (request : Option Rat)
    (takes : setting.Takes runner (.action label device .moveUntil args) cell begun)
    (probes : cell.Probes ⟨device, .moveUntil, args, label.policy.timeout⟩ handle axis contact goal threshold request)
    (stiff : 0 < contact.stiffness) (above : 0 < threshold)
    (before : axis.state.position < contact.surface + threshold / contact.stiffness) :
    let bound := label.policy.timeout.getD cell.waitBound
    let sample := Duration.ofMillis ((cell.sampleTick + 999999) / 1000000)
    (∀ ms, cell.sampleTick = Duration.ofMillis ms → sample = cell.sampleTick) ∧
    ∃ v, Effective fractions axis.spec.maxSpeed request v ∧ ∀ looks progress after reached,
      setting.Performs (Cell.timed fun cell => cell.axes.get? handle) runner
        (some (begun.next + (setting.beside begun.world).length)) (.action label device .moveUntil args) begun looks
        (some (progress, after)) reached →
      ∃ stopped, after.axes.get? handle = some stopped ∧
        (Duration.beyond cell.now bound = true ∨ cell.sampleTick = 0 → stopped.state.position = axis.state.position) ∧
        (Duration.beyond cell.now (bound + cell.sampleTick + axis.tick) = false →
          stopped.state.position < contact.surface + threshold / contact.stiffness +
            v * (((axis.tick : Rat) + sample) / 1000000000)) := by
  intro bound sample
  obtain ⟨v, axes, effective, positive, found, resolved, moves, commanded⟩ := probes.commands
  refine ⟨fun ms whole => ?_, v, effective, fun looks progress after reached performs => ?_⟩
  · show Duration.ofMillis ((cell.sampleTick + 999999) / 1000000) = cell.sampleTick
    rw [whole, Duration.round_millis]
  by_cases unusable : Duration.beyond cell.now bound = true ∨ cell.sampleTick = 0
  · obtain ⟨message, started⟩ := start_collapses takes.uncut takes.live resolved probes.asks commanded
      (Nat.succ_ne_self _) found
      unusable
    rw [← takes.standard] at started
    let leg : Leg := ⟨axis.state.position, max axis.spec.min (min goal axis.spec.max), v * ((axis.tick : Rat) / 1000000000)⟩
    let moved := axis.publish (leg.state fractions axis.state.homed false 0) (axis.generation + 1)
    have position : moved.stop.state.position = axis.state.position :=
      moved.stop_position.trans (leg.place_start moves)
    have room : 0 ≤ v * (((axis.tick : Rat) + sample) / 1000000000) := by positivity
    cases performs with
    | atOnce held begins finished =>
        cases takes.begins.held.symm.trans held
        cases started.symm.trans begins
        refine ⟨moved.stop, Cell.stopped_axis moved (Bank.get_set found.there moved), fun _ => position, fun _ => ?_⟩
        rw [position]
        linarith
    | later held begins =>
        cases takes.begins.held.symm.trans held
        cases started.symm.trans begins
  · obtain ⟨near, ticking⟩ := not_or.mp unusable
    obtain ⟨limit, -, soft⟩ := Leg.probed_soft fractions _ moves probes.lasts takes found resolved probes.asks commanded
      (Bool.eq_false_of_not_eq_true near) ticking
    obtain ⟨⟨stopped, period⟩, there, after', ticks, ends⟩ := soft.ends looks progress after reached performs
    refine ⟨stopped, (Cell.timed_eq_some.mp there).1, fun broken => absurd broken unusable, fun named => ?_⟩
    exact Leg.depth_of_ends (axis.publish _ _) moves probes.lasts v positive rfl stiff above before named ends

theorem pressBench_comes : ∃ looks result reached, (Setting.operator (fun _ => ()) []).Performs
    (Cell.timed fun cell => cell.axes.get? 0) 0 (some 1) pressStep pressBench looks (some result) reached := by
  have probes : pressCell.Probes ⟨"press", .moveUntil, [.literal (.number 50), .literal (.number 3)],
      (⟨"press", .default⟩ : Label).policy.timeout⟩ 0 press ⟨1, 2⟩ 50 3 none := pressCell_probes
  obtain ⟨v, axes, -, -, found, resolved, moves, commanded⟩ := probes.commands
  obtain ⟨limit, -, soft⟩ := Leg.probed_soft fractions _ moves pressCell_probes.lasts pressBench_takes found resolved
    pressCell_probes.asks commanded (by decide +kernel) (by decide)
  exact soft.comes rfl pressBench_secluded pressBench_ticking

theorem press_stops_short_of_four_and_a_half :
    ∃ looks progress after reached stopped, (Setting.operator (fun _ => ()) []).Performs
        (Cell.timed fun cell => cell.axes.get? 0) 0 (some 1) pressStep pressBench looks (some (progress, after)) reached ∧
      after.axes.get? 0 = some stopped ∧ stopped.state.position < 9 / 2 := by
  obtain ⟨-, v, effective, depth⟩ := press_depth_is_bounded (Setting.operator (fun _ => ()) []) 0 pressBench pressCell
    ⟨"press", .default⟩ "press" [.literal (.number 50), .literal (.number 3)] 0 press ⟨1, 2⟩ 50 3 none pressBench_takes
    pressCell_probes (by decide +kernel) (by decide +kernel) (by decide +kernel)
  cases effective
  obtain ⟨looks, ⟨progress, after⟩, reached, performs⟩ := pressBench_comes
  obtain ⟨stopped, there, -, short⟩ := depth looks progress after reached performs
  refine ⟨looks, progress, after, reached, stopped, performs, there, (short (by decide +kernel)).trans_eq ?_⟩
  decide +kernel

end Workcell

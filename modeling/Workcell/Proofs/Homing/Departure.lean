import Workcell.Proofs.Awaiting.Bounded
import Workcell.Proofs.Homing.Turns
import Workcell.Proofs.Supply.Making

/-!
The first turn of a branch that homes an axis: it finds the axis, sends it home, and waits for it where there is any way to
go and any time to wait.
-/

set_option autoImplicit false

namespace Workcell

open Exact (fractions)

namespace Bank

variable {D : Type} {bank : Bank D}

-- Every id that is registered has a device, and no other id has the same.
structure Tidy (bank : Bank D) : Prop where
  housed : bank.Housed
  apart : ∀ id other handle, bank.handle? id = some handle → bank.handle? other = some handle → id = other

theorem tidy_empty : (empty : Bank D).Tidy := ⟨housed_empty, fun _ _ _ registered => nomatch registered⟩

theorem Tidy.add (tidy : bank.Tidy) (id : String) (device : D) : (bank.add id device).Tidy := by
  refine ⟨housed_add bank tidy.housed id device, fun first second handle one two => ?_⟩
  have own : (bank.add id device).handle? id = some bank.slots.length := Tree.lookup_insert_self id _ _
  have old : ∀ other, other ≠ id → (bank.add id device).handle? other = bank.handle? other := fun other differs =>
    Tree.lookup_insert_other id other _ _ differs
  have apart : ∀ other, other ≠ id → (bank.add id device).handle? other ≠ some bank.slots.length :=
    fun other differs there =>
    Nat.lt_irrefl _ (tidy.housed other _ ((old other differs).symm.trans there))
  by_cases isFirst : first = id
  · subst isFirst
    cases own.symm.trans one
    by_contra differs
    exact apart second (Ne.symm differs) two
  · by_cases isSecond : second = id
    · subst isSecond
      cases own.symm.trans two
      exact absurd one (apart first isFirst)
    · exact tidy.apart first second handle ((old first isFirst).symm.trans one) ((old second isSecond).symm.trans two)

theorem Tidy.of_same {other : Bank D} (tidy : bank.Tidy) (index : other.index = bank.index)
    (slots : other.slots.length = bank.slots.length) : other.Tidy := by
  have handles : ∀ id, other.handle? id = bank.handle? id := fun id => by rw [handle?, handle?, index]
  exact ⟨fun id handle there => slots.symm ▸ tidy.housed id handle ((handles id).symm.trans there),
    fun first second handle one two => tidy.apart first second handle ((handles first).symm.trans one)
      ((handles second).symm.trans two)⟩

inductive Found (bank : Bank D) (id : String) (handle : Nat) (device : D) : Bank D → Prop where
  | registered (found : bank.find? id = some (handle, device)) : Found bank id handle device bank
  | added (fresh : bank.find? id = none) (last : handle = bank.slots.length) :
      Found bank id handle device (bank.add id device)

structure Kept (bank : Bank D) (id : String) (handle : Nat) (device : D) (after : Bank D) : Prop where
  tidy : after.Tidy
  own : after.handle? id = some handle
  handles : ∀ other, other ≠ id → after.handle? other = bank.handle? other
  slots : ∀ other device, bank.get? other = some device → after.get? other = some device
  more : bank.slots.length ≤ after.slots.length
  members : ∀ other ∈ after.slots, other ∈ bank.slots ∨ other = device

theorem Found.kept {id : String} {handle : Nat} {device : D} {after : Bank D} (found : bank.Found id handle device after)
    (tidy : bank.Tidy) : bank.Kept id handle device after := by
  cases found with
  | registered found =>
      obtain ⟨registered, there⟩ := (bank.find_iff id handle device).mp found
      exact ⟨tidy, registered, fun _ _ => rfl, fun _ _ there => there, Nat.le_refl _, fun _ => Or.inl⟩
  | added fresh last =>
      subst last
      refine ⟨tidy.add id device, Tree.lookup_insert_self id _ _,
        fun other differs => Tree.lookup_insert_other id other _ _ differs, fun other old there => ?_, ?_,
        fun other member => (List.mem_append.mp member).imp_right List.mem_singleton.mp⟩
      · exact (List.getElem?_append_left (List.getElem?_eq_some_iff.mp there).1).trans there
      · rw [add, List.length_append]
        exact Nat.le_add_right _ _

end Bank

theorem Bank.Found.older {start bank after : Bank (Axis Rat)} {id : String} {handle : Nat} {axis : Axis Rat}
    (found : bank.Found id handle axis after) (same : bank.find? id = start.find? id)
    (more : start.slots.length ≤ bank.slots.length) :
    ∀ old, start.get? handle = some old → old.generation ≤ axis.generation := by
  intro old isOld
  cases found with
  | registered found =>
      cases ((start.find_iff _ _ _).mp (same ▸ found)).2.symm.trans isOld
      exact Nat.le_refl _
  | added fresh last =>
      have inside : handle < start.slots.length := (List.getElem?_eq_some_iff.mp isOld).1
      rw [last] at inside
      exact absurd (inside.trans_le more) (Nat.lt_irrefl _)

-- The axis that a command to an id finds: the registered one, or else the one that the driver makes of the record.
def Cell.axisAt? {R : Type} [Scalar R] (spec : AxisSpec R) (cell : Cell R) : Option (Axis R) :=
  match cell.axes.find? spec.id with
  | some entry => some entry.2
  | none =>
      match cell.driver.createAxis spec with
      | .ok made => made
      | .error _ => none

theorem Cell.finds_at {R : Type} [Scalar R] (cell : Cell R) (spec : AxisSpec R) (axis : Axis R)
    (declared : cell.machine.axis? spec.id = some spec) (offered : cell.axisAt? spec = some axis) :
    ∃ handle axes, cell.FindsAxis spec.id handle axis axes ∧ cell.axes.Found spec.id handle axis axes := by
  have finds_of : ∀ handle axes, findAxis spec.id cell = (.ok (handle, axis), { cell with axes := axes }) →
      cell.FindsAxis spec.id handle axis axes := by
    intro handle axes finds
    obtain ⟨others, found⟩ := Cell.finds_axis spec.id cell _ handle axis finds
    have same := congrArg (fun result => (result.2 : Cell R).axes) (finds.symm.trans (found.finds cell.traces))
    exact (show axes = others from same) ▸ found
  unfold axisAt? at offered
  cases registered : cell.axes.find? spec.id with
  | some entry =>
      obtain ⟨handle, held⟩ := entry
      rw [registered] at offered
      cases offered
      refine ⟨handle, cell.axes, finds_of _ _ ?_, .registered registered⟩
      rw [findAxis, Act.get_bind_apply]
      simp only [registered]
      rfl
  | none =>
      rw [registered] at offered
      refine ⟨_, _, finds_of cell.axes.slots.length (cell.axes.add spec.id axis) ?_, .added registered rfl⟩
      cases created : cell.driver.createAxis spec with
      | error reason =>
          simp only [created] at offered
          cases offered
      | ok made =>
          simp only [created] at offered
          subst offered
          rw [findAxis, Act.get_bind_apply]
          simp only [registered, declared]
          rw [makeAxis, Act.get_bind_apply]
          simp only [created]
          rfl

def Axis.sentHome (axis : Axis Rat) : Axis Rat :=
  axis.publish (axis.wayHome.state fractions axis.state.homed true 0) (axis.generation + 1)

-- An axis that a branch has sent home: the record and the axis that was found, its handle, and what the branch waits
-- by.
structure Departure where
  spec : AxisSpec Rat
  axis : Axis Rat
  handle : Nat
  key : Nat
  order : Nat
  mover : Option Nat

namespace Departure

def homing (departure : Departure) : Homing Rat :=
  ⟨Flow.home departure.spec.id, departure.handle, departure.axis.wayHome, departure.axis.state.homed,
    departure.axis.sentHome, departure.key, departure.order, departure.mover⟩

def branch (limit now : Nat) (departure : Departure) : Branch Rat :=
  if departure.axis.wayHome.ticks = 0 ∨ limit ≤ now then .ended (.number departure.axis.sentHome.state.position)
  else .running (departure.homing.run limit)

def effects (departure : Departure) : List (Effect Rat) :=
  .signal (.axis departure.handle) ::
    if departure.axis.wayHome.ticks = 0 then []
    else [.motion departure.handle (departure.axis.wayHome.motion fractions true departure.axis.sentHome)]

structure Leaves (departure : Departure) (limit : Nat) (axes : Bank (Axis Rat)) (cell after : Cell Rat) : Prop where
  machine : after.machine = cell.machine
  driver : after.driver = cell.driver
  live : after.live = cell.live
  waitBound : after.waitBound = cell.waitBound
  now : after.now = cell.now
  cancelled : after.cancelled = cell.cancelled
  actuators : after.actuators = cell.actuators
  issued : cell.issued ≤ after.issued
  index : after.axes.index = axes.index
  slots : after.axes.slots.length = axes.slots.length
  others : ∀ other, other ≠ departure.handle → after.axes.get? other = axes.get? other
  there : after.axes.get? departure.handle =
    some (if limit ≤ cell.now then departure.axis.sentHome.halt else departure.axis.sentHome)
  asks : ∃ signals : List Signal, after.outbox = cell.outbox ++ departure.effects ++ signals.map .signal

theorem sent_moving (axis : Axis Rat) : axis.sentHome.state.moving = decide (0 < axis.wayHome.ticks) := rfl

theorem sent_halt (axis : Axis Rat) (arrived : axis.wayHome.ticks = 0) : axis.sentHome.halt = axis.sentHome := by
  rw [Axis.halt, sent_moving, arrived]
  rfl

theorem leaves_sent {cell : Cell Rat} {limit : Nat} {axes : Bank (Axis Rat)} (departure : Departure) (traces : Stream Trace)
    (present : axes.get? departure.handle = some departure.axis)
    (isSent : limit ≤ cell.now → departure.axis.sentHome.halt = departure.axis.sentHome) {motion? : Option (AxisMotion Rat)}
    (motion : .signal (.axis departure.handle) :: motion?.toList.map (fun motion => .motion departure.handle motion) =
      departure.effects) :
    departure.Leaves limit axes cell (cell.commanded traces axes departure.handle departure.axis.sentHome motion?) := by
  refine ⟨rfl, rfl, rfl, rfl, rfl, rfl, rfl, Nat.le_refl _, rfl, List.length_set .., fun other differs => ?_, ?_, [], ?_⟩
  · exact List.getElem?_set_ne (Ne.symm differs)
  · have put : (axes.set departure.handle departure.axis.sentHome).get? departure.handle = some departure.axis.sentHome :=
      Bank.get_set present _
    split
    · rw [isSent ‹_›]
      exact put
    · exact put
  · rw [List.map_nil, List.append_nil, ← motion]
    rfl

theorem stop_leaves {cell : Cell Rat} {handle : Nat} {axis : Axis Rat} (there : cell.axes.get? handle = some axis) :
    ∃ signals : List Signal, cell.stopAxis handle =
      { cell with axes := cell.axes.set handle axis.stop, outbox := cell.outbox ++ signals.map .signal } := by
  simp only [Cell.stopAxis, there, Cell.putAxis]
  split
  · exact ⟨[], by simp⟩
  · exact ⟨[.axis handle], rfl⟩

theorem leaves_stopped {cell sent : Cell Rat} {limit other : Nat} {axes : Bank (Axis Rat)} {departure : Departure}
    (left : departure.Leaves other axes cell sent) (going : departure.axis.sentHome.state.moving = true)
    (there : sent.axes.get? departure.handle = some departure.axis.sentHome) (late : limit ≤ cell.now) :
    departure.Leaves limit axes cell (sent.stopAxis departure.handle) := by
  obtain ⟨signals, stopped⟩ := stop_leaves there
  obtain ⟨earlier, asks⟩ := left.asks
  rw [stopped]
  refine ⟨left.machine, left.driver, left.live, left.waitBound, left.now, left.cancelled, left.actuators, left.issued,
    left.index, (List.length_set ..).trans left.slots, fun other differs => ?_, ?_, earlier ++ signals, ?_⟩
  · exact (List.getElem?_set_ne (Ne.symm differs)).trans (left.others other differs)
  · rw [if_pos late, Axis.halt, if_pos going]
    exact Bank.get_set there _
  · show sent.outbox ++ signals.map .signal = _
    rw [asks, List.map_append, List.append_assoc]

theorem await_late {cell : Cell Rat} {handle : Nat} {axis : Axis Rat} {bound : Duration}
    (there : cell.axes.get? handle = some axis) (moves : axis.state.moving = true)
    (late : Duration.due cell.now bound ≤ cell.now) :
    cell.awaitIdle handle bound = (.value (.number axis.state.position), cell.stopAxis handle) := by
  have going : cell.moving handle = true := by simpa [Cell.moving, there] using moves
  rw [Cell.awaitIdle, if_pos going, Cell.alarm_over bound _ rfl late]
  simp only [Cell.lookIdle, if_pos going, Cell.position, there]

theorem Leaves.later {departure : Departure} {limit : Nat} {axes : Bank (Axis Rat)} {cell after : Cell Rat}
    (left : departure.Leaves limit axes cell after) (traces : Stream Trace) (more : Nat) :
    departure.Leaves limit axes cell { after with traces := traces, issued := after.issued + more } :=
  ⟨left.machine, left.driver, left.live, left.waitBound, left.now, left.cancelled, left.actuators,
    left.issued.trans (Nat.le_add_right _ _), left.index, left.slots, left.others, left.there, left.asks⟩

theorem starts {cell : Cell Rat} {spec : AxisSpec Rat} {axis : Axis Rat} {handle : Nat} {axes : Bank (Axis Rat)}
    (mover : Option Nat) (found : cell.FindsAxis spec.id handle axis axes) (kind : cell.kind? spec.id = some .axis)
    (known : spec.id ≠ systemName) (valid : axis.spec.validate = .ok ()) (lasts : axis.tick ≠ 0)
    (uncut : cell.cancelled = false) (live : cell.live = true) :
    let limit := Duration.due cell.now cell.waitBound
    ∃ key order progress after, (Flow.home spec.id).start .standard cell = (progress, after) ∧
      Branch.Comes progress (Departure.branch limit cell.now ⟨spec, axis, handle, key, order, mover⟩) ∧
      Leaves ⟨spec, axis, handle, key, order, mover⟩ limit axes cell after ∧ cell.issued ≤ key := by
  intro limit
  obtain ⟨v, effective, -, moves, commanded⟩ := Leg.of_command fractions Exact.fractions_timed axis valid lasts axis.spec.min
    axis.spec.max axis.spec.maxSpeed axis.state.position axis.homeTarget rfl rfl rfl rfl none true
  cases effective
  have same : (⟨axis.state.position, max axis.spec.min (min axis.homeTarget axis.spec.max),
      axis.spec.maxSpeed * ((axis.tick : Rat) / 1000000000)⟩ : Leg) = axis.wayHome := by rw [axis.home_inside valid]; rfl
  rw [same] at moves commanded
  have resolved : HandlerTable.standard.resolve cell ⟨spec.id, .home, [], none⟩ = .ok Action.Motion.home :=
    resolve_known _ ⟨spec.id, .home, [], none⟩ .axis _ known cell kind rfl
  have opens : (Vigil.idle handle).Opens (Flow.home spec.id) .standard cell.waitBound cell _ :=
    Vigil.opens_home uncut live resolved commanded (Nat.succ_ne_self _) found
  rw [Vigil.Opens] at opens
  generalize sentIs : cell.commanded _ axes handle _ _ = sent at opens
  have arrived : axis.wayHome.ticks = 0 ↔ axis.wayHome.start = axis.wayHome.target := Leg.ticks_eq_zero_iff moves
  have asked : ∀ key order, .signal (.axis handle) :: (if axis.wayHome.start = axis.wayHome.target then none
      else some (⟨axis.generation + 1, fractions.of axis.wayHome.target, fractions.of axis.wayHome.step, true⟩ :
        AxisMotion Rat)).toList.map (fun motion => .motion handle motion) =
      effects ⟨spec, axis, handle, key, order, mover⟩ := by
    intro key order
    simp only [effects, arrived]
    split
    · rfl
    · rfl
  have there : sent.axes.get? handle = some axis.sentHome := by
    rw [← sentIs]
    exact Bank.get_set found.there _
  have isThere : (Vigil.idle handle).seen sent = some axis.sentHome := there
  have now : sent.now = cell.now := sentIs ▸ rfl
  have issued : sent.issued = cell.issued := sentIs ▸ rfl
  have leaves : ∀ key order other, (other ≤ cell.now → axis.sentHome.halt = axis.sentHome) →
      Leaves ⟨spec, axis, handle, key, order, mover⟩ other axes cell sent := fun key order other halted =>
    sentIs ▸ leaves_sent ⟨spec, axis, handle, key, order, mover⟩ _ found.there halted (asked key order)
  by_cases ended : axis.wayHome.ticks = 0
  · have met : (Vigil.idle handle : Vigil Rat (Axis Rat)).met axis.sentHome = true := by
      show (!decide (0 < axis.wayHome.ticks)) = true
      simp [ended]
    rw [(Vigil.idle_lawful handle).stands sent _ _ isThere met] at opens
    refine ⟨cell.issued, 0, _, _, opens, ?_, (leaves _ _ limit fun _ => sent_halt axis ended).later _ 0, Nat.le_refl _⟩
    rw [branch, if_pos (Or.inl ended)]
    exact .ended _
  · have going : axis.sentHome.state.moving = true := by
      rw [sent_moving]
      exact decide_eq_true (Nat.pos_of_ne_zero ended)
    have unmet : (Vigil.idle handle : Vigil Rat (Axis Rat)).met axis.sentHome = false := by
      show (!axis.sentHome.state.moving) = false
      rw [going]
      rfl
    by_cases late : limit ≤ cell.now
    · have isLate : Duration.due sent.now cell.waitBound ≤ sent.now := now.symm ▸ late
      have awaits : (Vigil.idle handle).await cell.waitBound sent = _ := await_late there going isLate
      rw [awaits] at opens
      have stopped : Leaves ⟨spec, axis, handle, cell.issued, 0, mover⟩ limit axes cell (sent.stopAxis handle) :=
        leaves_stopped (leaves _ _ (cell.now + 1) fun far => absurd far (Nat.not_succ_le_self _)) going there late
      refine ⟨cell.issued, 0, _, _, opens, ?_, stopped.later _ 0, Nat.le_refl _⟩
      rw [branch, if_pos (Or.inr late)]
      exact .ended _
    · have isEarly : sent.now < Duration.due sent.now cell.waitBound := now.symm ▸ Nat.lt_of_not_le late
      rw [(Vigil.idle_lawful handle).begins sent _ _ isThere unmet isEarly] at opens
      refine ⟨sent.issued + 1, sent.issued, _, _, opens, ?_, (leaves _ _ limit fun far => absurd far late).later _ 2, ?_⟩
      · rw [branch, if_neg (not_or.mpr ⟨ended, late⟩)]
        have limited : Duration.due sent.now cell.waitBound = limit := by rw [now]
        rw [limited]
        exact .waits _
      · rw [issued]
        exact Nat.le_succ _

end Departure

end Workcell

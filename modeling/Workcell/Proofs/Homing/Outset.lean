import Workcell.Proofs.Completion.Fitness
import Workcell.Proofs.Homing.Departure

/-!
Axes are sent home one after another in a turn: what becomes of the cell, and what the scheduler is asked for, in which each
axis has its own motion.
-/

set_option autoImplicit false

namespace Workcell

open Exact (fractions)

def Effect.begins {R : Type} : Effect R → Bool
  | .motion .. => true
  | .stroke .. => true
  | _ => false

def Effect.Moves {R : Type} (sort : Nat → Prop) : Effect R → Prop
  | .motion handle _ => sort handle
  | .stroke .. => False
  | _ => True

theorem Effect.Moves.imp {R : Type} {sort other : Nat → Prop} {effect : Effect R} (moves : effect.Moves sort)
    (also : ∀ handle, sort handle → other handle) : effect.Moves other := by
  cases effect with
  | motion handle way => exact also handle moves
  | stroke handle way => exact moves
  | signal signal => trivial
  | again key => trivial
  | rest key => trivial

theorem begun_length {R J : Type} [Scalar R] (motor : Motor R → J) (effects : List (Effect R)) :
    (Request.begun (effects.map (Effect.request motor))).length = effects.countP Effect.begins := by
  induction effects with
  | nil => rfl
  | cons effect rest ih =>
      rw [List.map_cons, List.countP_cons, ← ih]
      cases effect with
      | motion handle way => rfl
      | stroke handle way => rfl
      | signal signal => rfl
      | again key => rfl
      | rest key => rfl

theorem Axis.halt_tick {R : Type} (axis : Axis R) : axis.halt.tick = axis.tick := by
  unfold halt
  split
  · unfold stop
    split
    · rfl
    · rfl
  · rfl

namespace Departure

def motion (departure : Departure) : AxisMotion Rat := departure.axis.wayHome.motion fractions true departure.axis.sentHome

structure Off (start : Cell Rat) (number : Nat) (departure : Departure) (cell : Cell Rat) : Prop where
  handle : cell.axes.handle? departure.spec.id = some departure.handle
  there : cell.axes.get? departure.handle = some (if Duration.due start.now start.waitBound ≤ start.now then
    departure.axis.sentHome.halt else departure.axis.sentHome)
  valid : departure.axis.spec.validate = .ok ()
  lasts : departure.axis.tick ≠ 0
  offered : start.axisAt? departure.spec = some departure.axis
  older : ∀ old, start.axes.get? departure.handle = some old → old.generation ≤ departure.axis.generation
  keyed : start.issued ≤ departure.key
  still : departure.axis.wayHome.ticks = 0 →
    departure.mover = none ∧ ∀ effect ∈ cell.outbox, effect.Moves (· ≠ departure.handle)
  sent : departure.axis.wayHome.ticks ≠ 0 → ∃ first later,
    cell.outbox = first ++ .motion departure.handle departure.motion :: later ∧
    (∀ effect ∈ first ++ later, effect.Moves (· ≠ departure.handle)) ∧
    departure.mover = some (number + first.countP Effect.begins)

end Departure

namespace Departure

structure Sent (departure : Departure) (limit number : Nat) (axes : Bank (Axis Rat)) (cell after : Cell Rat) : Prop where
  origin : cell.axes.Found departure.spec.id departure.handle departure.axis axes
  before : cell.axes.Tidy
  left : departure.Leaves limit axes cell after
  valid : departure.axis.spec.validate = .ok ()
  lasts : departure.axis.tick ≠ 0
  mover : departure.mover =
    if departure.axis.wayHome.ticks = 0 then none else some (number + cell.outbox.countP Effect.begins)

namespace Sent

variable {departure : Departure} {limit number : Nat} {axes : Bank (Axis Rat)} {start cell after : Cell Rat}

theorem kept (sent : departure.Sent limit number axes cell after) :
    cell.axes.Kept departure.spec.id departure.handle departure.axis axes := sent.origin.kept sent.before

theorem handles (sent : departure.Sent limit number axes cell after) (id : String) :
    after.axes.handle? id = axes.handle? id := by
  rw [Bank.handle?, Bank.handle?, sent.left.index]

theorem tidy (sent : departure.Sent limit number axes cell after) : after.axes.Tidy :=
  sent.kept.tidy.of_same sent.left.index sent.left.slots

theorem own (sent : departure.Sent limit number axes cell after) :
    after.axes.handle? departure.spec.id = some departure.handle := (sent.handles _).trans sent.kept.own

theorem keeps (sent : departure.Sent limit number axes cell after) {id : String} {handle : Nat}
    (there : cell.axes.handle? id = some handle) (differs : id ≠ departure.spec.id) : after.axes.handle? id = some handle :=
  (sent.handles id).trans ((sent.kept.handles id differs).trans there)

theorem apart (sent : departure.Sent limit number axes cell after) (id : String) (handle : Nat)
    (there : after.axes.handle? id = some handle) (differs : id ≠ departure.spec.id) : handle ≠ departure.handle := by
  rintro rfl
  exact differs (sent.tidy.apart id departure.spec.id departure.handle there sent.own)

theorem find_other (sent : departure.Sent limit number axes cell after) {id : String} (differs : id ≠ departure.spec.id) :
    after.axes.find? id = cell.axes.find? id := by
  have registered : after.axes.handle? id = cell.axes.handle? id :=
    (sent.handles id).trans (sent.kept.handles id differs)
  rw [Bank.find?, Bank.find?, registered]
  cases held : cell.axes.handle? id with
  | none => rfl
  | some slot =>
      have there := List.getElem?_eq_getElem (sent.before.housed id slot held)
      have other : slot ≠ departure.handle := sent.apart id slot (registered.trans held) differs
      rw [Option.bind_some, Option.bind_some, sent.left.others slot other, sent.kept.slots slot _ there]
      exact congrArg (Option.map _) there.symm

theorem ticking (sent : departure.Sent limit number axes cell after) (ticking : cell.Ticking) : after.Ticking := by
  refine ⟨fun other member => ?_, sent.left.actuators ▸ ticking.actuators⟩
  obtain ⟨slot, there⟩ := List.getElem?_of_mem member
  by_cases own : slot = departure.handle
  · subst own
    cases (sent.left.there.symm.trans there : some _ = some other)
    split
    · rw [Axis.halt_tick]
      exact sent.lasts
    · exact sent.lasts
  · have inside : other ∈ axes.slots := List.mem_of_getElem? ((sent.left.others slot own).symm.trans there)
    rcases sent.kept.members other inside with old | rfl
    · exact ticking.axes other old
    · exact sent.lasts

theorem asks (sent : departure.Sent limit number axes cell after) : ∃ signals : List Signal,
    after.outbox = cell.outbox ++ (departure.effects ++ signals.map .signal) := by
  obtain ⟨signals, asks⟩ := sent.left.asks
  exact ⟨signals, asks.trans (List.append_assoc ..)⟩

theorem signals_move (signals : List Signal) (sort : Nat → Prop) :
    ∀ effect ∈ signals.map (Effect.signal (R := Rat)), effect.Moves sort := by
  intro effect member
  obtain ⟨_, -, rfl⟩ := List.mem_map.mp member
  trivial

theorem effects_move {signals : List Signal} :
    ∀ effect ∈ departure.effects ++ signals.map .signal, effect.Moves (· = departure.handle) := by
  intro effect member
  rcases List.mem_append.mp member with own | signal
  · rcases List.mem_cons.mp own with rfl | motion
    · trivial
    · split at motion
      · cases motion
      · rw [List.mem_singleton.mp motion]
        rfl
  · exact signals_move signals _ effect signal

theorem asked (sent : departure.Sent limit number axes cell after) :
    ∀ effect ∈ after.outbox, effect ∈ cell.outbox ∨ effect.Moves (· = departure.handle) := by
  obtain ⟨signals, asks⟩ := sent.asks
  intro effect member
  rw [asks] at member
  exact (List.mem_append.mp member).imp_right (effects_move effect)

theorem off (sent : departure.Sent (Duration.due start.now start.waitBound) number axes cell after)
    (now : cell.now = start.now) (offered : start.axisAt? departure.spec = some departure.axis)
    (older : ∀ old, start.axes.get? departure.handle = some old → old.generation ≤ departure.axis.generation)
    (keyed : start.issued ≤ departure.key) (elsewhere : ∀ effect ∈ cell.outbox, effect.Moves (· ≠ departure.handle)) :
    departure.Off start number after := by
  obtain ⟨signals, asks⟩ := sent.asks
  refine ⟨sent.own, ?_, sent.valid, sent.lasts, offered, older, keyed, fun still => ⟨?_, fun effect inside => ?_⟩,
    fun going => ?_⟩
  · rw [sent.left.there, now]
  · rw [sent.mover, if_pos still]
  · rw [asks, effects, if_pos still] at inside
    rcases List.mem_append.mp inside with before | signal
    · exact elsewhere effect before
    · exact signals_move (.axis departure.handle :: signals) _ effect signal
  · refine ⟨cell.outbox ++ [.signal (.axis departure.handle)], signals.map .signal, ?_, fun effect inside => ?_, ?_⟩
    · rw [asks, effects, if_neg going, List.append_assoc]
      rfl
    · rw [List.append_assoc] at inside
      rcases List.mem_append.mp inside with before | signal
      · exact elsewhere effect before
      · exact signals_move (.axis departure.handle :: signals) _ effect signal
    · rw [sent.mover, if_neg going, List.countP_append]
      rfl

end Sent

theorem Off.next {departure other : Departure} {limit number : Nat} {axes : Bank (Axis Rat)} {start cell after : Cell Rat}
    (off : other.Off start number cell) (sent : departure.Sent limit number axes cell after)
    (fresh : other.spec.id ≠ departure.spec.id) (apart : other.handle ≠ departure.handle) :
    other.Off start number after := by
  obtain ⟨signals, asks⟩ := sent.asks
  have added : ∀ effect ∈ departure.effects ++ signals.map .signal, effect.Moves (· ≠ other.handle) := fun effect member =>
    (Sent.effects_move effect member).imp fun handle own => own ▸ apart.symm
  refine ⟨sent.keeps off.handle fresh, ?_, off.valid, off.lasts, off.offered, off.older, off.keyed, fun still => ?_,
    fun going => ?_⟩
  · rw [sent.left.others other.handle apart]
    exact sent.kept.slots _ _ off.there
  · refine ⟨(off.still still).1, fun effect inside => ?_⟩
    rw [asks] at inside
    exact (List.mem_append.mp inside).elim ((off.still still).2 effect) (added effect)
  · obtain ⟨first, later, isSent, moves, number⟩ := off.sent going
    refine ⟨first, later ++ (departure.effects ++ signals.map .signal), ?_, fun effect inside => ?_, number⟩
    · rw [asks, isSent, List.append_assoc, List.cons_append]
    · rw [← List.append_assoc] at inside
      exact (List.mem_append.mp inside).elim (moves effect) (added effect)

end Departure

-- Some axes have been sent home since the start of the turn.
structure Cell.Outset (start : Cell Rat) (number : Nat) (departures : List Departure) (cell : Cell Rat) : Prop where
  machine : cell.machine = start.machine
  driver : cell.driver = start.driver
  live : cell.live = start.live
  waitBound : cell.waitBound = start.waitBound
  now : cell.now = start.now
  cancelled : cell.cancelled = start.cancelled
  tidy : cell.axes.Tidy
  ticking : cell.Ticking
  issued : start.issued ≤ cell.issued
  more : start.axes.slots.length ≤ cell.axes.slots.length
  others : ∀ id, (∀ departure ∈ departures, departure.spec.id ≠ id) → cell.axes.find? id = start.axes.find? id
  each : ∀ departure ∈ departures, departure.Off start number cell
  asks : ∀ effect ∈ cell.outbox, effect.Moves fun handle => ∃ departure ∈ departures, departure.handle = handle

namespace Cell.Outset

variable {start cell : Cell Rat} {number : Nat} {departures : List Departure}

theorem begins (quiet : start.outbox = []) (tidy : start.axes.Tidy) (ticking : start.Ticking) :
    start.Outset number [] start := by
  refine ⟨rfl, rfl, rfl, rfl, rfl, rfl, tidy, ticking, Nat.le_refl _, Nat.le_refl _, fun _ _ => rfl,
    (fun _ member => nomatch member), fun effect member => ?_⟩
  rw [quiet] at member
  cases member

theorem next (outset : start.Outset number departures cell) (fit : start.machine.Fit) {spec : AxisSpec Rat} {axis : Axis Rat}
    (declared : start.machine.axis? spec.id = some spec) (member : spec ∈ start.machine.axes)
    (fresh : ∀ departure ∈ departures, departure.spec.id ≠ spec.id) (offered : start.axisAt? spec = some axis)
    (valid : axis.spec.validate = .ok ()) (lasts : axis.tick ≠ 0) (uncut : start.cancelled = false)
    (live : start.live = true) :
    ∃ departure progress after, departure.spec = spec ∧ departure.axis = axis ∧
      (Flow.home spec.id).start .standard cell = (progress, after) ∧
      Branch.Comes progress (departure.branch (Duration.due start.now start.waitBound) start.now) ∧
      start.Outset number (departures ++ [departure]) after := by
  have same : cell.axes.find? spec.id = start.axes.find? spec.id := outset.others spec.id fresh
  have offers : cell.axisAt? spec = some axis := by
    rw [← offered, axisAt?, axisAt?, same, outset.driver]
  obtain ⟨handle, axes, found, origin⟩ := cell.finds_at spec axis (outset.machine ▸ declared) offers
  have kind : cell.kind? spec.id = some .axis := by
    rw [Cell.kind?, Machine.kind?, outset.machine, declared]
  let mover : Option Nat := if axis.wayHome.ticks = 0 then none else some (number + cell.outbox.countP Effect.begins)
  obtain ⟨key, order, progress, after, started, comes, left, keyed⟩ := Departure.starts mover found kind
    (fit.axes spec member).1 valid lasts (outset.cancelled.trans uncut) (outset.live.trans live)
  rw [outset.now, outset.waitBound] at comes left
  let new : Departure := ⟨spec, axis, handle, key, order, mover⟩
  have sent : new.Sent (Duration.due start.now start.waitBound) number axes cell after :=
    ⟨origin, outset.tidy, left, valid, lasts, rfl⟩
  have apart : ∀ departure ∈ departures, departure.handle ≠ handle := fun departure inside =>
    sent.apart _ _ (sent.keeps (outset.each departure inside).handle (fresh departure inside)) (fresh departure inside)
  have elsewhere : ∀ effect ∈ cell.outbox, effect.Moves (· ≠ handle) := fun effect inside =>
    (outset.asks effect inside).imp fun other held => by
      obtain ⟨departure, old, rfl⟩ := held
      exact apart departure old
  have older : ∀ old, start.axes.get? handle = some old → old.generation ≤ axis.generation :=
    origin.older same outset.more
  refine ⟨new, progress, after, rfl, rfl, started, comes, left.machine.trans outset.machine,
    left.driver.trans outset.driver, left.live.trans outset.live, left.waitBound.trans outset.waitBound,
    left.now.trans outset.now, left.cancelled.trans outset.cancelled, sent.tidy, sent.ticking outset.ticking,
    outset.issued.trans left.issued, (outset.more.trans sent.kept.more).trans left.slots.ge, fun id others => ?_,
    fun departure inside => ?_, fun effect inside => ?_⟩
  · have differs : id ≠ spec.id := fun same =>
      others new (List.mem_append_right _ (List.mem_singleton.mpr rfl)) same.symm
    exact (sent.find_other differs).trans
      (outset.others id fun departure inside => others departure (List.mem_append_left _ inside))
  · rcases List.mem_append.mp inside with old | last
    · exact (outset.each departure old).next sent (fresh departure old) (apart departure old)
    · rw [List.mem_singleton.mp last]
      exact sent.off outset.now offered older (outset.issued.trans keyed) elsewhere
  · rcases sent.asked effect inside with old | last
    · refine (outset.asks effect old).imp fun other held => ?_
      obtain ⟨departure, inside, same⟩ := held
      exact ⟨departure, List.mem_append_left _ inside, same⟩
    · refine last.imp fun other own => ?_
      exact ⟨_, List.mem_append_right _ (List.mem_singleton.mpr rfl), own.symm⟩

theorem all (outset : start.Outset number departures cell) (valid : start.machine.validate = .ok ())
    (offers : ∀ spec ∈ start.machine.axes, ∃ axis, start.axisAt? spec = some axis ∧ axis.spec.validate = .ok () ∧
      axis.tick ≠ 0)
    (uncut : start.cancelled = false) (live : start.live = true) (specs : List (AxisSpec Rat))
    (split : departures.map Departure.spec ++ specs = start.machine.axes) :
    ∃ more after, Poll.Begun (Step.startAll .standard (specs.map fun spec => Flow.home spec.id)) cell
        (more.map (Departure.branch (Duration.due start.now start.waitBound) start.now)) after ∧
      more.map Departure.spec = specs ∧ start.Outset number (departures ++ more) after := by
  induction specs generalizing departures cell with
  | nil => exact ⟨[], cell, .nil, rfl, (List.append_nil departures).symm ▸ outset⟩
  | cons spec specs ih =>
      have member : spec ∈ start.machine.axes := split ▸ List.mem_append_right _ List.mem_cons_self
      obtain ⟨-, -, distinct, -⟩ := start.machine.valid_iff.mp valid
      have ids : (start.machine.axes.map AxisSpec.id).Nodup := (List.nodup_append'.mp distinct).1
      have declared : start.machine.axis? spec.id = some spec :=
        (Machine.find_by_id AxisSpec.id start.machine.axes ids spec.id spec).mpr ⟨member, rfl⟩
      have fresh : ∀ departure ∈ departures, departure.spec.id ≠ spec.id := by
        intro departure inside same
        rw [← split, List.map_append] at ids
        refine (List.nodup_append'.mp ids).2.2 (List.mem_map_of_mem (List.mem_map_of_mem inside)) ?_
        rw [same]
        exact List.mem_cons_self
      obtain ⟨axis, offered, axisValid, lasts⟩ := offers spec member
      obtain ⟨departure, progress, between, rfl, -, started, comes, further⟩ :=
        outset.next (start.machine.fit_of_valid valid) declared member fresh offered axisValid lasts uncut live
      obtain ⟨more, after, begun, specs, last⟩ := ih further (by rw [List.map_append, List.append_assoc]; exact split)
      refine ⟨departure :: more, after, .cons started comes begun, congrArg _ specs, ?_⟩
      rw [List.append_assoc] at last
      exact last

end Cell.Outset

end Workcell

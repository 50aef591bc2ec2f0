import Workcell.Proofs.Action.Basis
import Workcell.Proofs.Kin.Law

/-!
Cells adrift: the same cell on a clock that is ahead, with other numbers given out. What is done in a cell is done in it
adrift too, as long as no span ends past the last instant that has a name on one clock and before it on the other.
-/

set_option autoImplicit false

namespace Workcell

-- How one side has drifted from the other.
structure Drift where
  ahead : Nat
  limit : Nat
  key : Nat → Nat
  -- From here on the numbers are given out side by side.
  base : Nat
  rises : ∀ one other, one < other → key one < key other
  even : ∀ number, base ≤ number → key (number + 1) = key number + 1

namespace Drift

variable (drift : Drift)

theorem apart (one other : Nat) (same : drift.key one = drift.key other) : one = other := by
  rcases Nat.lt_trichotomy one other with less | equal | more
  · exact absurd same (Nat.ne_of_lt (drift.rises one other less))
  · exact equal
  · exact absurd same.symm (Nat.ne_of_lt (drift.rises other one more))

theorem key_lt_iff (one other : Nat) : drift.key one < drift.key other ↔ one < other := by
  refine ⟨fun less => ?_, drift.rises one other⟩
  apply Classical.byContradiction
  intro notLess
  rcases Nat.lt_or_eq_of_le (Nat.le_of_not_lt notLess) with more | equal
  · exact Nat.lt_asymm less (drift.rises other one more)
  · exact Nat.lt_irrefl _ (equal ▸ less)

-- A span whose end has a name on both clocks, or on neither, whenever it begins.
def Plain (span : Duration) : Prop :=
  ∀ now, now ≤ drift.limit → Duration.beyond (now + drift.ahead) span = Duration.beyond now span

theorem plain_of_short (span : Duration)
    (short : (drift.limit + drift.ahead) * 1000000 + span < Duration.horizon) : drift.Plain span := by
  intro now early
  have late : (now + drift.ahead) * 1000000 + span < Duration.horizon :=
    Nat.lt_of_le_of_lt (Nat.add_le_add_right (Nat.mul_le_mul_right _ (Nat.add_le_add_right early _)) _) short
  have soon : now * 1000000 + span < Duration.horizon :=
    Nat.lt_of_le_of_lt (Nat.add_le_add_right (Nat.mul_le_mul_right _ (Nat.le_add_right _ _)) _) late
  rw [Duration.beyond, Duration.beyond, decide_eq_false (Nat.not_le_of_gt late), decide_eq_false (Nat.not_le_of_gt soon)]

theorem due_of_plain (span : Duration) (plain : drift.Plain span) (now : Nat) (early : now ≤ drift.limit) :
    Duration.due (now + drift.ahead) span = Duration.due now span + drift.ahead := by
  rw [Duration.due, Duration.due, plain now early]
  split
  · exact Nat.add_right_comm _ _ _
  · exact Nat.add_right_comm _ _ _

def timer (timer : Timer) : Timer := ⟨timer.due + drift.ahead, drift.key timer.order⟩

variable {R : Type}

def wait : Wait R → Wait R
  | .delay timer => .delay (drift.timer timer)
  | .idle axis timer => .idle axis (drift.timer timer)
  | .settled actuator on timer => .settled actuator on (drift.timer timer)
  | .probe axis threshold deadline timer =>
      .probe axis threshold (deadline + Duration.ofMillis drift.ahead) (drift.timer timer)

def cast : Recast R := ⟨fun _ name => name, drift.key, drift.wait⟩

theorem cast_apart : (drift.cast (R := R)).Apart := drift.apart

theorem cast_times : (drift.cast (R := R)).Times drift.timer where
  timer wait := by cases wait <;> rfl
  -- By the equations of both: a mere comparison would have the deadlines compared first.
  signal wait := by cases wait <;> simp only [cast, Drift.wait, Wait.signal?]

def effect : Effect R → Effect R
  | .again key => .again (drift.key key)
  | .rest key => .rest (drift.key key)
  | other => other

end Drift

def Signal.isInner : Signal → Bool
  | .axis _ => true
  | .actuator _ => true
  | .cancelled => true
  | _ => false

def Tree.later {R : Type} (ahead : Nat) : Tree R → Tree R
  | .int base => .int (base + ahead)
  | other => other

namespace Event

variable {R : Type}

def later (ahead : Nat) (event : Event R) : Event R :=
  match event.kind, event.payload with
  | .flowStarted, some (.record fields) =>
      ⟨.flowStarted, event.message, some (.record (fields.map fun field =>
        (field.1, if field.1 = "tickBase" then field.2.later ahead else field.2)))⟩
  | _, _ => event

theorem flow_started_later (ahead : Nat) (scenario : String) (now version : Nat) :
    (flowStarted scenario now version : Event R).later ahead = flowStarted scenario (now + ahead) version := by
  have other : "scenario" ≠ "tickBase" := by decide
  have another : "schemaVersion" ≠ "tickBase" := by decide
  simp [later, flowStarted, withPayload, Tree.later, other, another]

theorem later_of_other (ahead : Nat) (event : Event R) (other : event.kind ≠ .flowStarted) :
    event.later ahead = event := by
  unfold later
  split
  · exact absurd ‹_› other
  · rfl

def undated (event : Event R) : Event R :=
  match event.kind, event.payload with
  | .flowStarted, some (.record fields) =>
      ⟨.flowStarted, event.message, some (.record (fields.filter fun field => !(field.1 == "tickBase")))⟩
  | _, _ => event

@[simp]
theorem undated_later (ahead : Nat) (event : Event R) : (event.later ahead).undated = event.undated := by
  obtain ⟨kind, message, payload⟩ := event
  by_cases starts : kind = .flowStarted
  · subst starts
    cases payload with
    | none => rfl
    | some tree =>
        cases tree with
        | record fields =>
            simp only [later, undated, Event.mk.injEq, Option.some.injEq, Tree.record.injEq, true_and, List.filter_map]
            refine (List.map_congr_left fun field member => ?_).trans (List.map_id _)
            have other : field.1 ≠ "tickBase" := by simpa using (List.mem_filter.mp member).2
            simp [other]
        | _ => rfl
  · rw [later_of_other ahead _ starts]

end Event

namespace Drift

variable {R : Type} (drift : Drift)

def cell (cell : Cell R) : Cell R :=
  { cell with
    now := cell.now + drift.ahead
    issued := drift.key cell.issued
    events := cell.events.map (Event.later drift.ahead)
    outbox := cell.outbox.map drift.effect }

-- A cell whose own spans are plain: the bounds of its waits, and the ticks of its devices and of those that its
-- driver makes. What it asks for by signals concerns its own devices, or its end.
structure Steady (cell : Cell R) : Prop where
  waitBound : drift.Plain cell.waitBound
  sampleTick : drift.Plain cell.sampleTick
  driver : ∀ tick, cell.driver = .simulation tick → drift.Plain tick
  axes : ∀ axis ∈ cell.axes.slots, drift.Plain axis.tick
  actuators : ∀ actuator ∈ cell.actuators.slots, drift.Plain actuator.tick
  signals : ∀ sent, .signal sent ∈ cell.outbox → sent.isInner = true

structure Fits (cell : Cell R) : Prop extends drift.Steady cell where
  issued : drift.base ≤ cell.issued
  now : cell.now ≤ drift.limit

end Drift

end Workcell

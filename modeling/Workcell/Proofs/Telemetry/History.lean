import Workcell.Proofs.Telemetry.Tables

/-!
Histories of a cell that is watched: what changes it, and when it is sampled. What a client knows who has only the
frames is a fold of them.
-/

set_option autoImplicit false

namespace Workcell

variable {R : Type}

inductive Change (R : Type) where
  | moveAxis (handle : Nat) (before after : Axis R)
  | moveActuator (handle : Nat) (before after : Actuator R)
  | newAxis (id : String) (axis : Axis R)
  | newActuator (id : String) (actuator : Actuator R)
  | put (station : String) (material : Material)
  | take (station : String)
  | push (event : Event R)
  | trace (step : Step R) (status : TraceStatus) (attempt : Nat)
  | clock (now : Nat)

namespace Change

def apply (cell : Cell R) : Change R → Cell R
  | .moveAxis handle before after => cell.putAxis handle before after
  | .moveActuator handle before after => cell.putActuator handle before after
  | .newAxis id axis => { cell with axes := cell.axes.add id axis }
  | .newActuator id actuator => { cell with actuators := cell.actuators.add id actuator }
  | .put station material => cell.putMaterial station material
  | .take station => (cell.takeMaterial station).2
  | .push event => cell.pushEvent event
  | .trace step status attempt => cell.trace step status attempt
  | .clock now => { cell with now := now }

def event? : Change R → Option (Event R)
  | .push event => some event
  | _ => none

def trace? : Change R → Option Trace
  | .trace step status attempt => some ⟨step.name, step.device, status, attempt⟩
  | _ => none

end Change

inductive Happening (R : Type) where
  | work (change : Change R)
  | force
  | sample

namespace Happening

def event? : Happening R → Option (Event R)
  | .work change => change.event?
  | _ => none

def trace? : Happening R → Option Trace
  | .work change => change.trace?
  | _ => none

def events (history : List (Happening R)) : List (Event R) := history.filterMap event?

def traces (history : List (Happening R)) : List Trace := history.filterMap trace?

-- No more traces come between two samples than the stream keeps for the sampler.
def Paced (history : List (Happening R)) : Prop :=
  ∀ earlier between later, history = earlier ++ between ++ later → .sample ∉ between →
    (traces between).length ≤ Trace.capacity

def lastBegun (traces : List Trace) : String :=
  let begun := traces.filter fun trace => trace.status = .running ∧ !isInternalStep trace.name
  (begun.getLast?.map Trace.name).getD ""

end Happening

-- A cell that is watched, and all the frames given so far.
structure Watch (R : Type) where
  cell : Cell R
  sampler : Sampler R
  tick : Nat
  frames : List (Frame R)

namespace Watch

def start (epsilon : R) (tick : Nat) (cell : Cell R) : Watch R :=
  ⟨cell, .new epsilon cell.traces.position, tick, []⟩

variable [Scalar R]

def after (watch : Watch R) : Happening R → Watch R
  | .work change => { watch with cell := change.apply watch.cell }
  | .force => { watch with sampler := watch.sampler.force }
  | .sample =>
      let (frame, sampler, tick, cell) := watch.sampler.sample watch.tick watch.cell
      ⟨cell, sampler, tick, watch.frames ++ frame.toList⟩

def run (watch : Watch R) (history : List (Happening R)) : Watch R := history.foldl after watch

end Watch

-- What somebody knows who has only the frames.
structure Client (R : Type) where
  values : List (String × R)
  table : List (String × Material)
  step : String
  events : List (Event R)

namespace Client

def told (client : Client R) (frame : Frame R) : Client R where
  values := (frame.values.getD []).foldl (fun table entry => Tree.insertField entry.1 entry.2 table) client.values
  table := frame.materials.getD client.table
  step := frame.step
  events := client.events ++ frame.events.getD []

def ofFrames (frames : List (Frame R)) : Client R := frames.foldl told ⟨[], [], "", []⟩

theorem of_frames_append (frames more : List (Frame R)) :
    ofFrames (frames ++ more) = more.foldl told (ofFrames frames) := List.foldl_append

end Client

namespace Cell

theorem put_axis_keeps (cell : Cell R) (handle : Nat) (before after : Axis R) :
    (cell.putAxis handle before after).axes.index = cell.axes.index ∧
      (cell.putAxis handle before after).actuators = cell.actuators ∧
      (cell.putAxis handle before after).materials = cell.materials ∧
      (cell.putAxis handle before after).events = cell.events ∧
      (cell.putAxis handle before after).traces = cell.traces := by
  by_cases shown : after.published = before.published <;> simp [putAxis, shown, signal, effect, Bank.set]

theorem put_actuator_keeps (cell : Cell R) (handle : Nat) (before after : Actuator R) :
    (cell.putActuator handle before after).actuators.index = cell.actuators.index ∧
      (cell.putActuator handle before after).axes = cell.axes ∧
      (cell.putActuator handle before after).materials = cell.materials ∧
      (cell.putActuator handle before after).events = cell.events ∧
      (cell.putActuator handle before after).traces = cell.traces := by
  by_cases shown : after.published = before.published <;> simp [putActuator, shown, signal, effect, Bank.set]

end Cell

structure Cell.Orderly (cell : Cell R) : Prop where
  axes : cell.axes.Ordered
  actuators : cell.actuators.Ordered
  capacity : cell.traces.capacity = Trace.capacity

namespace Cell.Orderly

theorem new (machine : Machine R) (driver : Driver) : (Cell.new machine driver).Orderly :=
  ⟨List.Pairwise.nil, List.Pairwise.nil, rfl⟩

theorem change (cell : Cell R) (orderly : cell.Orderly) (change : Change R) : (change.apply cell).Orderly := by
  obtain ⟨axes, actuators, capacity⟩ := orderly
  cases change with
  | moveAxis handle before after =>
      obtain ⟨index, others, -, -, traces⟩ := cell.put_axis_keeps handle before after
      refine ⟨?_, others ▸ actuators, traces ▸ capacity⟩
      exact (congrArg Tree.Ordered index).mpr axes
  | moveActuator handle before after =>
      obtain ⟨index, others, -, -, traces⟩ := cell.put_actuator_keeps handle before after
      refine ⟨others ▸ axes, ?_, traces ▸ capacity⟩
      exact (congrArg Tree.Ordered index).mpr actuators
  | newAxis id axis => exact ⟨Bank.ordered_add cell.axes id axis axes, actuators, capacity⟩
  | newActuator id actuator => exact ⟨axes, Bank.ordered_add cell.actuators id actuator actuators, capacity⟩
  | put station material => exact ⟨axes, actuators, capacity⟩
  | take station => exact ⟨axes, actuators, capacity⟩
  | push event => exact ⟨axes, actuators, capacity⟩
  | trace step status attempt => exact ⟨axes, actuators, capacity⟩
  | clock now => exact ⟨axes, actuators, capacity⟩

end Cell.Orderly

theorem Stream.since_read {A : Type} (stream : Stream A) (seen unread : List A) (sent : stream.sent = seen ++ unread)
    (few : unread.length ≤ stream.capacity) : stream.since seen.length = unread := by
  have newest : stream.newestFirst = unread.reverse ++ seen.reverse := by
    rw [← List.reverse_reverse stream.newestFirst, ← Stream.sent, sent, List.reverse_append]
  have ahead : stream.position - seen.length = unread.length := by
    rw [stream.position_eq, newest]
    simp
  have kept : min stream.capacity (stream.position - seen.length) = unread.reverse.length := by
    rw [ahead, List.length_reverse]
    omega
  rw [Stream.since, kept, newest, List.take_left, List.reverse_reverse]

namespace Change

theorem apply_events (cell : Cell R) (change : Change R) :
    (change.apply cell).events = cell.events ++ change.event?.toList := by
  cases change with
  | moveAxis handle before after => simp [apply, event?, cell.put_axis_keeps handle before after]
  | moveActuator handle before after => simp [apply, event?, cell.put_actuator_keeps handle before after]
  | push event => rfl
  | _ => simp [apply, event?, Cell.putMaterial, Cell.takeMaterial, Cell.trace]

theorem apply_traces (cell : Cell R) (change : Change R) :
    (change.apply cell).traces.sent = cell.traces.sent ++ change.trace?.toList := by
  cases change with
  | moveAxis handle before after => simp [apply, trace?, cell.put_axis_keeps handle before after]
  | moveActuator handle before after => simp [apply, trace?, cell.put_actuator_keeps handle before after]
  | trace step status attempt => simp [apply, trace?, Cell.trace]
  | _ => simp [apply, trace?, Cell.putMaterial, Cell.takeMaterial, Cell.pushEvent]

-- A change either leaves the materials as they are or bumps their revision.
theorem apply_materials (cell : Cell R) (change : Change R) :
    (change.apply cell).materials = cell.materials ∨
      cell.materials.revision < (change.apply cell).materials.revision := by
  cases change with
  | moveAxis handle before after => exact Or.inl (cell.put_axis_keeps handle before after).2.2.1
  | moveActuator handle before after => exact Or.inl (cell.put_actuator_keeps handle before after).2.2.1
  | put station material => exact Or.inr (Nat.lt_succ_self _)
  | take station =>
      simp only [apply, Cell.takeMaterial, MaterialTable.take]
      split
      · exact Or.inr (Nat.lt_succ_self _)
      · exact Or.inl rfl
  | _ => exact Or.inl rfl

end Change

namespace Happening

theorem events_append (history more : List (Happening R)) : events (history ++ more) = events history ++ events more :=
  List.filterMap_append

theorem traces_append (history more : List (Happening R)) : traces (history ++ more) = traces history ++ traces more :=
  List.filterMap_append

theorem paced_append (history more : List (Happening R)) (paced : Paced (history ++ more)) : Paced history := by
  intro earlier between later same unsampled
  exact paced earlier between (later ++ more) (by rw [same, List.append_assoc]) unsampled

theorem traces_length (history : List (Happening R)) : (traces history).length ≤ history.length :=
  List.length_filterMap_le _ _

theorem paced_of_short (history : List (Happening R)) (short : history.length ≤ Trace.capacity) : Paced history := by
  rintro earlier between later rfl -
  have few := traces_length between
  simp only [List.length_append] at short
  omega

theorem follow_begun (step : String) (traces : List Trace) :
    traces.foldl Sampler.follow step =
      ((traces.filter fun trace => trace.status = .running ∧ !isInternalStep trace.name).getLast?.map Trace.name).getD
        step := by
  induction traces generalizing step with
  | nil => rfl
  | cons trace rest ih =>
      rw [List.foldl_cons, ih]
      by_cases named : trace.status = .running ∧ !isInternalStep trace.name
      · have follows : Sampler.follow step trace = trace.name := if_pos named
        rw [follows, List.filter_cons_of_pos (by simpa using named), List.getLast?_cons]
        cases (rest.filter fun trace => trace.status = .running ∧ !isInternalStep trace.name).getLast? <;> rfl
      · have stays : Sampler.follow step trace = step := if_neg named
        rw [stays, List.filter_cons_of_neg (by simpa using named)]

end Happening

end Workcell

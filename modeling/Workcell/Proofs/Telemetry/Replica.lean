import Workcell.Proofs.Fractions
import Workcell.Proofs.Telemetry.History

/-!
Frames as a replica: a client that has only the frames knows, after every sample, what the cell holds.

Each of the four sections of a frame has a detector of its own in the sampler, and each detector is tied to what a
client has been told: the values last sent are the client's values, the revision last seen names the client's table,
the queue holds the events that the client has not been told, and the step last sent is the client's step.
-/

set_option autoImplicit false

namespace Workcell

variable {R : Type} [Scalar R]

namespace Sampler

def motions (sampler : Sampler R) (cell : Cell R) : List (String × R) :=
  (values cell).filter fun entry => sampler.forced || sampler.isNews entry

structure Tells (sampler : Sampler R) (cell : Cell R) (client after : Client R) : Prop where
  values : after.values =
    (sampler.motions cell).foldl (fun table entry => Tree.insertField entry.1 entry.2 table) client.values
  table : after.table =
    if sampler.forced ∨ sampler.revision ≠ some cell.materials.revision then cell.materials.entries else client.table
  step : after.step = (sampler.readTraces cell.traces).step ∨
    sampler.sentStep = some (sampler.readTraces cell.traces).step ∧ after.step = client.step
  events : after.events = client.events ++ cell.events

omit [Scalar R] in
theorem values_given (motions : List (String × R)) : (given motions).getD [] = motions := by
  cases motions with
  | nil => rfl
  | cons entry rest => rfl

theorem sample_tells (sampler : Sampler R) (last : Nat) (cell : Cell R) (client : Client R) :
    sampler.Tells cell client ((sampler.sample last cell).1.toList.foldl Client.told client) := by
  have table : (if sampler.forced ∨ sampler.revision ≠ some cell.materials.revision
      then some cell.materials.entries else none).getD client.table =
      if sampler.forced ∨ sampler.revision ≠ some cell.materials.revision
      then cell.materials.entries else client.table := by
    split
    · rfl
    · rfl
  generalize outcome : sampler.sample last cell = sampled
  simp only [sample] at outcome
  generalize materials : (if (sampler.readTraces cell.traces).forced = true ∨
    (sampler.readTraces cell.traces).revision ≠ some cell.materials.revision
    then some cell.materials.entries else none) = section? at outcome
  split at outcome
  · -- A frame: each section stands in it unless the client has nothing to learn from it.
    subst outcome
    refine ⟨?_, ?_, Or.inl rfl, ?_⟩
    · exact congrArg (List.foldl _ client.values) (values_given (sampler.motions cell))
    · exact (congrArg (Option.getD · client.table) materials).symm.trans table
    · exact congrArg (client.events ++ ·) (told_given cell.events)
  · next nothing =>
    -- No frame: every detector was silent.
    subst outcome
    simp only [Bool.or_eq_true, not_or, Bool.not_eq_true, Bool.not_eq_false', List.isEmpty_iff] at nothing
    obtain ⟨-, ⟨⟨unmoved, unchanged⟩, silent⟩, sameStep⟩ := nothing
    refine ⟨?_, ?_, Or.inr ⟨beq_iff_eq.mp sameStep, rfl⟩, ?_⟩
    · have still : sampler.motions cell = [] := unmoved
      rw [still]
      rfl
    · rw [← table]
      have absent : section? = none := by simpa using unchanged
      exact (congrArg (Option.getD · client.table) (materials.trans absent)).symm
    · have empty : cell.events = [] := silent
      rw [empty, List.append_nil]
      rfl

theorem sample_leaves (sampler : Sampler R) (last : Nat) (cell : Cell R) :
    (sampler.sample last cell).2.1.epsilon = sampler.epsilon ∧
      (sampler.sample last cell).2.1.lastSent =
        (sampler.motions cell).foldl (fun sent entry => Tree.insertField entry.1 entry.2 sent) sampler.lastSent ∧
      (sampler.sample last cell).2.1.revision = some cell.materials.revision ∧
      (sampler.sample last cell).2.1.sentStep = some (sampler.readTraces cell.traces).step ∧
      (sampler.sample last cell).2.1.step = (sampler.readTraces cell.traces).step ∧
      (sampler.sample last cell).2.1.position = cell.traces.position ∧
      (sampler.sample last cell).2.2.2 = { cell with events := [] } := by
  simp only [sample]
  generalize (if (sampler.readTraces cell.traces).forced = true ∨
    (sampler.readTraces cell.traces).revision ≠ some cell.materials.revision
    then some cell.materials.entries else none) = section?
  split
  · exact ⟨rfl, rfl, rfl, rfl, rfl, rfl, rfl⟩
  · next nothing =>
    simp only [Bool.or_eq_true, not_or, Bool.not_eq_true, Bool.not_eq_false'] at nothing
    exact ⟨rfl, rfl, rfl, beq_iff_eq.mp nothing.2.2, rfl, rfl, rfl⟩

-- A value that is not sent anew is still near the one last sent.
theorem value_told (sampler : Sampler R) (cell : Cell R) (id : String) (value : R)
    (found : (values cell).lookup id = some value) :
    ∃ shown,
      ((sampler.motions cell).foldl (fun sent entry => Tree.insertField entry.1 entry.2 sent) sampler.lastSent).lookup
        id = some shown ∧ (value = shown ∨ ¬sampler.epsilon < Scalar.abs (value - shown)) := by
  have member := HandlerTable.mem_of_lookup id value _ found
  have only : ∀ entry ∈ sampler.motions cell, entry.1 = id → entry.2 = value := by
    rintro ⟨name, other⟩ inside rfl
    have again := Tree.lookup_of_mem _ (values_ordered cell) name other (List.mem_filter.mp inside).1
    exact Option.some.inj (again.symm.trans found)
  by_cases sent : (id, value) ∈ sampler.motions cell
  · exact ⟨value, Tree.lookup_fold id value _ _ only (Or.inl sent), Or.inl rfl⟩
  · have passed : ¬(sampler.forced || sampler.isNews (id, value)) = true :=
      fun news => sent (List.mem_filter.mpr ⟨member, news⟩)
    simp only [Bool.or_eq_true, not_or, Bool.not_eq_true] at passed
    unfold isNews at passed
    cases known : sampler.lastSent.lookup id with
    | none => simp [known] at passed
    | some shown =>
        simp only [known, decide_eq_false_iff_not] at passed
        refine ⟨shown, ?_, Or.inr passed.2⟩
        have unsent : ∀ entry ∈ sampler.motions cell, entry.1 = id → entry.2 = shown := by
          rintro ⟨name, other⟩ inside rfl
          have same : other = value := only _ inside rfl
          exact absurd (same ▸ inside) sent
        exact Tree.lookup_fold id shown _ _ unsent (Or.inr known)

end Sampler

theorem Watch.cell_after_work (watch : Watch R) (change : Change R) :
    (watch.after (.work change)).cell = change.apply watch.cell := rfl

theorem Watch.cell_after_sample (watch : Watch R) : (watch.after .sample).cell = { watch.cell with events := [] } :=
  (watch.sampler.sample_leaves watch.tick watch.cell).2.2.2.2.2.2

-- What each detector of the sampler holds is what the client has been told.
structure Watch.Faithful (epsilon : R) (start : Cell R) (history : List (Happening R)) (watch : Watch R) : Prop where
  orderly : watch.cell.Orderly
  epsilon : watch.sampler.epsilon = epsilon
  values : (Client.ofFrames watch.frames).values = watch.sampler.lastSent
  table : ∀ revision, watch.sampler.revision = some revision → revision ≤ watch.cell.materials.revision ∧
    (revision = watch.cell.materials.revision →
      (Client.ofFrames watch.frames).table = watch.cell.materials.entries)
  step : ∀ step, watch.sampler.sentStep = some step → (Client.ofFrames watch.frames).step = step
  events : (Client.ofFrames watch.frames).events ++ watch.cell.events = start.events ++ Happening.events history
  -- The traces since the last sample are those that the sampler has not read.
  read : ∃ earlier recent seen, history = earlier ++ recent ∧ .sample ∉ recent ∧
    watch.sampler.step = (Happening.traces earlier).foldl Sampler.follow "" ∧
    watch.sampler.position = seen.length ∧ watch.cell.traces.sent = seen ++ Happening.traces recent

-- What the client knows of a cell in which so many steps and events have been told.
structure Client.Mirrors (epsilon : R) (cell : Cell R) (step : String) (events : List (Event R)) (client : Client R) :
    Prop where
  actuators : ∀ id handle actuator, cell.actuators.find? id = some (handle, actuator) →
    ∃ shown, client.values.lookup id = some shown ∧
      (actuator.shown = shown ∨ ¬epsilon < Scalar.abs (actuator.shown - shown))
  axes : ∀ id handle axis, cell.axes.find? id = some (handle, axis) → cell.actuators.find? id = none →
    ∃ shown, client.values.lookup id = some shown ∧
      (axis.state.position = shown ∨ ¬epsilon < Scalar.abs (axis.state.position - shown))
  table : client.table = cell.materials.entries
  step : client.step = step
  events : client.events = events

namespace Watch.Faithful

variable {epsilon : R} {start : Cell R} {history : List (Happening R)} {watch : Watch R}

omit [Scalar R] in
theorem begin (epsilon : R) (tick : Nat) (start : Cell R) (orderly : start.Orderly) :
    (Watch.start epsilon tick start).Faithful epsilon start [] where
  orderly := orderly
  epsilon := rfl
  values := rfl
  table _ seen := nomatch seen
  step _ sent := nomatch sent
  events := by simp [Watch.start, Client.ofFrames, Happening.events]
  read := by
    refine ⟨[], [], start.traces.sent, rfl, List.not_mem_nil, rfl, ?_, ?_⟩
    · simp [Watch.start, Sampler.new, start.traces.position_eq, Stream.sent]
    · simp [Watch.start, Happening.traces]

theorem work (faithful : watch.Faithful epsilon start history) (change : Change R) :
    (watch.after (.work change)).Faithful epsilon start (history ++ [.work change]) where
  orderly := faithful.orderly.change watch.cell change
  epsilon := faithful.epsilon
  values := faithful.values
  table := by
    intro revision seen
    obtain ⟨known, current⟩ := faithful.table revision seen
    rcases change.apply_materials watch.cell with same | bumped
    · exact ⟨by simpa [Watch.after, same] using known, by simpa [Watch.after, same] using current⟩
    · have behind : revision < (change.apply watch.cell).materials.revision := by omega
      exact ⟨Nat.le_of_lt behind, fun reached => absurd reached (Nat.ne_of_lt behind)⟩
  step := faithful.step
  events := by
    have told : Happening.events [Happening.work change] = change.event?.toList := by
      cases known : change.event? <;> simp [Happening.events, Happening.event?, known]
    rw [Happening.events_append, told, ← List.append_assoc, ← faithful.events]
    simp [Watch.after, change.apply_events]
  read := by
    obtain ⟨earlier, recent, seen, split, unsampled, step, position, sent⟩ := faithful.read
    have told : Happening.traces [Happening.work change] = change.trace?.toList := by
      cases known : change.trace? <;> simp [Happening.traces, Happening.trace?, known]
    refine ⟨earlier, recent ++ [.work change], seen, ?_, ?_, step, position, ?_⟩
    · rw [split, List.append_assoc]
    · simp [unsampled]
    · rw [Happening.traces_append, told, ← List.append_assoc, ← sent]
      exact change.apply_traces watch.cell

theorem force (faithful : watch.Faithful epsilon start history) :
    (watch.after .force).Faithful epsilon start (history ++ [.force]) where
  orderly := faithful.orderly
  epsilon := faithful.epsilon
  values := faithful.values
  table := faithful.table
  step := faithful.step
  events := by
    have nothing : Happening.events [(.force : Happening R)] = [] := rfl
    rw [Happening.events_append, nothing, List.append_nil]
    exact faithful.events
  read := by
    obtain ⟨earlier, recent, seen, split, unsampled, step, position, sent⟩ := faithful.read
    have nothing : Happening.traces [(.force : Happening R)] = [] := rfl
    refine ⟨earlier, recent ++ [.force], seen, ?_, ?_, step, position, ?_⟩
    · rw [split, List.append_assoc]
    · simp [unsampled]
    · rw [Happening.traces_append, nothing, List.append_nil]
      exact sent

omit [Scalar R] in
-- A sampler that has been kept up with reads just the traces since its last sample.
theorem step_read (faithful : watch.Faithful epsilon start history) (paced : Happening.Paced history) :
    (watch.sampler.readTraces watch.cell.traces).step =
      (Happening.traces history).foldl Sampler.follow "" := by
  obtain ⟨earlier, recent, seen, split, unsampled, step, position, sent⟩ := faithful.read
  have few := paced earlier recent [] (by rw [split, List.append_nil]) unsampled
  have unread := watch.cell.traces.since_read seen (Happening.traces recent) sent (faithful.orderly.capacity ▸ few)
  rw [split, Happening.traces_append, List.foldl_append, ← step, ← unread, ← position]
  rfl

theorem client_after (watch : Watch R) : Client.ofFrames (watch.after .sample).frames =
    (watch.sampler.sample watch.tick watch.cell).1.toList.foldl Client.told (Client.ofFrames watch.frames) :=
  Client.of_frames_append _ _

theorem sample (faithful : watch.Faithful epsilon start history) (paced : Happening.Paced history) :
    (watch.after .sample).Faithful epsilon start (history ++ [.sample]) := by
  have tells := watch.sampler.sample_tells watch.tick watch.cell (Client.ofFrames watch.frames)
  rw [← client_after] at tells
  obtain ⟨sameEpsilon, lastSent, revision, sentStep, step, position, -⟩ :=
    watch.sampler.sample_leaves watch.tick watch.cell
  have noEvents : Happening.events [(.sample : Happening R)] = [] := rfl
  have noTraces : Happening.traces [(.sample : Happening R)] = [] := rfl
  have left := watch.cell_after_sample
  constructor
  case orderly =>
    rw [left]
    exact ⟨faithful.orderly.axes, faithful.orderly.actuators, faithful.orderly.capacity⟩
  case epsilon => exact sameEpsilon.trans faithful.epsilon
  case values =>
    rw [tells.values, faithful.values]
    exact lastSent.symm
  case table =>
    intro number seen
    have newest : number = watch.cell.materials.revision := Option.some.inj (seen.symm.trans revision)
    rw [left]
    refine ⟨Nat.le_of_eq newest, fun _ => ?_⟩
    rw [tells.table]
    split
    · rfl
    · next fresh =>
      -- Nothing was told, so the revision last seen is the present one.
      have known : watch.sampler.revision = some watch.cell.materials.revision := by
        by_contra differs
        exact fresh (Or.inr differs)
      exact (faithful.table _ known).2 rfl
  case step =>
    intro name sent
    have named : name = (watch.sampler.readTraces watch.cell.traces).step := Option.some.inj (sent.symm.trans sentStep)
    rcases tells.step with told | ⟨known, same⟩
    · exact told.trans named.symm
    · exact same.trans ((faithful.step _ known).trans named.symm)
  case events =>
    rw [left, tells.events, faithful.events, Happening.events_append, noEvents]
    simp
  case read =>
    refine ⟨history ++ [.sample], [], watch.cell.traces.sent, by simp, List.not_mem_nil, ?_, ?_, ?_⟩
    · rw [Happening.traces_append, noTraces, List.append_nil, ← faithful.step_read paced]
      exact step
    · refine Eq.trans position ?_
      rw [watch.cell.traces.position_eq, Stream.sent, List.length_reverse]
    · rw [left]
      simp [Happening.traces]

theorem run (faithful : watch.Faithful epsilon start history) (more : List (Happening R))
    (paced : Happening.Paced (history ++ more)) : (watch.run more).Faithful epsilon start (history ++ more) := by
  induction more generalizing watch history with
  | nil =>
      rw [List.append_nil]
      exact faithful
  | cons next rest ih =>
      have split : history ++ next :: rest = (history ++ [next]) ++ rest := by simp
      rw [split] at paced ⊢
      refine ih ?_ paced
      cases next with
      | work change => exact faithful.work change
      | force => exact faithful.force
      | sample =>
          have earlier := Happening.paced_append _ _ (Happening.paced_append _ _ paced)
          exact faithful.sample earlier

theorem mirrors (faithful : watch.Faithful epsilon start history) (paced : Happening.Paced history) :
    (Client.ofFrames (watch.after .sample).frames).Mirrors epsilon (watch.after .sample).cell
      (Happening.lastBegun (Happening.traces history)) (start.events ++ Happening.events history) := by
  have told := faithful.sample paced
  obtain ⟨-, lastSent, revision, sentStep, -⟩ := watch.sampler.sample_leaves watch.tick watch.cell
  have left := watch.cell_after_sample
  have values : (Client.ofFrames (watch.after .sample).frames).values =
      (watch.sampler.motions watch.cell).foldl (fun sent entry => Tree.insertField entry.1 entry.2 sent)
        watch.sampler.lastSent := told.values.trans lastSent
  constructor
  case actuators =>
    intro id handle actuator found
    rw [left] at found
    rw [values, ← faithful.epsilon]
    have value := Sampler.actuator_value watch.cell faithful.orderly.actuators id handle actuator found
    exact watch.sampler.value_told watch.cell id _ value
  case axes =>
    intro id handle axis found alone
    rw [left] at found alone
    rw [values, ← faithful.epsilon]
    have value := Sampler.axis_value watch.cell faithful.orderly.axes faithful.orderly.actuators id handle axis found alone
    exact watch.sampler.value_told watch.cell id _ value
  case table =>
    refine (told.table _ revision).2 ?_
    rw [left]
  case step =>
    rw [told.step _ sentStep, faithful.step_read paced, Happening.follow_begun]
    rfl
  case events =>
    have drained := told.events
    rw [left, List.append_nil, Happening.events_append] at drained
    exact drained.trans (by simp [Happening.events, Happening.event?])

end Watch.Faithful

namespace Exact

theorem near_of_told (epsilon value shown : Rat)
    (told : value = shown ∨ ¬epsilon < Scalar.abs (value - shown)) : |value - shown| ≤ max epsilon 0 := by
  rcases told with rfl | quiet
  · simp
  · have near : |value - shown| ≤ epsilon := by
      rw [← magnitude_is_abs]
      exact not_lt.mp quiet
    exact near.trans (le_max_left epsilon 0)

end Exact

/-- After every sample a client of the frames knows the cell: each device value to within epsilon, the materials, the
step last begun that frames may name, and all events in the order of their pushing. Under an id that an axis and an
actuator share frames show the actuator. -/
theorem frames_tell_the_cell (epsilon : Rat) (tick : Nat) (start : Cell Rat) (orderly : start.Orderly)
    (history : List (Happening Rat)) (paced : Happening.Paced history) :
    let watch := (Watch.start epsilon tick start).run (history ++ [.sample])
    let client := Client.ofFrames watch.frames
    (∀ id handle actuator, watch.cell.actuators.find? id = some (handle, actuator) →
      ∃ shown, client.values.lookup id = some shown ∧ |actuator.shown - shown| ≤ max epsilon 0) ∧
    (∀ id handle axis, watch.cell.axes.find? id = some (handle, axis) → watch.cell.actuators.find? id = none →
      ∃ shown, client.values.lookup id = some shown ∧ |axis.state.position - shown| ≤ max epsilon 0) ∧
    client.table = watch.cell.materials.entries ∧
    client.step = Happening.lastBegun (Happening.traces history) ∧
    client.events = start.events ++ Happening.events history := by
  have faithful := (Watch.Faithful.begin epsilon tick start orderly).run history paced
  have mirrors := faithful.mirrors paced
  have last : (Watch.start epsilon tick start).run (history ++ [.sample]) =
      ((Watch.start epsilon tick start).run history).after .sample := by simp [Watch.run]
  intro watch client
  have told : client.Mirrors epsilon watch.cell (Happening.lastBegun (Happening.traces history))
      (start.events ++ Happening.events history) := by
    simp only [client, watch, last]
    exact mirrors
  refine ⟨?_, ?_, told.table, told.step, told.events⟩
  · intro id handle actuator found
    obtain ⟨shown, known, near⟩ := told.actuators id handle actuator found
    exact ⟨shown, known, Exact.near_of_told epsilon _ shown near⟩
  · intro id handle axis found alone
    obtain ⟨shown, known, near⟩ := told.axes id handle axis found alone
    exact ⟨shown, known, Exact.near_of_told epsilon _ shown near⟩

def boltHistory : List (Happening Rat) :=
  [.work (.newActuator "gripper" (.new (.new "gripper" .cylinder 200) (.ofMillis 10))),
    .work (.put "bin" ⟨"bolt-1", "bolt"⟩),
    .work (.push (.materialSpawn "bin" ⟨"bolt-1", "bolt"⟩)),
    .work (.trace (.action ⟨"pick", .default⟩ "gripper" .fire []) .running 1),
    .sample,
    .work (.trace (.action ⟨"_wait", .default⟩ "System" .delay []) .running 1)]

theorem frames_tell_of_a_bolt :
    gripperCell.Orderly ∧ Happening.Paced boltHistory ∧
      (let client := Client.ofFrames ((Watch.start (1 / 100) 0 gripperCell).run (boltHistory ++ [.sample])).frames
      (∃ shown, client.values.lookup "gripper" = some shown ∧ |0 - shown| ≤ max (1 / 100) 0) ∧
        client.table = [("bin", ⟨"bolt-1", "bolt"⟩)] ∧ client.step = "pick" ∧
        client.events = [.materialSpawn "bin" ⟨"bolt-1", "bolt"⟩]) := by
  have orderly : gripperCell.Orderly := Cell.Orderly.new _ _
  have paced : Happening.Paced boltHistory := Happening.paced_of_short boltHistory (by decide)
  obtain ⟨actuators, -, table, step, events⟩ := frames_tell_the_cell (1 / 100) 0 gripperCell orderly boltHistory paced
  refine ⟨orderly, paced, ?_, table.trans (by decide +kernel), step.trans (by decide +kernel), events.trans rfl⟩
  refine actuators "gripper" 0 (.new (.new "gripper" .cylinder 200) (.ofMillis 10)) ?_
  simp only [boltHistory, Watch.run, List.cons_append, List.nil_append, List.foldl_cons, List.foldl_nil,
    Watch.cell_after_sample, Watch.cell_after_work]
  rfl

def twinHistory : List (Happening Rat) :=
  [.work (.newAxis "X" ⟨.new "X" 10 20, .ofMillis 10, none, ⟨10, 10, false, false⟩, 0, 0⟩),
    .work (.newActuator "X" (.new (.new "X" .cylinder 0) (.ofMillis 10)))]

theorem frames_hide_an_axis_behind_an_actuator :
    ¬∀ (epsilon : Rat) (tick : Nat) (start : Cell Rat), start.Orderly → ∀ history, Happening.Paced history →
      let watch := (Watch.start epsilon tick start).run (history ++ [.sample])
      ∀ id handle axis, watch.cell.axes.find? id = some (handle, axis) →
        ∃ shown, (Client.ofFrames watch.frames).values.lookup id = some shown ∧
          |axis.state.position - shown| ≤ max epsilon 0 := by
  intro claimed
  have paced : Happening.Paced twinHistory := Happening.paced_of_short twinHistory (by decide)
  obtain ⟨shown, known, near⟩ := claimed (1 / 100) 0 gripperCell (Cell.Orderly.new _ _) twinHistory paced "X" 0
    ⟨.new "X" 10 20, .ofMillis 10, none, ⟨10, 10, false, false⟩, 0, 0⟩ rfl
  have zero : (Client.ofFrames ((Watch.start (1 / 100) 0 gripperCell).run (twinHistory ++ [.sample])).frames).values.lookup
      "X" = some 0 := by decide +kernel
  rw [zero] at known
  cases known
  exact absurd near (by decide +kernel)

end Workcell

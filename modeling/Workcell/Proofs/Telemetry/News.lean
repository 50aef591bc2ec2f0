import Workcell.Proofs.Telemetry.Replica

/-!
What frames leave out: a sample gives a frame only when there is news, a frame tells nothing but news unless a full one
was asked for, and a sample that gives no frame leaves no trace in those that come after it.

What was sent last is read off the frames themselves. Only the revision of the materials does not stand in a frame, so
frames are noted down together with it.
-/

set_option autoImplicit false

namespace Workcell

variable {R : Type}

-- What the sampler is to report of the registered devices. Under an id that an axis and an actuator share it is the
-- actuator's.
def Cell.Shows [Scalar R] (cell : Cell R) (id : String) (value : R) : Prop :=
  (∃ handle actuator, cell.actuators.find? id = some (handle, actuator) ∧ value = actuator.shown) ∨
    ∃ handle axis, cell.axes.find? id = some (handle, axis) ∧ cell.actuators.find? id = none ∧
      value = axis.state.position

abbrev Sending (R : Type) := Frame R × Nat

namespace Sending

def value? (sent : List (Sending R)) (id : String) : Option R :=
  (sent.filterMap fun sending => (sending.1.values.getD []).lookup id).getLast?

def revision? (sent : List (Sending R)) : Option Nat :=
  (sent.filterMap fun sending => sending.1.materials.map fun _ => sending.2).getLast?

def step? (sent : List (Sending R)) : Option String := (sent.map fun sending => sending.1.step).getLast?

-- A value that is the first one of its id, or differs by more than epsilon from the one last sent.
def News [Scalar R] (epsilon : R) (sent : List (Sending R)) (id : String) (value : R) : Prop :=
  ∀ last, value? sent id = some last → epsilon < Scalar.abs (value - last)

theorem value_concat (sent : List (Sending R)) (sending : Sending R) (id : String) :
    value? (sent ++ [sending]) id = ((sending.1.values.getD []).lookup id).or (value? sent id) := by
  cases known : (sending.1.values.getD []).lookup id <;> simp [value?, known]

theorem revision_concat (sent : List (Sending R)) (sending : Sending R) :
    revision? (sent ++ [sending]) = (sending.1.materials.map fun _ => sending.2).or (revision? sent) := by
  cases known : sending.1.materials <;> simp [revision?, known]

theorem step_concat (sent : List (Sending R)) (sending : Sending R) :
    step? (sent ++ [sending]) = some sending.1.step := by simp [step?]

end Sending

namespace Happening

-- A full frame was asked for, and no sample has been taken since.
def Asked (history : List (Happening R)) : Prop :=
  ∃ earlier later, history = earlier ++ .force :: later ∧ .sample ∉ later

theorem asked_concat (history : List (Happening R)) (next : Happening R) :
    Asked (history ++ [next]) ↔ next = .force ∨ Asked history ∧ next ≠ .sample := by
  constructor
  · rintro ⟨earlier, later, same, unsampled⟩
    rcases later.eq_nil_or_concat with rfl | ⟨later, last, rfl⟩
    · exact Or.inl (List.cons.inj (List.append_inj' same rfl).2).1
    · rw [List.concat_eq_append, ← List.cons_append, ← List.append_assoc] at same
      obtain ⟨before, lasts⟩ := List.append_inj' same rfl
      obtain ⟨rfl, -⟩ := List.cons.inj lasts
      rw [List.concat_eq_append, List.mem_append, not_or] at unsampled
      exact Or.inr ⟨⟨earlier, later, before, unsampled.1⟩, fun sampled => unsampled.2 (by simp [sampled])⟩
  · rintro (rfl | ⟨⟨earlier, later, rfl, unsampled⟩, other⟩)
    · exact ⟨history, [], rfl, List.not_mem_nil⟩
    · exact ⟨earlier, later ++ [next], by simp, by simp [unsampled, other.symm]⟩

-- One more sample only cuts a stretch without samples in two.
theorem paced_insert (history later : List (Happening R)) (paced : Paced (history ++ later)) :
    Paced (history ++ .sample :: later) := by
  intro earlier between rest same unsampled
  have fewer : ∀ before after, history ++ later = before ++ between ++ after →
      (traces between).length ≤ Trace.capacity := fun before after split => paced before between after split unsampled
  rw [List.append_assoc] at same
  rcases List.append_eq_append_iff.mp same with ⟨middle, rfl, tail⟩ | ⟨middle, rfl, tail⟩
  · -- The stretch begins after the sample, or at it.
    cases middle with
    | nil =>
        cases between with
        | nil => exact Nat.zero_le _
        | cons first between => exact absurd (List.cons.inj tail).1 (fun is => unsampled (by simp [is]))
    | cons first middle =>
        obtain ⟨-, rfl⟩ := List.cons.inj tail
        exact fewer (history ++ middle) rest (by simp)
  · -- It begins before the sample, so it ends there too.
    rcases List.append_eq_append_iff.mp tail with ⟨more, rfl, after⟩ | ⟨more, rfl, after⟩
    · exact fewer earlier (more ++ later) (by simp)
    · cases more with
      | nil => exact fewer earlier later (by simp)
      | cons first more => exact absurd (List.cons.inj after).1 (fun is => unsampled (by simp [is]))

end Happening

namespace Tree

variable {A : Type}

theorem lookup_fold_absent (name : String) (fields table : List (String × A))
    (absent : ∀ entry ∈ fields, entry.1 ≠ name) :
    (fields.foldl (fun table field => insertField field.1 field.2 table) table).lookup name = table.lookup name := by
  induction fields generalizing table with
  | nil => rfl
  | cons field rest ih =>
      have later := ih (insertField field.1 field.2 table) fun entry member => absent entry (List.mem_cons_of_mem _ member)
      have other : name ≠ field.1 := (absent field List.mem_cons_self).symm
      exact later.trans (lookup_insert_other _ _ _ _ other)

-- A table takes over the fields that are put into it.
theorem lookup_fold_ordered (name : String) (fields table : List (String × A)) (ordered : Ordered fields) :
    (fields.foldl (fun table field => insertField field.1 field.2 table) table).lookup name =
      (fields.lookup name).or (table.lookup name) := by
  cases known : fields.lookup name with
  | some value =>
      have only : ∀ entry ∈ fields, entry.1 = name → entry.2 = value := by
        rintro ⟨other, held⟩ member rfl
        exact Option.some.inj ((lookup_of_mem fields ordered other held member).symm.trans known)
      exact lookup_fold name value fields table only (Or.inl (HandlerTable.mem_of_lookup name value fields known))
  | none =>
      apply lookup_fold_absent
      rintro ⟨other, held⟩ member rfl
      exact nomatch (lookup_of_mem fields ordered other held member).symm.trans known

theorem mem_fold (fields table : List (String × A)) (entry : String × A)
    (member : entry ∈ fields.foldl (fun table field => insertField field.1 field.2 table) table) :
    entry ∈ fields ∨ entry ∈ table := by
  induction fields generalizing table with
  | nil => exact Or.inr member
  | cons field rest ih =>
      rcases ih _ member with later | before
      · exact Or.inl (List.mem_cons_of_mem _ later)
      · rcases mem_insert field.1 field.2 table entry before with rfl | old
        · exact Or.inl List.mem_cons_self
        · exact Or.inr old

end Tree

variable [Scalar R]

namespace Sampler

theorem mem_values (cell : Cell R) (orderly : cell.Orderly) (id : String) (value : R) :
    (id, value) ∈ values cell ↔ cell.Shows id value := by
  have found : cell.Shows id value → (values cell).lookup id = some value := by
    rintro (⟨handle, actuator, found, rfl⟩ | ⟨handle, axis, found, alone, rfl⟩)
    · exact actuator_value cell orderly.actuators id handle actuator found
    · exact axis_value cell orderly.axes orderly.actuators id handle axis found alone
  refine ⟨fun member => ?_, fun shows => HandlerTable.mem_of_lookup id value _ (found shows)⟩
  have looked := Tree.lookup_of_mem _ (values_ordered cell) id value member
  rcases Tree.mem_fold _ _ _ member with inside | nothing
  · rcases List.mem_append.mp inside with first | second
    · obtain ⟨⟨name, handle, axis⟩, registered, same⟩ := List.mem_map.mp first
      obtain ⟨rfl, rfl⟩ := Prod.mk.inj same
      cases other : cell.actuators.find? name with
      | none =>
          exact Or.inr ⟨handle, axis, cell.axes.found_of_registered orderly.axes name handle axis registered, other, rfl⟩
      | some twin =>
          have shown := actuator_value cell orderly.actuators name twin.1 twin.2 other
          exact Or.inl ⟨twin.1, twin.2, other, Option.some.inj (looked.symm.trans shown)⟩
    · obtain ⟨⟨name, handle, actuator⟩, registered, same⟩ := List.mem_map.mp second
      obtain ⟨rfl, rfl⟩ := Prod.mk.inj same
      have is := cell.actuators.found_of_registered orderly.actuators name handle actuator registered
      exact Or.inl ⟨handle, actuator, is, rfl⟩
  · cases nothing

theorem motions_ordered (sampler : Sampler R) (cell : Cell R) : Tree.Ordered (sampler.motions cell) :=
  (values_ordered cell).filter _

def table? (sampler : Sampler R) (cell : Cell R) : Option (List (String × Material)) :=
  if sampler.forced ∨ sampler.revision ≠ some cell.materials.revision then some cell.materials.entries else none

def frame (sampler : Sampler R) (last : Nat) (cell : Cell R) : Frame R where
  tick := nextTick cell.now last
  step := (sampler.readTraces cell.traces).step
  values := given (sampler.motions cell)
  materials := sampler.table? cell
  events := given cell.events

def Stirred (sampler : Sampler R) (cell : Cell R) : Prop :=
  sampler.forced = true ∨ sampler.motions cell ≠ [] ∨ sampler.revision ≠ some cell.materials.revision ∨
    cell.events ≠ [] ∨ sampler.sentStep ≠ some (sampler.readTraces cell.traces).step

theorem stirred_iff (sampler : Sampler R) (cell : Cell R) :
    (sampler.forced || (!(sampler.motions cell).isEmpty || (sampler.table? cell).isSome || !cell.events.isEmpty ||
      !(sampler.sentStep == some (sampler.readTraces cell.traces).step))) = true ↔ sampler.Stirred cell := by
  have told : (sampler.table? cell).isSome = true ↔
      sampler.forced = true ∨ sampler.revision ≠ some cell.materials.revision := by
    unfold table?
    split <;> simp [*]
  simp only [Bool.or_eq_true, Bool.not_eq_true', List.isEmpty_eq_false_iff, told, beq_eq_false_iff_ne, Stirred]
  tauto

theorem sample_frame (sampler : Sampler R) (last : Nat) (cell : Cell R) (stirred : sampler.Stirred cell) :
    (sampler.sample last cell).1 = some (sampler.frame last cell) := by
  unfold sample
  exact congrArg Prod.fst (if_pos ((sampler.stirred_iff cell).mpr stirred))

-- A sample with nothing to tell has only read the traces.
theorem sample_nothing (sampler : Sampler R) (last : Nat) (cell : Cell R) (still : ¬sampler.Stirred cell) :
    sampler.sample last cell = (none, sampler.readTraces cell.traces, last, cell) := by
  have shape : sampler.sample last cell =
      (none, { sampler.readTraces cell.traces with
        lastSent := (sampler.motions cell).foldl (fun sent entry => Tree.insertField entry.1 entry.2 sent) sampler.lastSent
        revision := some cell.materials.revision
        forced := false }, last, { cell with events := [] }) := by
    unfold sample
    exact if_neg fun stirred => still ((sampler.stirred_iff cell).mp stirred)
  simp only [Stirred, not_or, Bool.not_eq_true, not_not] at still
  obtain ⟨unforced, unmoved, unchanged, silent, -⟩ := still
  rw [shape, unmoved, ← unchanged, ← unforced, ← silent]
  rfl

-- A second sample finds nothing that the first has left to tell.
theorem still_after_sample (sampler : Sampler R) (last : Nat) (cell : Cell R) (now : Nat)
    (steady : ∀ id value, (id, value) ∈ values cell → ¬sampler.epsilon < Scalar.abs (value - value)) :
    ¬(sampler.sample last cell).2.1.Stirred { cell with events := [], now := now } := by
  obtain ⟨epsilon, lastSent, revision, sentStep, step, position, -⟩ := sampler.sample_leaves last cell
  have unforced := (sampler.sample_drains last cell).2.1
  generalize (sampler.sample last cell).2.1 = next at *
  have unmoved : next.motions { cell with events := [], now := now } = [] := by
    refine List.filter_eq_nil_iff.mpr ?_
    rintro ⟨id, value⟩ member
    have found := Tree.lookup_of_mem _ (values_ordered cell) id value member
    obtain ⟨shown, known, near⟩ := sampler.value_told cell id value found
    rw [← lastSent] at known
    have quiet : ¬next.epsilon < Scalar.abs (value - shown) := by
      rw [epsilon]
      rcases near with rfl | near
      · exact steady id value member
      · exact near
    simp [unforced, isNews, known, quiet]
  have read : next.readTraces cell.traces = next := by
    have nothing : cell.traces.since next.position = [] := by simp [Stream.since, position]
    rw [readTraces, nothing, ← position]
    rfl
  simp [Stirred, unforced, unmoved, revision, sentStep, read, step]

end Sampler

namespace Watch

def offers (watch : Watch R) : Option (Frame R) := (watch.sampler.sample watch.tick watch.cell).1

theorem offers_none_iff (watch : Watch R) : watch.offers = none ↔ ¬watch.sampler.Stirred watch.cell := by
  constructor
  · exact fun silent stirred => nomatch silent.symm.trans (watch.sampler.sample_frame watch.tick watch.cell stirred)
  · exact fun still => congrArg Prod.fst (watch.sampler.sample_nothing watch.tick watch.cell still)

theorem frame_of_offers (watch : Watch R) (frame : Frame R) (given : watch.offers = some frame) :
    frame = watch.sampler.frame watch.tick watch.cell := by
  have stirred : watch.sampler.Stirred watch.cell := by
    by_contra still
    exact nomatch given.symm.trans (watch.offers_none_iff.mpr still)
  exact Option.some.inj (given.symm.trans (watch.sampler.sample_frame watch.tick watch.cell stirred))

def sent (watch : Watch R) : List (Happening R) → List (Sending R)
  | [] => []
  | .sample :: rest =>
      watch.offers.toList.map (·, watch.cell.materials.revision) ++ (watch.after .sample).sent rest
  | next :: rest => (watch.after next).sent rest

theorem sent_frames (watch : Watch R) (history : List (Happening R)) :
    (watch.run history).frames = watch.frames ++ (watch.sent history).map Prod.fst := by
  induction history generalizing watch with
  | nil => exact (List.append_nil _).symm
  | cons next rest ih =>
      refine (ih (watch.after next)).trans ?_
      cases next with
      | work change => rfl
      | force => rfl
      | sample =>
          have same : (watch.offers.toList.map (·, watch.cell.materials.revision)).map Prod.fst = watch.offers.toList := by
            cases watch.offers <;> rfl
          rw [sent, List.map_append, same, ← List.append_assoc]
          rfl

structure Recalls (history : List (Happening R)) (sent : List (Sending R)) (watch : Watch R) : Prop where
  values : ∀ id, watch.sampler.lastSent.lookup id = Sending.value? sent id
  revision : watch.sampler.revision = Sending.revision? sent
  step : watch.sampler.sentStep = Sending.step? sent
  forced : watch.sampler.forced = true ↔ Happening.Asked history

namespace Recalls

variable {history : List (Happening R)} {sent : List (Sending R)} {watch : Watch R}

theorem work (recalls : watch.Recalls history sent) (change : Change R) :
    (watch.after (.work change)).Recalls (history ++ [.work change]) sent where
  values := recalls.values
  revision := recalls.revision
  step := recalls.step
  forced := by
    rw [Happening.asked_concat]
    simpa [after] using recalls.forced

theorem force (recalls : watch.Recalls history sent) : (watch.after .force).Recalls (history ++ [.force]) sent where
  values := recalls.values
  revision := recalls.revision
  step := recalls.step
  forced := by simp [Happening.asked_concat, after, Sampler.force]

theorem sample (recalls : watch.Recalls history sent) :
    (watch.after .sample).Recalls (history ++ [.sample])
      (sent ++ watch.offers.toList.map (·, watch.cell.materials.revision)) := by
  have asked : ¬Happening.Asked (history ++ [.sample]) := by simp [Happening.asked_concat]
  have unforced : (watch.after .sample).sampler.forced = false :=
    (watch.sampler.sample_drains watch.tick watch.cell).2.1
  have forced : (watch.after .sample).sampler.forced = true ↔ Happening.Asked (history ++ [.sample]) := by
    simp [unforced, asked]
  obtain ⟨-, lastSent, revision, sentStep, -, -, -⟩ := watch.sampler.sample_leaves watch.tick watch.cell
  by_cases stirred : watch.sampler.Stirred watch.cell
  · have gives : watch.offers = some (watch.sampler.frame watch.tick watch.cell) :=
      watch.sampler.sample_frame watch.tick watch.cell stirred
    rw [gives, Option.toList_some, List.map_singleton]
    refine ⟨fun id => ?_, ?_, ?_, forced⟩
    · rw [Sending.value_concat, ← recalls.values]
      refine (congrArg (List.lookup id) lastSent).trans ?_
      rw [Tree.lookup_fold_ordered id _ _ (watch.sampler.motions_ordered watch.cell)]
      rw [Sampler.frame, Sampler.values_given]
    · rw [Sending.revision_concat, ← recalls.revision]
      refine revision.trans ?_
      rw [Sampler.frame, Sampler.table?]
      split
      · rfl
      · next known =>
        simp only [not_or, not_not] at known
        exact known.2.symm
    · rw [Sending.step_concat]
      exact sentStep
  · have nothing := watch.sampler.sample_nothing watch.tick watch.cell stirred
    have gives : watch.offers = none := congrArg Prod.fst nothing
    have same : (watch.after .sample).sampler = watch.sampler.readTraces watch.cell.traces :=
      congrArg (fun sampled => sampled.2.1) nothing
    rw [gives, Option.toList_none, List.map_nil, List.append_nil]
    refine ⟨fun id => ?_, ?_, ?_, forced⟩
    · exact (congrArg (fun sampler => sampler.lastSent.lookup id) same).trans (recalls.values id)
    · exact (congrArg Sampler.revision same).trans recalls.revision
    · exact (congrArg Sampler.sentStep same).trans recalls.step

theorem run (recalls : watch.Recalls history sent) (more : List (Happening R)) :
    (watch.run more).Recalls (history ++ more) (sent ++ watch.sent more) := by
  induction more generalizing watch history sent with
  | nil =>
      rw [List.append_nil, Watch.sent, List.append_nil]
      exact recalls
  | cons next rest ih =>
      rw [List.append_cons]
      cases next with
      | work change => exact ih (recalls.work change)
      | force => exact ih recalls.force
      | sample =>
          rw [Watch.sent, ← List.append_assoc]
          exact ih recalls.sample

end Recalls

theorem recalls_all (epsilon : R) (tick : Nat) (start : Cell R) (history : List (Happening R)) :
    ((Watch.start epsilon tick start).run history).Recalls history ((Watch.start epsilon tick start).sent history) := by
  have begun : (Watch.start epsilon tick start).Recalls [] [] := by
    refine ⟨fun _ => rfl, rfl, rfl, ?_⟩
    constructor
    · intro forced
      exact nomatch forced
    · rintro ⟨earlier, later, same, -⟩
      exact absurd same (by simp)
  exact begun.run history

end Watch

end Workcell

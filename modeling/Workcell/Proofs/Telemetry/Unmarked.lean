import Workcell.Proofs.Telemetry.News

/-!
Samples that give no frame: they leave no mark on what comes after them, and frames tell only news.
-/

set_option autoImplicit false

namespace Workcell

variable {R : Type} [Scalar R]

namespace Watch

theorem run_append (watch : Watch R) (history more : List (Happening R)) :
    watch.run (history ++ more) = (watch.run history).run more := List.foldl_append

def Alike (first second : Watch R) : Prop :=
  ∃ step position, second = { first with sampler := { first.sampler with step := step, position := position } }

namespace Alike

variable {first second : Watch R}

theorem work (alike : first.Alike second) (change : Change R) :
    (first.after (.work change)).Alike (second.after (.work change)) := by
  obtain ⟨step, position, rfl⟩ := alike
  exact ⟨step, position, rfl⟩

theorem force (alike : first.Alike second) : (first.after .force).Alike (second.after .force) := by
  obtain ⟨step, position, rfl⟩ := alike
  exact ⟨step, position, rfl⟩

omit [Scalar R] in
theorem frames (alike : first.Alike second) : first.frames = second.frames := by
  obtain ⟨step, position, rfl⟩ := alike
  rfl

-- All that a sampler remembers of the traces is the step it has come to.
theorem sample (alike : first.Alike second)
    (caughtUp : (first.sampler.readTraces first.cell.traces).step = (second.sampler.readTraces second.cell.traces).step) :
    first.after .sample = second.after .sample := by
  obtain ⟨step, position, rfl⟩ := alike
  have same : first.sampler.readTraces first.cell.traces =
      { first.sampler with step := step, position := position }.readTraces first.cell.traces := by
    simp only [Sampler.readTraces] at caughtUp ⊢
    rw [caughtUp]
  simp only [after, Sampler.sample, same]

end Alike

theorem alike_of_offers_none (watch : Watch R) (silent : watch.offers = none) : watch.Alike (watch.after .sample) := by
  have still := watch.offers_none_iff.mp silent
  have nothing := watch.sampler.sample_nothing watch.tick watch.cell still
  let read := watch.sampler.readTraces watch.cell.traces
  refine ⟨read.step, read.position, ?_⟩
  simp only [after, nothing, Option.toList_none, List.append_nil]
  rfl

variable {epsilon : R} {start : Cell R} {first second : Watch R}

-- Once both have been sampled nothing is left in which they differ.
theorem frames_of_alike (alike : first.Alike second) (history other later : List (Happening R))
    (faithful : first.Faithful epsilon start history) (equally : second.Faithful epsilon start other)
    (same : Happening.traces history = Happening.traces other) (paced : Happening.Paced (history ++ later))
    (pacedToo : Happening.Paced (other ++ later)) : (first.run later).frames = (second.run later).frames := by
  induction later generalizing first second history other with
  | nil => exact alike.frames
  | cons next rest ih =>
      have traced : Happening.traces (history ++ [next]) = Happening.traces (other ++ [next]) := by
        rw [Happening.traces_append, Happening.traces_append, same]
      have on : Happening.Paced ((history ++ [next]) ++ rest) := by simpa using paced
      have onToo : Happening.Paced ((other ++ [next]) ++ rest) := by simpa using pacedToo
      cases next with
      | work change =>
          exact ih (alike.work change) _ _ (faithful.work change) (equally.work change) traced on onToo
      | force => exact ih alike.force _ _ faithful.force equally.force traced on onToo
      | sample =>
          have read := faithful.step_read (Happening.paced_append _ _ paced)
          have readToo := equally.step_read (Happening.paced_append _ _ pacedToo)
          rw [← same] at readToo
          have one := alike.sample (read.trans readToo.symm)
          exact congrArg (fun watch => (watch.run rest).frames) one

-- A second sample finds nothing that the first has left to tell.
theorem second_sample (watch : Watch R) (now : Nat)
    (steady : ∀ id value, (id, value) ∈ Sampler.values watch.cell →
      ¬watch.sampler.epsilon < Scalar.abs (value - value)) :
    ((watch.after .sample).after (.work (.clock now))).offers = none := by
  have cell := watch.cell_after_sample
  rw [offers_none_iff]
  simp only [after, Change.apply] at cell ⊢
  rw [cell]
  exact watch.sampler.still_after_sample watch.tick watch.cell now steady

namespace Recalls

variable {epsilon : R} {start : Cell R} {history : List (Happening R)} {sent : List (Sending R)} {watch : Watch R}

theorem news (recalls : watch.Recalls history sent) (id : String) (value : R) :
    watch.sampler.isNews (id, value) = true ↔ Sending.News watch.sampler.epsilon sent id value := by
  simp only [Sampler.isNews, Sending.News, recalls.values]
  cases Sending.value? sent id <;> simp

-- A sample that was not asked for everything reports the device values that are news.
theorem motions (recalls : watch.Recalls history sent) (orderly : watch.cell.Orderly)
    (unasked : ¬Happening.Asked history) (id : String) (value : R) :
    (id, value) ∈ watch.sampler.motions watch.cell ↔
      watch.cell.Shows id value ∧ Sending.News watch.sampler.epsilon sent id value := by
  have unforced : watch.sampler.forced = false := by simpa [← recalls.forced] using unasked
  rw [Sampler.motions, List.mem_filter, Sampler.mem_values watch.cell orderly, unforced, Bool.false_or, recalls.news]

theorem unmoved (recalls : watch.Recalls history sent) (orderly : watch.cell.Orderly)
    (unasked : ¬Happening.Asked history) : watch.sampler.motions watch.cell = [] ↔
      ∀ id value, watch.cell.Shows id value → ¬Sending.News watch.sampler.epsilon sent id value := by
  rw [List.eq_nil_iff_forall_not_mem, Prod.forall]
  simp only [recalls.motions orderly unasked, not_and]

theorem asked (recalls : watch.Recalls history sent) (orderly : watch.cell.Orderly)
    (asked : Happening.Asked history) : ∃ frame, watch.offers = some frame ∧
      (∀ id value, (id, value) ∈ frame.values.getD [] ↔ watch.cell.Shows id value) ∧
      frame.materials = some watch.cell.materials.entries := by
  have forced : watch.sampler.forced = true := recalls.forced.mpr asked
  refine ⟨_, watch.sampler.sample_frame watch.tick watch.cell (Or.inl forced), fun id value => ?_, ?_⟩
  · rw [Sampler.frame, Sampler.values_given, Sampler.motions, List.mem_filter, Sampler.mem_values watch.cell orderly,
      forced]
    simp
  · simp [Sampler.frame, Sampler.table?, forced]

end Recalls

end Watch

/-- A sample that was not asked for everything gives a frame just when there is news: of a device, of the materials,
an event or the step; and all the device values in it are news. One that was asked for everything tells everything.
Leaving out a sample that gave no frame changes none of the frames after it, and where no value differs from itself by
more than epsilon, a second sample of the same things gives no frame. -/
theorem frames_tell_only_news (epsilon : R) (tick : Nat) (start : Cell R) (orderly : start.Orderly)
    (history : List (Happening R)) (paced : Happening.Paced history) :
    let begun := Watch.start epsilon tick start
    let watch := begun.run history
    let sent := begun.sent history
    watch.frames = sent.map Prod.fst ∧
    (¬Happening.Asked history → (watch.offers = none ↔
      (∀ id value, watch.cell.Shows id value → ¬Sending.News epsilon sent id value) ∧
        Sending.revision? sent = some watch.cell.materials.revision ∧ watch.cell.events = [] ∧
        Sending.step? sent = some (Happening.lastBegun (Happening.traces history)))) ∧
    (Happening.Asked history → ∃ frame, watch.offers = some frame ∧
      (∀ id value, (id, value) ∈ frame.values.getD [] ↔ watch.cell.Shows id value) ∧
      frame.materials = some watch.cell.materials.entries) ∧
    (¬Happening.Asked history → ∀ frame, watch.offers = some frame → ∀ id value, (id, value) ∈ frame.values.getD [] →
      watch.cell.Shows id value ∧ Sending.News epsilon sent id value) ∧
    (watch.offers = none → ∀ later, Happening.Paced (history ++ later) →
      (begun.run (history ++ later)).frames = (begun.run (history ++ .sample :: later)).frames) ∧
    ((∀ id value, watch.cell.Shows id value → ¬epsilon < Scalar.abs (value - value)) →
      ∀ now, ((watch.after .sample).after (.work (.clock now))).offers = none) := by
  intro begun watch sent
  have faithful : watch.Faithful epsilon start history :=
    (Watch.Faithful.begin epsilon tick start orderly).run history paced
  have recalls : watch.Recalls history sent := Watch.recalls_all epsilon tick start history
  refine ⟨begun.sent_frames history, fun unasked => ?_, recalls.asked faithful.orderly, fun unasked =>
    ?_, fun silent later pacedLater => ?_, fun steady now => watch.second_sample now ?_⟩
  · have step : (watch.sampler.readTraces watch.cell.traces).step = Happening.lastBegun (Happening.traces history) := by
      rw [faithful.step_read paced, Happening.follow_begun]
      rfl
    rw [Watch.offers_none_iff, Sampler.Stirred, recalls.forced, recalls.revision, recalls.step, step,
      ← faithful.epsilon, ← recalls.unmoved faithful.orderly unasked]
    simp only [not_or, not_not, unasked, not_false_eq_true, true_and]
  · intro frame given id value member
    rw [watch.frame_of_offers frame given, Sampler.frame, Sampler.values_given] at member
    rw [← faithful.epsilon]
    exact (recalls.motions faithful.orderly unasked id value).mp member
  · have traced : Happening.traces history = Happening.traces (history ++ [.sample]) := by
      rw [Happening.traces_append]
      exact (List.append_nil _).symm
    have more : Happening.Paced ((history ++ [.sample]) ++ later) := by
      simpa using Happening.paced_insert history later pacedLater
    rw [Watch.run_append, Watch.run_append]
    exact Watch.frames_of_alike (watch.alike_of_offers_none silent) history (history ++ [.sample]) later faithful
      (faithful.sample paced) traced pacedLater more
  · intro id value member
    rw [faithful.epsilon]
    exact steady id value ((Sampler.mem_values watch.cell faithful.orderly id value).mp member)

theorem a_quiet_sample_leaves_no_mark :
    gripperCell.Orderly ∧ Happening.Paced boltHistory ∧
      (let begun := Watch.start (1 / 100) 0 gripperCell
      (begun.run boltHistory).offers = none ∧
        (begun.run (boltHistory ++ [.force, .sample])).frames =
          (begun.run (boltHistory ++ .sample :: [.force, .sample])).frames) := by
  have orderly : gripperCell.Orderly := Cell.Orderly.new _ _
  have paced : Happening.Paced boltHistory := Happening.paced_of_short boltHistory (by decide)
  have silent : ((Watch.start (1 / 100) 0 gripperCell).run boltHistory).offers = none :=
    Option.isNone_iff_eq_none.mp (by decide +kernel)
  obtain ⟨-, -, -, -, unmarked, -⟩ := frames_tell_only_news (1 / 100) 0 gripperCell orderly boltHistory paced
  exact ⟨orderly, paced, silent, unmarked silent _ (Happening.paced_of_short _ (by decide))⟩

theorem frames_pass_over_a_hidden_axis :
    (¬∀ (epsilon : Rat) (tick : Nat) (start : Cell Rat), start.Orderly → ∀ history, Happening.Paced history →
      ¬Happening.Asked history → ((Watch.start epsilon tick start).run history).offers = none →
        ∀ id handle axis, ((Watch.start epsilon tick start).run history).cell.axes.find? id = some (handle, axis) →
          ¬Sending.News epsilon ((Watch.start epsilon tick start).sent history) id axis.state.position) ∧
    ¬∀ (epsilon : Rat) (tick : Nat) (start : Cell Rat), start.Orderly → ∀ history, Happening.Paced history →
      (((Watch.start epsilon tick start).run history).after .sample).offers = none := by
  have orderly : gripperCell.Orderly := Cell.Orderly.new _ _
  constructor
  · intro claimed
    have paced : Happening.Paced (twinHistory ++ [.sample]) := Happening.paced_of_short _ (by decide)
    have unasked : ¬Happening.Asked (twinHistory ++ [.sample]) := by simp [Happening.asked_concat]
    have silent : ((Watch.start (1 / 100) 0 gripperCell).run (twinHistory ++ [.sample])).offers = none :=
      Option.isNone_iff_eq_none.mp (by decide +kernel)
    refine claimed (1 / 100) 0 gripperCell orderly _ paced unasked silent "X" 0
      ⟨.new "X" 10 20, .ofMillis 10, none, ⟨10, 10, false, false⟩, 0, 0⟩ rfl ?_
    have last : Sending.value? ((Watch.start (1 / 100) 0 gripperCell).sent (twinHistory ++ [.sample])) "X" = some 0 := by
      decide +kernel
    intro value known
    cases last.symm.trans known
    decide +kernel
  · intro claimed
    have paced : Happening.Paced twinHistory := Happening.paced_of_short twinHistory (by decide)
    have silent := claimed (-1) 0 gripperCell orderly twinHistory paced
    have speaks : ((((Watch.start (-1) 0 gripperCell).run twinHistory).after .sample).offers).isSome = true := by
      decide +kernel
    rw [silent] at speaks
    cases speaks

end Workcell

import Workcell.Cell.Motor
import Workcell.Proofs.Bank
import Workcell.Proofs.Drift.Handlers
import Workcell.Proofs.Kin.Turn
import Workcell.Proofs.Twin.Blind
import Workcell.Proofs.Upkeep.Life
import Workcell.Run.Task
import Workcell.Telemetry.Sampler

/-!
Turns in a cell adrift: flows, motors and samplers do there what they do in the cell itself, and what is told there is
told as much later.
-/

set_option autoImplicit false

namespace Workcell

variable {R : Type}

def Frame.undated (frame : Frame R) : Frame R :=
  { frame with tick := 0, events := frame.events.map fun events => events.map Event.undated }

variable [Scalar R] {drift : Drift}

namespace Drift

omit [Scalar R] in
theorem given_undated (events : List (Event R)) :
    (Sampler.given (events.map (Event.later drift.ahead))).map (fun events => events.map Event.undated) =
      (Sampler.given events).map fun events => events.map Event.undated := by
  cases events with
  | nil => rfl
  | cons event rest => simp [Sampler.given]

-- The ticks of frames aside, a sampler tells the same of a cell adrift.
theorem sample_carried (sampler : Sampler R) (last other : Nat) (cell : Cell R) (fits : drift.Fits cell) :
    (sampler.sample other (drift.cell cell)).1.map Frame.undated = (sampler.sample last cell).1.map Frame.undated ∧
      (sampler.sample other (drift.cell cell)).2.1 = (sampler.sample last cell).2.1 ∧
      (sampler.sample other (drift.cell cell)).2.2.2 = drift.cell (sampler.sample last cell).2.2.2 ∧
      drift.Fits (sampler.sample last cell).2.2.2 := by
  have values : Sampler.values (drift.cell cell) = Sampler.values cell := rfl
  have materials : (drift.cell cell).materials = cell.materials := rfl
  have traces : (drift.cell cell).traces = cell.traces := rfl
  have drained : (drift.cell cell).drainEvents =
      (cell.events.map (Event.later drift.ahead), drift.cell cell.drainEvents.2) := rfl
  have silent : (cell.events.map (Event.later drift.ahead)).isEmpty = cell.events.isEmpty := by cases cell.events <;> rfl
  have after : drift.Fits cell.drainEvents.2 := { fits with }
  simp only [Sampler.sample, values, materials, traces, drained, silent]
  have here : cell.drainEvents.1 = cell.events := rfl
  rw [here]
  -- The first choice is whether the materials are told, the second whether there is a frame at all.
  split
  · split
    · refine ⟨?_, rfl, rfl, after⟩
      simp only [Option.map_some, Frame.undated, given_undated]
    · exact ⟨rfl, rfl, rfl, after⟩
  · split
    · refine ⟨?_, rfl, rfl, after⟩
      simp only [Option.map_some, Frame.undated, given_undated]
    · exact ⟨rfl, rfl, rfl, after⟩

end Drift

namespace Act

variable {A S : Type}

omit [Scalar R] in
theorem carried_each (records : List S) (work : S → Act R A) (each : ∀ record, Carried drift id (work record)) :
    Carried drift id (forIn records PUnit.unit fun record _ => do
      let _ ← work record
      pure (ForInStep.yield PUnit.unit) : Act R PUnit) := by
  induction records with
  | nil => exact carried_pure _ _ rfl
  | cons record rest ih =>
      rw [List.forIn_cons]
      refine carried_bind _ _ _ (carried_bind _ _ _ (each record) fun _ => carried_pure _ _ rfl) fun step => ?_
      cases step with
      | done result => exact carried_pure _ _ rfl
      | yield result => exact ih

omit [Scalar R] in
theorem blind_each (records : List S) (work : S → Act R A) (each : ∀ record, Blind (work record)) :
    Blind (forIn records PUnit.unit fun record _ => do
      let _ ← work record
      pure (ForInStep.yield PUnit.unit) : Act R PUnit) := by
  induction records with
  | nil => exact blind_pure _
  | cons record rest ih =>
      rw [List.forIn_cons]
      refine blind_bind _ _ (blind_bind _ _ (each record) fun _ => blind_pure _) fun step => ?_
      cases step with
      | done result => exact blind_pure _
      | yield result => exact ih

end Act

open Act in
theorem materialize_all_carried : Carried drift id (materializeAll (R := R)) := by
  refine carried_get_bind _ _ (fun _ _ => rfl) fun cell _ => ?_
  refine carried_bind _ _ _ (carried_each cell.machine.axes _ fun spec => Action.find_axis_carried spec.id) fun _ => ?_
  refine carried_bind _ _ _ (carried_each cell.machine.actuators _ fun spec => Action.find_actuator_carried spec.id)
    fun _ => ?_
  exact carried_pure _ _ rfl

open Act in
theorem materialize_all_blind : Blind (materializeAll (R := R)) := by
  refine blind_get_bind _ (fun _ _ _ => rfl) fun cell => ?_
  refine blind_bind _ _ (blind_each cell.machine.axes _ fun spec => Action.find_axis_blind spec.id) fun _ => ?_
  refine blind_bind _ _ (blind_each cell.machine.actuators _ fun spec => Action.find_actuator_blind spec.id) fun _ => ?_
  exact blind_pure _

namespace Drift

theorem kindred (drift : Drift) (handlers : HandlerTable R) (ok : Call R → Prop) (carried : handlers.Carried drift ok) :
    Kindred handlers ok drift.cast fun cell other => other = drift.cell cell ∧ drift.Fits cell where
  cancelled := by
    rintro cell other ⟨rfl, fits⟩
    rfl
  hook := by
    rintro cell other ⟨rfl, fits⟩
    rfl
  trace := by
    rintro cell other ⟨rfl, fits⟩ step status number
    rw [show step.renamed drift.cast.name = step from renamed_same step]
    exact ⟨rfl, { fits with }⟩
  appeal := by
    rintro cell other ⟨rfl, fits⟩ step fault
    rw [show step.renamed drift.cast.name = step from renamed_same step]
    exact ⟨rfl, { fits with }⟩
  issue := by
    rintro cell other ⟨rfl, fits⟩
    obtain ⟨same, after⟩ := issue_keeps cell fits
    exact ⟨rfl, congrArg Prod.snd same, after⟩
  again := by
    rintro cell other ⟨rfl, fits⟩ key
    exact effect_keeps (.again key) (.again (drift.key key)) nofun rfl cell fits
  rest := by
    rintro cell other ⟨rfl, fits⟩ key
    exact effect_keeps (.rest key) (.rest (drift.key key)) nofun rfl cell fits
  resolve := by
    rintro cell other ⟨rfl, fits⟩ call
    rfl
  act := by
    rintro cell other ⟨rfl, fits⟩ call handler allowed resolved
    obtain ⟨same, after⟩ := carried cell call handler allowed resolved cell fits
    rw [same]
    exact ⟨rfl, rfl, after⟩
  look := by
    rintro cell other ⟨rfl, fits⟩ wait
    obtain ⟨same, after⟩ := look_carried wait cell fits
    rw [show drift.cast.wait wait = drift.wait wait from rfl, same]
    exact ⟨rfl, rfl, after⟩
  abandon := by
    rintro cell other ⟨rfl, fits⟩ wait
    exact abandon_keeps wait cell fits

theorem task_carried (handlers : HandlerTable R) (ok : Call R → Prop) (carried : handlers.Carried drift ok) (task : Task R)
    (makes : task.Makes ok) (cell : Cell R) (fits : drift.Fits cell) :
    (task.recast drift.cast).poll handlers (drift.cell cell) =
        ((task.poll handlers cell).1.recast drift.cast, drift.cell (task.poll handlers cell).2) ∧
      drift.Fits (task.poll handlers cell).2 := by
  have law := drift.kindred handlers ok carried
  have turn : Poll.Kin drift.cast (fun cell other => other = drift.cell cell ∧ drift.Fits cell) (task.poll handlers)
      ((task.recast drift.cast).poll handlers) := by
    cases task with
    | fresh step => exact start_kin law step makes
    | running run => exact resume_kin law run (run_every_of_fit run makes)
  obtain ⟨same, equal, after⟩ := turn cell (drift.cell cell) ⟨rfl, fits⟩
  exact ⟨Prod.ext same equal, after⟩

omit [Scalar R] in
theorem outcome_recast (progress : Progress R) :
    (progress.recast drift.cast).outcome = progress.outcome.mapError (Task.recast drift.cast) := by
  cases progress <;> rfl

variable (drift)

def drive : Drive R → Drive R
  | .axis handle motion => .axis handle motion
  | .actuator handle stroke began => .actuator handle stroke (began + drift.ahead)

def motor (motor : Motor R) : Motor R :=
  match motor.timer with
  | none => motor
  | some timer => ⟨drift.drive motor.drive, some (drift.timer timer)⟩

variable {drift}

omit [Scalar R] in
theorem tick_same (way : Drive R) (cell : Cell R) :
    Motor.tick (drift.cell cell) (drift.drive way) = Motor.tick cell way := by
  cases way <;> rfl

omit [Scalar R] in
theorem tick_plain (way : Drive R) (cell : Cell R) (fits : drift.Fits cell) (ticks : Motor.tick cell way ≠ 0) :
    drift.Plain (Motor.tick cell way) := by
  cases way with
  | axis handle motion =>
      simp only [Motor.tick] at ticks ⊢
      cases found : cell.axes.get? handle with
      | none => exact absurd (by rw [found]; rfl) ticks
      | some axis => exact fits.axes axis (List.mem_of_getElem? found)
  | actuator handle stroke began =>
      simp only [Motor.tick] at ticks ⊢
      cases found : cell.actuators.get? handle with
      | none => exact absurd (by rw [found]; rfl) ticks
      | some actuator => exact fits.actuators actuator (List.mem_of_getElem? found)

omit [Scalar R] in
theorem hold_carried (way : Drive R) (cell : Cell R) (fits : drift.Fits cell) (plain : drift.Plain (Motor.tick cell way)) :
    Motor.hold (drift.drive way) (drift.cell cell) =
        ((Motor.hold way cell).1.map drift.motor, drift.cell (Motor.hold way cell).2) ∧
      drift.Fits (Motor.hold way cell).2 := by
  obtain ⟨set, after⟩ := timer_keeps (Duration.due cell.now (Motor.tick cell way)) cell fits
  have due := due_keeps _ plain cell fits
  simp only [Motor.hold, tick_same, due, set]
  exact ⟨rfl, after⟩

-- A step that is made leaves a cell that fits, and a device with a plain tick.
theorem step_carried (way : Drive R) (cell : Cell R) (fits : drift.Fits cell) :
    Motor.step (drift.cell cell) (drift.drive way) = (Motor.step cell way).map (fun made => (made.1, drift.cell made.2)) ∧
      ∀ made, Motor.step cell way = some made → drift.Fits made.2 ∧ drift.Plain (Motor.tick made.2 way) := by
  cases way with
  | axis handle motion =>
      have bank : (drift.cell cell).axes = cell.axes := rfl
      simp only [drive, Motor.step, bank]
      cases found : cell.axes.get? handle with
      | none => exact ⟨rfl, by simp⟩
      | some axis =>
          have plain := fits.axes axis (List.mem_of_getElem? found)
          cases moves : motion.tick? axis with
          | none => exact ⟨by simp [moves], by simp [moves]⟩
          | some moved =>
              have ticks : moved.1.tick = axis.tick := by
                unfold AxisMotion.tick? at moves
                split at moves
                · cases moves
                  rfl
                · cases moves
              obtain ⟨same, after⟩ := ((set_axis_keeps handle moved.1 (ticks ▸ plain)).trans
                (signal_keeps (.axis handle) rfl)) cell fits
              have there := Bank.get_set found moved.1
              simp only [Option.bind_eq_bind, Option.bind_some, moves, Option.pure_def, Option.map_some, Option.some.injEq]
              refine ⟨Prod.ext rfl same, ?_⟩
              rintro made rfl
              refine ⟨after, ?_⟩
              have now : Motor.tick ({ cell with axes := cell.axes.set handle moved.1 }.signal (.axis handle))
                  (.axis handle motion) = moved.1.tick := by
                simp [Motor.tick, Cell.signal, Cell.effect, there]
              rw [now, ticks]
              exact plain
  | actuator handle stroke began =>
      have bank : (drift.cell cell).actuators = cell.actuators := rfl
      have lasted : (drift.cell cell).now - (began + drift.ahead) = cell.now - began := Nat.add_sub_add_right _ _ _
      simp only [drive, Motor.step, bank, lasted]
      cases found : cell.actuators.get? handle with
      | none => exact ⟨rfl, by simp⟩
      | some actuator =>
          have plain := fits.actuators actuator (List.mem_of_getElem? found)
          cases moves : stroke.tick? (Duration.ofMillis (cell.now - began)) actuator with
          | none => exact ⟨by simp [moves], by simp [moves]⟩
          | some moved =>
              have ticks : moved.1.tick = actuator.tick := by
                unfold Stroke.tick? at moves
                split at moves
                · cases moves
                  rfl
                · cases moves
              obtain ⟨same, after⟩ := ((set_actuator_keeps handle moved.1 (ticks ▸ plain)).trans
                (signal_keeps (.actuator handle) rfl)) cell fits
              have there := Bank.get_set found moved.1
              simp only [Option.bind_eq_bind, Option.bind_some, moves, Option.pure_def, Option.map_some, Option.some.injEq]
              refine ⟨Prod.ext rfl same, ?_⟩
              rintro made rfl
              refine ⟨after, ?_⟩
              have now : Motor.tick ({ cell with actuators := cell.actuators.set handle moved.1 }.signal (.actuator handle))
                  (.actuator handle stroke began) = moved.1.tick := by
                simp [Motor.tick, Cell.signal, Cell.effect, there]
              rw [now, ticks]
              exact plain

theorem motor_carried (motor : Motor R) (cell : Cell R) (fits : drift.Fits cell) :
    (drift.motor motor).poll (drift.cell cell) = ((motor.poll cell).1.map drift.motor, drift.cell (motor.poll cell).2) ∧
      drift.Fits (motor.poll cell).2 := by
  obtain ⟨way, timer⟩ := motor
  cases timer with
  | none =>
      have ticks : Motor.tick (drift.cell cell) way = Motor.tick cell way := by cases way <;> rfl
      have begins : Motor.begun (drift.cell cell).now way = drift.drive (Motor.begun cell.now way) := by cases way <;> rfl
      have same : Motor.tick cell (Motor.begun cell.now way) = Motor.tick cell way := by cases way <;> rfl
      simp only [motor, Motor.poll, ticks, begins]
      by_cases nothing : Motor.tick cell way = 0
      · simp only [if_pos nothing]
        exact ⟨rfl, fits⟩
      · simp only [if_neg nothing]
        exact hold_carried _ cell fits (tick_plain _ cell fits (same ▸ nothing))
  | some timer =>
      obtain ⟨steps, after⟩ := step_carried way cell fits
      simp only [motor, Motor.poll, reached_iff, steps]
      by_cases reached : cell.reached timer = true
      · simp only [if_pos reached]
        cases made : Motor.step cell way with
        | none => exact ⟨rfl, fits⟩
        | some outcome =>
            obtain ⟨fitsAfter, plain⟩ := after outcome made
            obtain ⟨done, later⟩ := outcome
            cases done with
            | true => exact ⟨rfl, fitsAfter⟩
            | false => exact hold_carried way later fitsAfter plain
      · simp only [if_neg reached]
        exact ⟨rfl, fits⟩

end Drift

end Workcell

import Mathlib.Tactic.Linarith
import Workcell.Device.Actuator
import Workcell.Proofs.Exact
import Workcell.Proofs.Outstanding

/-!
What being settled tells of where an actuator stands.

A history of an actuator is any order of strokes begun, stops, and ticks of the strokes that are still carried out.
Besides the actuator it is noted which state the last stroke that was carried through has led to, and how the last
stroke went. Being settled does not look at the position. It tells the end of travel after a stroke that was carried
through; after one that was cut short it does not, and is true all the same when that stroke was on its way back to
the state that the last one carried through had led to.
-/

set_option autoImplicit false

namespace Workcell

inductive Deed where
  | fire (on : Bool)
  | stop
  | tick (index : Nat) (elapsed : Duration)
  deriving DecidableEq, Repr

inductive Fate where
  | underWay (on : Bool)
  | through (on : Bool)
  | cut (on : Bool)
  deriving DecidableEq, Repr

def Fate.stopped : Fate → Fate
  | .underWay on => .cut on
  | fate => fate

def Fate.short? : Fate → Option Bool
  | .underWay on => some on
  | .through _ => none
  | .cut on => some on

structure Course (R : Type) where
  actuator : Actuator R
  strokes : List (Stroke R)
  reached : Bool
  fate : Fate

namespace Course

variable {R : Type} [Scalar R]

def new (spec : ActuatorSpec) (tick : Duration) : Course R := ⟨.new spec tick, [], false, .through false⟩

def step (course : Course R) : Deed → Course R
  | .fire on =>
      match course.actuator.fire on with
      | (none, fired) => ⟨fired, course.strokes, on, .through on⟩
      | (some stroke, fired) => ⟨fired, course.strokes ++ [stroke], course.reached, .underWay on⟩
  | .stop => ⟨course.actuator.stop, course.strokes, course.reached, course.fate.stopped⟩
  | .tick index elapsed =>
      match course.strokes[index]? with
      | none => course
      | some stroke =>
          match stroke.tick? elapsed course.actuator with
          | none => ⟨course.actuator, course.strokes.eraseIdx index, course.reached, course.fate⟩
          | some (moved, true) => ⟨moved, course.strokes.eraseIdx index, stroke.on, .through stroke.on⟩
          | some (moved, false) => ⟨moved, course.strokes, course.reached, course.fate⟩

def after (spec : ActuatorSpec) (tick : Duration) (history : List Deed) : Course R := history.foldl step (new spec tick)

omit [Scalar R] in
-- The last stroke was cut short on its way back to the state that the last one carried through had led to.
def CutBack (course : Course R) (on : Bool) : Prop := course.fate = .cut on ∧ course.reached = on

end Course

-- Arithmetic without rounding: no way takes no time, and a part of a way does not lead to its end.
structure Scalar.Precise (R : Type) [Scalar R] : Prop where
  standing : ∀ x span : R, (Scalar.nanoseconds (Scalar.abs (x - x) * span)).getD 0 = 0
  partway : ∀ start target fraction : R, start ≠ target → ¬ Scalar.one ≤ fraction →
    start + (target - start) * fraction ≠ target

theorem rat_precise : Scalar.Precise Rat where
  standing x span := by
    have zero : Scalar.abs (x - x) * span = (0 : Rat) := by
      show Exact.magnitude (x - x) * span = 0
      simp [Exact.magnitude]
    rw [zero]
    decide +kernel
  partway start target fraction apart partly := by
    have less : fraction < 1 := by
      apply lt_of_not_ge
      exact partly
    intro there
    have gap : (target - start) * (1 - fraction) = 0 := by
      have same : start + (target - start) * fraction = target := there
      linarith
    rcases mul_eq_zero.mp gap with none | whole
    · exact apart (by linarith)
    · linarith

namespace Course

variable {R : Type} [Scalar R]

def Flagged (state : ActuatorState R) (reached : Bool) : Fate → Prop
  | .underWay on => state.commanded = on ∧ state.changing = true
  | .through on => state.commanded = on ∧ state.changing = false ∧ reached = on ∧ state.position = Actuator.travelEnd on
  | .cut on => state.commanded = on ∧ state.changing = false

-- Only the stroke under way still bears the generation of the actuator, so the ticks of all others change nothing.
structure Sound (course : Course R) : Prop where
  reached : course.actuator.state.on = course.reached
  flagged : Flagged course.actuator.state course.reached course.fate
  outstanding : Outstanding Stroke.generation course.actuator.generation course.strokes
  current : ∀ stroke ∈ course.strokes, stroke.generation = course.actuator.generation →
    course.fate = .underWay stroke.on ∧ stroke.target = Actuator.travelEnd stroke.on
  apart : Scalar.Precise R → ∀ on, course.fate.short? = some on →
    course.actuator.state.position ≠ Actuator.travelEnd on
  underWay : Scalar.Precise R → ∀ stroke ∈ course.strokes, stroke.generation = course.actuator.generation →
    stroke.start ≠ stroke.target

theorem new_sound (spec : ActuatorSpec) (tick : Duration) : Sound (new (R := R) spec tick) where
  reached := rfl
  flagged := ⟨rfl, rfl, rfl, rfl⟩
  outstanding := .nothing
  current _ member := absurd member List.not_mem_nil
  apart _ _ short := by cases short
  underWay _ _ member := absurd member List.not_mem_nil

theorem fire_sound (course : Course R) (sound : Sound course) (on : Bool) : Sound (course.step (.fire on)) := by
  simp only [step, Actuator.fire]
  have gone := sound.outstanding.superseded
  by_cases instant : course.actuator.strokeTime on = 0
  · rw [if_pos instant]
    exact {
      reached := rfl
      flagged := ⟨rfl, rfl, rfl, rfl⟩
      outstanding := sound.outstanding.moved_on
      current := fun stroke member same => absurd same (gone stroke member)
      apart := fun _ _ short => by cases short
      underWay := fun _ stroke member same => absurd same (gone stroke member) }
  · rw [if_neg instant]
    have offEnd : Scalar.Precise R → course.actuator.state.position ≠ Actuator.travelEnd on := by
      intro precise there
      apply instant
      unfold Actuator.strokeTime
      rw [there]
      exact precise.standing _ _
    exact {
      reached := sound.reached
      flagged := ⟨rfl, rfl⟩
      outstanding := sound.outstanding.begun _ rfl
      current := by
        intro stroke member same
        rcases List.mem_append.mp member with old | new
        · exact absurd same (gone stroke old)
        · rw [List.mem_singleton.mp new]
          exact ⟨rfl, rfl⟩
      apart := by
        intro precise other short
        cases short
        exact offEnd precise
      underWay := by
        intro precise stroke member same
        rcases List.mem_append.mp member with old | new
        · exact absurd same (gone stroke old)
        · rw [List.mem_singleton.mp new]
          exact offEnd precise }

omit [Scalar R] in
theorem stop_state (actuator : Actuator R) :
    actuator.stop.generation = actuator.generation + 1 ∧ actuator.stop.state =
      ⟨actuator.state.on, actuator.state.commanded, false, actuator.state.position⟩ := by
  unfold Actuator.stop
  dsimp only
  cases changing : actuator.state.changing with
  | true => exact ⟨rfl, rfl⟩
  | false =>
      refine ⟨rfl, ?_⟩
      show actuator.state = ⟨_, _, false, _⟩
      rw [← changing]

theorem stop_sound (course : Course R) (sound : Sound course) : Sound (course.step .stop) := by
  have gone := sound.outstanding.superseded
  obtain ⟨later, state⟩ := stop_state course.actuator
  have sameShort : course.fate.stopped.short? = course.fate.short? := by
    cases course.fate with
    | underWay on => rfl
    | through on => rfl
    | cut on => rfl
  have flagged := sound.flagged
  refine ⟨?_, ?_, ?_, ?_, ?_, ?_⟩
  · simp only [step, state]
    exact sound.reached
  · simp only [step, state]
    cases fate : course.fate with
    | underWay on =>
        rw [fate] at flagged
        exact ⟨flagged.1, rfl⟩
    | through on =>
        rw [fate] at flagged
        exact ⟨flagged.1, rfl, flagged.2.2⟩
    | cut on =>
        rw [fate] at flagged
        exact ⟨flagged.1, rfl⟩
  · simp only [step, later]
    exact sound.outstanding.moved_on
  · intro stroke member same
    simp only [step, later] at same
    exact absurd same (gone stroke member)
  · intro precise on short
    simp only [step, state]
    exact sound.apart precise on (sameShort.symm.trans short)
  · intro _ stroke member same
    simp only [step, later] at same
    exact absurd same (gone stroke member)

theorem tick_sound (course : Course R) (sound : Sound course) (index : Nat) (elapsed : Duration) :
    Sound (course.step (.tick index elapsed)) := by
  simp only [step]
  cases present : course.strokes[index]? with
  | none => exact sound
  | some stroke =>
      have member := List.mem_of_getElem? present
      have fewer : ∀ other ∈ course.strokes.eraseIdx index, other ∈ course.strokes := fun other =>
        List.mem_of_mem_eraseIdx
      simp only [Stroke.tick?]
      by_cases own : course.actuator.generation = stroke.generation
      · rw [if_pos own]
        obtain ⟨fate, target⟩ := sound.current stroke member own.symm
        have gone : ∀ other ∈ course.strokes.eraseIdx index, other.generation ≠ course.actuator.generation := by
          intro other listed same
          exact sound.outstanding.others_differ index stroke present other listed (same.trans own)
        have flagged := sound.flagged
        rw [fate] at flagged
        unfold Stroke.advance
        dsimp only
        by_cases whole : Scalar.one ≤ stroke.fraction elapsed
        · rw [if_pos whole]
          exact {
            reached := rfl
            flagged := ⟨flagged.1, rfl, rfl, target⟩
            outstanding := sound.outstanding.removed index
            current := fun other listed same => absurd same (gone other listed)
            apart := fun _ _ short => by cases short
            underWay := fun _ other listed same => absurd same (gone other listed) }
        · rw [if_neg whole]
          refine ⟨sound.reached, ?_, sound.outstanding, sound.current, ?_, sound.underWay⟩
          · rw [fate]
            exact flagged
          · intro precise on short
            rw [fate] at short
            cases short
            rw [← target]
            exact precise.partway _ _ _ (sound.underWay precise stroke member own.symm) whole
      · rw [if_neg own]
        exact {
          reached := sound.reached
          flagged := sound.flagged
          outstanding := sound.outstanding.removed index
          current := fun other listed => sound.current other (fewer other listed)
          apart := sound.apart
          underWay := fun precise other listed => sound.underWay precise other (fewer other listed) }

theorem step_sound (course : Course R) (sound : Sound course) (deed : Deed) : Sound (course.step deed) := by
  cases deed with
  | fire on => exact fire_sound course sound on
  | stop => exact stop_sound course sound
  | tick index elapsed => exact tick_sound course sound index elapsed

theorem after_sound (spec : ActuatorSpec) (tick : Duration) (history : List Deed) :
    Sound (after (R := R) spec tick history) := by
  have carried : ∀ (deeds : List Deed) (course : Course R), Sound course → Sound (deeds.foldl step course) := by
    intro deeds
    induction deeds with
    | nil => exact fun _ sound => sound
    | cons deed rest ih => exact fun course sound => ih _ (step_sound course sound deed)
  exact carried history _ (new_sound spec tick)

/-- An actuator is settled at a state exactly when its last stroke was carried through to it, or was cut short on the
way back to it. In the first case it stands at the end of travel; in the second, as far as no rounding puts it there,
it does not. -/
theorem settled_iff_through_or_cut_back (spec : ActuatorSpec) (tick : Duration) (history : List Deed) (on : Bool) :
    ((after (R := R) spec tick history).actuator.state.settledAt on = true ↔
        (after (R := R) spec tick history).fate = .through on ∨ (after (R := R) spec tick history).CutBack on) ∧
      ((after (R := R) spec tick history).fate = .through on →
        (after (R := R) spec tick history).actuator.state.position = Actuator.travelEnd on) ∧
      (Scalar.Precise R → (after (R := R) spec tick history).CutBack on →
        (after (R := R) spec tick history).actuator.state.position ≠ Actuator.travelEnd on) := by
  have sound := after_sound (R := R) spec tick history
  generalize after (R := R) spec tick history = course at sound ⊢
  have flagged := sound.flagged
  refine ⟨?_, ?_, ?_⟩
  · rw [ActuatorState.settledAt, sound.reached]
    unfold CutBack
    cases fate : course.fate with
    | underWay other =>
        rw [fate] at flagged
        simp [flagged.2]
    | through other =>
        rw [fate] at flagged
        simp [flagged.1, flagged.2.1, flagged.2.2.1]
    | cut other =>
        rw [fate] at flagged
        simp [flagged.1, flagged.2, and_comm]
  · intro through
    rw [through] at flagged
    exact flagged.2.2.2
  · rintro precise ⟨cut, -⟩
    exact sound.apart precise on (by rw [cut]; rfl)

-- A clamp that is stopped halfway out and once more on its way back counts as settled where it stands.
theorem settled_on_the_way_back :
    ¬ ∀ (spec : ActuatorSpec) (tick : Duration) (history : List Deed) (on : Bool),
      (after (R := Rat) spec tick history).actuator.state.settledAt on = true →
        (after (R := Rat) spec tick history).actuator.state.position = Actuator.travelEnd on := by
  intro claimed
  have there := claimed (.new "clamp" .cylinder 200) (.ofMillis 10)
    [.fire true, .tick 0 (.ofMillis 100), .stop, .fire false, .tick 1 (.ofMillis 20), .stop] false (by decide +kernel)
  revert there
  decide +kernel

end Course

end Workcell

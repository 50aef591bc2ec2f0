import Workcell.Proofs.Completion.Actions
import Workcell.Proofs.Travel
import Workcell.Scenario

/-!
What a machine that is fit to run offers: devices with free names of their own, each axis with limits in order. If its
values are finite, the places that a round of carrying uses can be moved to.
-/

set_option autoImplicit false

namespace Workcell

-- What the arithmetic of positions is relied on for: whole tenths of a finite span off either end of a range are
-- finite.
structure Scalar.Ranges (R : Type) [Scalar R] : Prop where
  le_of_lt : ∀ low high : R, low < high → low ≤ high
  zero : Scalar.isFinite (Scalar.zero : R) = true
  above : ∀ (low high : R) (tenths : Nat), tenths < 10 → Scalar.isFinite low = true → Scalar.isFinite high = true →
    Scalar.isFinite (high - low) = true →
    Scalar.isFinite (low + Scalar.ofDecimal false tenths (-1) * (high - low)) = true
  below : ∀ (low high : R) (tenths : Nat), tenths < 10 → Scalar.isFinite low = true → Scalar.isFinite high = true →
    Scalar.isFinite (high - low) = true →
    Scalar.isFinite (high - Scalar.ofDecimal false tenths (-1) * (high - low)) = true

variable {R : Type} [Scalar R]

-- The values of an axis are finite, and so is its travel span.
structure AxisSpec.Finite (spec : AxisSpec R) : Prop where
  min : Scalar.isFinite spec.min = true
  max : Scalar.isFinite spec.max = true
  span : Scalar.isFinite (spec.max - spec.min) = true
  home : ∀ home, spec.home = some home → Scalar.isFinite home = true

namespace Machine

structure Fit (machine : Machine R) : Prop where
  axes : ∀ spec ∈ machine.axes, spec.id ≠ systemName ∧ spec.min < spec.max
  actuators : ∀ spec ∈ machine.actuators, spec.id ≠ systemName
  apart : ∀ actuator ∈ machine.actuators, ∀ axis ∈ machine.axes, actuator.id ≠ axis.id

theorem fit_of_valid (machine : Machine R) (valid : machine.validate = .ok ()) : machine.Fit := by
  obtain ⟨-, free, distinct, ranges⟩ := machine.valid_iff.mp valid
  obtain ⟨-, -, apart⟩ := List.nodup_append'.mp distinct
  have axisId : ∀ spec ∈ machine.axes, spec.id ∈ machine.axes.map AxisSpec.id := fun _ => List.mem_map_of_mem
  have actuatorId : ∀ spec ∈ machine.actuators, spec.id ∈ machine.actuators.map ActuatorSpec.id :=
    fun _ => List.mem_map_of_mem
  refine ⟨fun spec member => ?_, fun spec member => ?_, fun actuator member axis declared same => ?_⟩
  · exact ⟨(free _ (List.mem_append_left _ (axisId spec member))).2, (ranges spec member).1⟩
  · exact (free _ (List.mem_append_right _ (actuatorId spec member))).2
  · exact apart (axisId axis declared) (same ▸ actuatorId actuator member)

end Machine

structure Machine.Fires (machine : Machine R) (id : String) : Prop where
  other : id ≠ systemName
  axis : machine.axis? id = none
  declared : ∃ spec, machine.actuator? id = some spec

namespace Machine.Fit

variable {machine : Machine R} (fit : machine.Fit) (ranges : Scalar.Ranges R)

include fit ranges in
theorem moves (spec : AxisSpec R) (member : spec ∈ machine.axes) : machine.Moves spec.id := by
  refine ⟨(fit.axes spec member).1, ?_⟩
  cases declared : machine.axis? spec.id with
  | none => exact absurd (List.find?_eq_none.mp declared spec member) (by simp)
  | some found =>
      have ordered := ranges.le_of_lt _ _ (fit.axes found (List.mem_of_find?_eq_some declared)).2
      exact ⟨found, _, rfl, by rw [AxisSpec.homePosition?, AxisSpec.clamp?, if_pos ordered]⟩

include fit in
theorem fires (kind : ActuatorKind) (id : String) (first : Scenario.firstOf machine kind = some id) :
    machine.Fires id := by
  rw [Scenario.firstOf] at first
  obtain ⟨spec, found, rfl⟩ := Option.map_eq_some_iff.mp first
  have member := List.mem_of_find?_eq_some found
  refine ⟨fit.actuators spec member, ?_, ?_⟩
  · exact List.find?_eq_none.mpr fun axis declared => by simpa using Ne.symm (fit.apart spec member axis declared)
  · cases declared : machine.actuator? spec.id with
    | none => exact absurd (List.find?_eq_none.mp declared spec member) (by simp)
    | some other => exact ⟨other, rfl⟩

end Machine.Fit

structure Scenario.Stops.Finite (stops : Scenario.Stops R) : Prop where
  pick : Scalar.isFinite stops.pick = true
  place : Scalar.isFinite stops.place = true
  up : Scalar.isFinite stops.up = true
  down : Scalar.isFinite stops.down = true

theorem AxisSpec.clamp_finite (spec : AxisSpec R) (finite : spec.Finite) (ordered : spec.min ≤ spec.max) (position : R)
    (given : Scalar.isFinite position = true) :
    ∃ clamped, spec.clamp? position = some clamped ∧ Scalar.isFinite clamped = true := by
  have raised : Scalar.isFinite (if position < spec.min then spec.min else position) = true := by
    by_cases low : position < spec.min
    · rw [if_pos low]
      exact finite.min
    · rw [if_neg low]
      exact given
  rw [clamp?, if_pos ordered]
  refine ⟨_, rfl, ?_⟩
  by_cases high : spec.max < (if position < spec.min then spec.min else position)
  · rw [if_pos high]
    exact finite.max
  · rw [if_neg high]
    exact raised

theorem Scenario.stops_finite (ranges : Scalar.Ranges R) (x z : AxisSpec R) (finiteX : x.Finite) (finiteZ : z.Finite)
    (ordered : z.min ≤ z.max) : ∃ stops, Scenario.stops? x z = some stops ∧ stops.Finite := by
  have rest : Scalar.isFinite (z.home.getD Scalar.zero) = true := by
    cases given : z.home with
    | none => exact ranges.zero
    | some home => exact finiteZ.home home given
  obtain ⟨up, upward, upFinite⟩ := z.clamp_finite finiteZ ordered _ rest
  obtain ⟨down, downward, downFinite⟩ := z.clamp_finite finiteZ ordered _
    (ranges.above z.min z.max 8 (by decide) finiteZ.min finiteZ.max finiteZ.span)
  refine ⟨⟨x.min + Scalar.ofDecimal false 1 (-1) * (x.max - x.min), x.max - Scalar.ofDecimal false 1 (-1) * (x.max - x.min),
    up, down⟩, ?_, ?_, ?_, upFinite, downFinite⟩
  · rw [stops?, AxisSpec.homePosition?, upward, downward]
    rfl
  · exact ranges.above x.min x.max 1 (by decide) finiteX.min finiteX.max finiteX.span
  · exact ranges.below x.min x.max 1 (by decide) finiteX.min finiteX.max finiteX.span

end Workcell

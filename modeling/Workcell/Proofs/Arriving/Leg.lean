import Mathlib.Algebra.Order.Floor.Semiring
import Mathlib.Data.Rat.Floor
import Mathlib.Tactic.FieldSimp
import Workcell.Proofs.Travel

/-!
The way of an axis to its target, without rounding: where it stands after any number of ticks, and how many ticks it
takes.
-/

set_option autoImplicit false

namespace Workcell

variable {R : Type} [Scalar R]

def Scalar.Exact.Timed (exact : Scalar.Exact R) : Prop :=
  ∀ span : Duration, (Scalar.seconds span : R) = exact.of ((span : Rat) / 1000000000)

namespace Exact

theorem seconds_of_nanoseconds (span : Nat) :
    ((span / 1000000000 : Nat) : Rat) + ((span % 1000000000 : Nat) : Rat) / 1000000000 = (span : Rat) / 1000000000 := by
  have split : (span : Rat) = 1000000000 * (span / 1000000000 : Nat) + (span % 1000000000 : Nat) := by
    exact_mod_cast (Nat.div_add_mod span 1000000000).symm
  rw [split]
  field_simp

theorem fractions_timed : fractions.Timed := seconds_of_nanoseconds

theorem readings_timed : readings.Timed := fun span => congrArg Reading.of (seconds_of_nanoseconds span)

end Exact

-- The speed that a command gives an axis with a speed of its own: a request above zero counts up to the own speed,
-- and any other request is ignored.
inductive Effective (exact : Scalar.Exact R) (own : Rat) : Option R → Rat → Prop where
  | asked (speed : Rat) (positive : 0 < speed) : Effective exact own (some (exact.of speed)) (min speed own)
  | ignored (request : R) (useless : ∀ q, request = exact.of q → q ≤ 0) : Effective exact own (some request) own
  | unasked : Effective exact own none own

-- A number that is not finite lies beyond every fraction or is not above zero, so it is no fraction above zero.
theorem speed_effective (exact : Scalar.Exact R) (axis : Axis R) (own : Rat) (fast : axis.spec.maxSpeed = exact.of own)
    (positive : 0 < own) (request : Option R) :
    ∃ v, Effective exact own request v ∧ 0 < v ∧ axis.speed request = exact.of v := by
  cases request with
  | none => exact ⟨own, .unasked, positive, fast⟩
  | some request =>
      rw [Axis.speed]
      by_cases usable : Scalar.isFinite request = true ∧ Scalar.zero < request
      · obtain ⟨q, rfl⟩ := exact.finite request usable.1
        have above : 0 < q := (exact.lt 0 q).mp (exact.zero ▸ usable.2)
        refine ⟨min q own, .asked q above, lt_min above positive, ?_⟩
        rw [if_pos usable, Scalar.lesser, fast]
        by_cases slower : own < q
        · rw [if_pos ((exact.lt own q).mpr slower), min_eq_right slower.le]
        · rw [if_neg (mt (exact.lt own q).mp slower), min_eq_left (not_lt.mp slower)]
      · refine ⟨own, .ignored request ?_, positive, (if_neg usable).trans fast⟩
        rintro q rfl
        by_contra above
        have known : Scalar.zero < exact.of q := exact.zero ▸ (exact.lt 0 q).mpr (not_le.mp above)
        cases finite : Scalar.isFinite (exact.of q) with
        | true => exact usable ⟨finite, known⟩
        | false => exact exact.beyond _ (q + 1) finite known ((exact.lt _ _).mpr (lt_add_one q))

-- A way to go in ticks: from one place to another, so far in a tick.
structure Leg where
  start : Rat
  target : Rat
  step : Rat

namespace Leg

def ticks (leg : Leg) : Nat := ⌈|leg.target - leg.start| / leg.step⌉₊

def toward (leg : Leg) (steps : Nat) : Rat :=
  if leg.target < leg.start then leg.start - steps * leg.step else leg.start + steps * leg.step

def place (leg : Leg) (ticks : Nat) : Rat := if ticks < leg.ticks then leg.toward ticks else leg.target

-- The state of an axis on its way after so many ticks; `homed` is from before the command.
def state (exact : Scalar.Exact R) (leg : Leg) (homed homing : Bool) (ticks : Nat) : AxisState R :=
  ⟨exact.of (leg.place ticks), exact.of leg.target, decide (ticks < leg.ticks),
    if ticks < leg.ticks then homed && !homing else homed || homing⟩

variable {leg : Leg}

theorem ticks_le_iff (moves : 0 < leg.step) (steps : Nat) :
    leg.ticks ≤ steps ↔ |leg.target - leg.start| ≤ steps * leg.step := by
  rw [ticks, Nat.ceil_le, div_le_iff₀ moves]

theorem lt_ticks_iff (moves : 0 < leg.step) (steps : Nat) :
    steps < leg.ticks ↔ steps * leg.step < |leg.target - leg.start| := by
  rw [← not_le, ticks_le_iff moves, not_le]

theorem ticks_eq_zero_iff (moves : 0 < leg.step) : leg.ticks = 0 ↔ leg.start = leg.target := by
  rw [← Nat.le_zero, ticks_le_iff moves, Nat.cast_zero, zero_mul, abs_nonpos_iff, sub_eq_zero, eq_comm]

-- What is left of the way, and on which side of the axis it lies.
theorem rest_of_way (steps : Nat) (short : steps * leg.step < |leg.target - leg.start|) :
    |leg.target - leg.toward steps| = |leg.target - leg.start| - steps * leg.step ∧
      (leg.target - leg.toward steps < 0 ↔ leg.target < leg.start) := by
  unfold toward
  by_cases back : leg.target < leg.start
  · rw [abs_of_neg (sub_neg.mpr back)] at short ⊢
    have behind : leg.target - (leg.start - steps * leg.step) < 0 := by linarith
    rw [if_pos back, abs_of_neg behind]
    exact ⟨by ring, iff_of_true behind back⟩
  · rw [abs_of_nonneg (sub_nonneg.mpr (not_lt.mp back))] at short ⊢
    have ahead : 0 ≤ leg.target - (leg.start + steps * leg.step) := by linarith
    rw [if_neg back, abs_of_nonneg ahead]
    exact ⟨by ring, iff_of_false (not_lt.mpr ahead) back⟩

theorem toward_succ (steps : Nat) :
    leg.toward (steps + 1) = leg.toward steps + if leg.target < leg.start then -leg.step else leg.step := by
  unfold toward
  rw [Nat.cast_succ]
  by_cases back : leg.target < leg.start
  · rw [if_pos back, if_pos back, if_pos back]
    ring
  · rw [if_neg back, if_neg back, if_neg back]
    ring

theorem advance_state (exact : Scalar.Exact R) (moves : 0 < leg.step) (homed homing : Bool) (generation steps : Nat)
    (short : steps < leg.ticks) :
    (⟨generation, exact.of leg.target, exact.of leg.step, homing⟩ : AxisMotion R).advance
        (leg.state exact homed homing steps) =
      (leg.state exact homed homing (steps + 1), decide (leg.ticks = steps + 1)) := by
  obtain ⟨rest, side⟩ := leg.rest_of_way steps ((lt_ticks_iff moves steps).mp short)
  have last : |leg.target - leg.toward steps| ≤ leg.step ↔ ¬ steps + 1 < leg.ticks := by
    rw [rest, not_lt, ticks_le_iff moves, Nat.cast_succ, add_mul, one_mul, sub_le_iff_le_add']
  unfold AxisMotion.advance
  simp only [state, place, if_pos short, exact.sub, exact.abs, exact.le]
  by_cases near : |leg.target - leg.toward steps| ≤ leg.step
  · have ended : leg.ticks = steps + 1 := by
      have := last.mp near
      omega
    rw [if_pos near]
    cases homed with
    | true => simp [ended]
    | false => simp [ended]
  · have going : steps + 1 < leg.ticks := not_not.mp (mt last.mpr near)
    have onward : leg.toward steps + (if leg.target - leg.toward steps < 0 then -|leg.step| else |leg.step|) =
        leg.toward (steps + 1) := by
      simp only [side, abs_of_pos moves, toward_succ]
    rw [if_neg near, exact.copySign, exact.add, onward]
    simp [short, going, going.ne']

theorem place_zero (leg : Leg) : leg.place 0 = leg.start ∨ leg.place 0 = leg.target ∧ leg.ticks = 0 := by
  unfold place toward
  by_cases way : 0 < leg.ticks
  · left
    rw [if_pos way, Nat.cast_zero, zero_mul, sub_zero, add_zero, ite_self]
  · right
    exact ⟨if_neg way, Nat.eq_zero_of_not_pos way⟩

theorem command_state (exact : Scalar.Exact R) (axis : Axis R) (goal : R) (request : Option R) (homing : Bool)
    (clamped : (axis.spec.clamp? goal).getD goal = exact.of leg.target)
    (position : axis.state.position = exact.of leg.start)
    (step : axis.speed request * Scalar.seconds axis.tick = exact.of leg.step) (moves : 0 < leg.step) :
    axis.command goal request homing = (exact.of leg.target,
      if leg.start = leg.target then none
      else some ⟨axis.generation + 1, exact.of leg.target, exact.of leg.step, homing⟩,
      axis.publish (leg.state exact axis.state.homed homing 0) (axis.generation + 1)) := by
  have way := ticks_eq_zero_iff moves
  unfold Axis.command
  simp only [clamped, position, step, exact.same]
  by_cases there : leg.start = leg.target
  · have ended : leg.ticks = 0 := way.mpr there
    rw [if_pos there, if_pos there, there]
    cases axis.state.homed with
    | true => simp [state, place, ended]
    | false => simp [state, place, ended]
  · have going : 0 < leg.ticks := Nat.pos_of_ne_zero (mt way.mp there)
    have first : leg.place 0 = leg.start := leg.place_zero.resolve_right fun ended => going.ne' ended.2
    rw [if_neg there, if_neg there]
    simp [state, first, going]

end Leg

-- Limits in order hold every place between them, and the nearer one in place of any other.
theorem clamp_exact (exact : Scalar.Exact R) (spec : AxisSpec R) (low high q : Rat)
    (lower : spec.min = exact.of low) (upper : spec.max = exact.of high) (ordered : low ≤ high) :
    spec.clamp? (exact.of q) = some (exact.of (max low (min q high))) := by
  unfold AxisSpec.clamp?
  rw [lower, upper, if_pos ((exact.le low high).mpr ordered)]
  simp only [exact.lt]
  by_cases short : q < low
  · simp only [if_pos short, exact.lt, if_neg (not_lt.mpr ordered)]
    rw [max_eq_left ((min_le_left q high).trans short.le)]
  · simp only [if_neg short, exact.lt]
    by_cases long : high < q
    · rw [if_pos long, min_eq_right long.le, max_eq_right ordered]
    · rw [if_neg long, min_eq_left (not_lt.mp long), max_eq_right (not_lt.mp short)]

end Workcell

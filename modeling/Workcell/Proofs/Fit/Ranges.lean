import Mathlib.Order.WithBot
import Mathlib.Algebra.Order.Ring.Unbundled.Rat
import Workcell.Device.Driver
import Workcell.Proofs.Fit.Machines

/-!
Axes of a checked machine inside their range, whatever numbers they are made of: limits may be infinite, and zeros may have
signs. A number that is undefined is neither below nor above a limit, so it passes for one inside; a range cannot have such
a limit, but a home position can be one.
-/

set_option autoImplicit false

namespace Workcell

-- Numbers compare as binary floating point does: nothing compares with an undefined number, and the others are in
-- order.
structure Scalar.Ordered (R : Type) [Scalar R] : Prop where
  defined : ∀ x y : R, x ≤ y → Scalar.isNan x = false ∧ Scalar.isNan y = false
  lt_iff : ∀ x y : R, x < y ↔ x ≤ y ∧ ¬ y ≤ x
  total : ∀ x y : R, Scalar.isNan x = false → Scalar.isNan y = false → x ≤ y ∨ y ≤ x
  zero : Scalar.isNan (Scalar.zero : R) = false

namespace AxisSpec

variable {R : Type} [Scalar R] (ordered : Scalar.Ordered R)

include ordered

theorem clamp_inside (spec : AxisSpec R) (range : spec.min < spec.max) (place : R) (above : spec.min ≤ place)
    (below : place ≤ spec.max) : spec.clamp? place = some place := by
  have notShort : ¬ place < spec.min := fun short => ((ordered.lt_iff _ _).mp short).2 above
  have notLong : ¬ spec.max < place := fun long => ((ordered.lt_iff _ _).mp long).2 below
  rw [clamp?, if_pos ((ordered.lt_iff _ _).mp range).1]
  simp only [if_neg notShort, if_neg notLong]

theorem clamp_undefined (spec : AxisSpec R) (range : spec.min < spec.max) (place : R)
    (undefined : Scalar.isNan place = true) : spec.clamp? place = some place := by
  have notShort : ¬ place < spec.min := by
    intro short
    have known := (ordered.defined _ _ ((ordered.lt_iff _ _).mp short).1).1
    rw [undefined] at known
    cases known
  have notLong : ¬ spec.max < place := by
    intro long
    have known := (ordered.defined _ _ ((ordered.lt_iff _ _).mp long).1).2
    rw [undefined] at known
    cases known
  rw [clamp?, if_pos ((ordered.lt_iff _ _).mp range).1]
  simp only [if_neg notShort, if_neg notLong]

theorem clamp_within (spec : AxisSpec R) (range : spec.min < spec.max) (place : R)
    (defined : Scalar.isNan place = false) :
    ∃ inside, spec.clamp? place = some inside ∧ spec.min ≤ inside ∧ inside ≤ spec.max := by
  have limits := ((ordered.lt_iff _ _).mp range).1
  obtain ⟨low, high⟩ := ordered.defined _ _ limits
  have reflexive : ∀ x : R, Scalar.isNan x = false → x ≤ x := fun x known =>
    (ordered.total x x known known).elim (fun below => below) fun below => below
  have reaches : ∀ x y : R, Scalar.isNan x = false → Scalar.isNan y = false → ¬ x < y → y ≤ x := by
    intro x y knownX knownY notLess
    rcases ordered.total x y knownX knownY with less | more
    · by_contra notMore
      exact notLess ((ordered.lt_iff x y).mpr ⟨less, notMore⟩)
    · exact more
  rw [clamp?, if_pos limits]
  by_cases short : place < spec.min
  · have notLong : ¬ spec.max < spec.min := fun long => ((ordered.lt_iff _ _).mp long).2 limits
    exact ⟨spec.min, by simp only [if_pos short, if_neg notLong], reflexive _ low, limits⟩
  · by_cases long : spec.max < place
    · exact ⟨spec.max, by simp only [if_neg short, if_pos long], limits, reflexive _ high⟩
    · exact ⟨place, by simp only [if_neg short, if_neg long], reaches _ _ defined low short, reaches _ _ high defined long⟩

end AxisSpec

/-- An axis of a checked machine takes every defined place inside its range, and it has a home position, where it is parked
and where homing sends it. The home position is inside the range unless the record gives an undefined one, which is taken
as it is. -/
theorem valid_axes_stay_in_range {R : Type} [Scalar R] (ordered : Scalar.Ordered R) (spec : AxisSpec R)
    (valid : spec.validate = .ok ()) :
    (∀ place, Scalar.isNan place = false →
      ∃ inside, spec.clamp? place = some inside ∧ spec.min ≤ inside ∧ inside ≤ spec.max) ∧
    ∃ home, spec.homePosition? = some home ∧
      ((∀ place, spec.home = some place → Scalar.isNan place = false) → spec.min ≤ home ∧ home ≤ spec.max) ∧
      (∀ place, spec.home = some place → Scalar.isNan place = true → home = place) ∧
      (∀ tick, ∃ axis, (Driver.simulation tick).createAxis spec = .ok (some axis) ∧ axis.spec = spec ∧
        axis.state.position = home ∧ axis.state.commanded = home) ∧
      ∀ axis : Axis R, axis.spec = spec → (axis.command axis.homeTarget none true).1 = home := by
  have range := (spec.valid_iff.mp valid).2.1
  refine ⟨fun place defined => spec.clamp_within ordered range place defined, ?_⟩
  -- Taking the home position inside once more leaves it where it is, be it defined or not.
  have parks : ∃ home, spec.homePosition? = some home ∧ spec.clamp? home = some home ∧
      ((∀ place, spec.home = some place → Scalar.isNan place = false) → spec.min ≤ home ∧ home ≤ spec.max) ∧
      ∀ place, spec.home = some place → Scalar.isNan place = true → home = place := by
    rw [AxisSpec.homePosition?]
    cases defined : Scalar.isNan (spec.home.getD Scalar.zero) with
    | false =>
        obtain ⟨home, isHome, above, below⟩ := spec.clamp_within ordered range _ defined
        refine ⟨home, isHome, spec.clamp_inside ordered range home above below, fun _ => ⟨above, below⟩, ?_⟩
        intro place given undefined
        rw [given, Option.getD_some, undefined] at defined
        cases defined
    | true =>
        have stays := spec.clamp_undefined ordered range _ defined
        refine ⟨_, stays, stays, fun known => ?_, fun place given _ => by rw [given, Option.getD_some]⟩
        cases given : spec.home with
        | none =>
            rw [given, Option.getD_none, ordered.zero] at defined
            cases defined
        | some place =>
            rw [given, Option.getD_some, known place given] at defined
            cases defined
  obtain ⟨home, isHome, stays, inside, undefined⟩ := parks
  refine ⟨home, isHome, inside, undefined, fun tick => ?_, ?_⟩
  · refine ⟨⟨spec, tick, spec.contact, ⟨home, home, false, false⟩, 0, 0⟩, ?_, rfl, rfl, rfl⟩
    simp only [Driver.createAxis, Axis.new?, isHome, Option.map_some, Axis.withContact]
  · rintro axis rfl
    have target : (axis.spec.clamp? axis.homeTarget).getD axis.homeTarget = home := by
      rw [Axis.homeTarget, isHome, Option.getD_some, stays, Option.getD_some]
    unfold Axis.command
    simp only [target]
    split
    · rfl
    · rfl

namespace Exact

-- The fractions, two infinite numbers around them, a second zero and an undefined number.
inductive Extended where
  | undefined
  | infinite (negative : Bool)
  | negativeZero
  | fraction (q : Rat)
  deriving DecidableEq

namespace Extended

def place? : Extended → Option (WithBot (WithTop Rat))
  | undefined => none
  | infinite true => some ⊥
  | infinite false => some ((⊤ : WithTop Rat) : WithBot (WithTop Rat))
  | negativeZero => some ((0 : Rat) : WithTop Rat)
  | fraction q => some ((q : Rat) : WithTop Rat)

-- Only the order of these numbers is of interest here: arithmetic beyond the fractions gives an undefined number.
def combine (f : Rat → Rat → Rat) : Extended → Extended → Extended
  | fraction p, fraction q => fraction (f p q)
  | _, _ => undefined

def compare (holds : WithBot (WithTop Rat) → WithBot (WithTop Rat) → Bool) (x y : Extended) : Bool :=
  match x.place?, y.place? with
  | some p, some q => holds p q
  | _, _ => false

def text : Extended → String
  | undefined => "NaN"
  | infinite true => "-inf"
  | infinite false => "inf"
  | negativeZero => "-0"
  | fraction q => toString q

instance : Scalar Extended where
  add := combine (· + ·)
  sub := combine (· - ·)
  mul := combine (· * ·)
  div := combine (· / ·)
  beq := compare (· == ·)
  lt x y := compare (fun p q => decide (p < q)) x y = true
  le x y := compare (fun p q => decide (p ≤ q)) x y = true
  decLt _ _ := inferInstanceAs (Decidable (_ = true))
  decLe _ _ := inferInstanceAs (Decidable (_ = true))
  ofNat n := fraction n
  ofDecimal negative digits exponent := fraction (ofDecimal negative digits exponent)
  abs
    | undefined => undefined
    | infinite _ => infinite false
    | negativeZero => fraction 0
    | fraction q => fraction (magnitude q)
  copySign := combine fun p q => if q < 0 then -magnitude p else magnitude p
  isFinite
    | undefined | infinite _ => false
    | negativeZero | fraction _ => true
  isNan x := x.place?.isNone
  nanoseconds
    | fraction q => nanoseconds q
    | _ => none
  nan := undefined
  infinity := infinite false
  plain := text
  dump := text
  wire := text

theorem compare_iff (holds : WithBot (WithTop Rat) → WithBot (WithTop Rat) → Bool) (x y : Extended) :
    compare holds x y = true ↔ ∃ p q, x.place? = some p ∧ y.place? = some q ∧ holds p q = true := by
  rw [compare]
  cases x.place? <;> cases y.place? <;> simp

theorem known_iff (x : Extended) : Scalar.isNan x = false ↔ ∃ p, x.place? = some p := by
  show x.place?.isNone = false ↔ _
  cases x.place? <;> simp

theorem compares : Scalar.Ordered Extended where
  defined x y below := by
    obtain ⟨p, q, isP, isQ, -⟩ := (compare_iff _ _ _).mp below
    exact ⟨x.known_iff.mpr ⟨p, isP⟩, y.known_iff.mpr ⟨q, isQ⟩⟩
  lt_iff x y := by
    show compare _ x y = true ↔ compare _ x y = true ∧ ¬ compare _ y x = true
    simp only [compare_iff, decide_eq_true_iff]
    constructor
    · rintro ⟨p, q, isP, isQ, less⟩
      refine ⟨⟨p, q, isP, isQ, le_of_lt less⟩, ?_⟩
      rintro ⟨q', p', isQ', isP', more⟩
      rw [isP, Option.some.injEq] at isP'
      rw [isQ, Option.some.injEq] at isQ'
      subst isP' isQ'
      exact not_le_of_gt less more
    · rintro ⟨⟨p, q, isP, isQ, -⟩, notMore⟩
      exact ⟨p, q, isP, isQ, not_le.mp fun more => notMore ⟨q, p, isQ, isP, more⟩⟩
  total x y knownX knownY := by
    obtain ⟨p, isP⟩ := x.known_iff.mp knownX
    obtain ⟨q, isQ⟩ := y.known_iff.mp knownY
    rcases le_total p q with less | more
    · exact .inl ((compare_iff _ _ _).mpr ⟨p, q, isP, isQ, decide_eq_true less⟩)
    · exact .inr ((compare_iff _ _ _).mpr ⟨q, p, isQ, isP, decide_eq_true more⟩)
  zero := rfl

end Extended

end Exact

def risingAxis : AxisSpec Exact.Extended :=
  ⟨"Z", 0, 0, .negativeZero, .infinite false, .infinite false, some (.infinite true), none⟩

theorem rising_axis_stays_in_range : risingAxis.validate = .ok () ∧
    (∀ place, Scalar.isNan place = false →
      ∃ inside, risingAxis.clamp? place = some inside ∧ risingAxis.min ≤ inside ∧ inside ≤ risingAxis.max) ∧
    ∃ home, risingAxis.homePosition? = some home ∧ risingAxis.min ≤ home ∧ home ≤ risingAxis.max := by
  have valid : risingAxis.validate = .ok () := rfl
  obtain ⟨inside, home, isHome, isInside, -⟩ := valid_axes_stay_in_range Exact.Extended.compares risingAxis valid
  refine ⟨valid, inside, home, isHome, isInside ?_⟩
  intro place given
  cases given
  rfl

-- The home position of a checked axis may lie nowhere.
theorem a_valid_axis_starts_outside_its_range :
    ∃ spec : AxisSpec Exact.Extended, spec.validate = .ok () ∧
      ∃ home, spec.homePosition? = some home ∧ ¬ (spec.min ≤ home ∧ home ≤ spec.max) :=
  ⟨⟨"X", 0, 0, .fraction 0, .fraction 10, .fraction 100, some .undefined, none⟩, rfl, .undefined, rfl, by decide⟩

end Workcell

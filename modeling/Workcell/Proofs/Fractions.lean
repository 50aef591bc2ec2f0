import Mathlib.Algebra.Order.Field.Rat
import Mathlib.Algebra.Order.Field.Basic
import Mathlib.Tactic.Positivity
import Workcell.Proofs.Exact

/-!
Arithmetic without rounding: the finite numbers compute as fractions do, and nothing else is said of the numbers that
are not finite but that those above zero lie beyond every fraction. Fractions alone are such numbers, and so are
fractions beside a number that stands for none.
-/

set_option autoImplicit false

namespace Workcell

structure Scalar.Exact (R : Type) [Scalar R] where
  of : Rat → R
  finite : ∀ x : R, Scalar.isFinite x = true → ∃ q, x = of q
  zero : (Scalar.zero : R) = of 0
  le : ∀ p q, of p ≤ of q ↔ p ≤ q
  lt : ∀ p q, of p < of q ↔ p < q
  same : ∀ p q, (of p == of q) = true ↔ p = q
  add : ∀ p q, of p + of q = of (p + q)
  sub : ∀ p q, of p - of q = of (p - q)
  mul : ∀ p q, of p * of q = of (p * q)
  abs : ∀ p, Scalar.abs (of p) = of |p|
  copySign : ∀ p q, Scalar.copySign (of p) (of q) = of (if q < 0 then -|p| else |p|)
  seconds : ∀ span, ∃ q, (Scalar.seconds span : R) = of q ∧ 0 ≤ q ∧ (span ≠ 0 → 0 < q)
  beyond : ∀ x q, Scalar.isFinite x = false → Scalar.zero < x → ¬ x < of q
  far : ∀ x p q, Scalar.isFinite x = false → Scalar.zero < x → 0 < q → of p ≤ x * of q

namespace Exact

theorem magnitude_is_abs (x : Rat) : magnitude x = |x| := by
  by_cases negative : x < 0
  · simp [magnitude, negative, abs_of_neg negative]
  · simp [magnitude, negative, abs_of_nonneg (not_lt.mp negative)]

theorem seconds_of_span (span : Nat) :
    0 ≤ ((span / 1000000000 : Nat) : Rat) + ((span % 1000000000 : Nat) : Rat) / 1000000000 ∧
      (span ≠ 0 → 0 < ((span / 1000000000 : Nat) : Rat) + ((span % 1000000000 : Nat) : Rat) / 1000000000) := by
  constructor
  · positivity
  · intro some
    by_cases whole : span / 1000000000 = 0
    · have rest : 0 < span % 1000000000 := by omega
      have positive : (0 : Rat) < (span % 1000000000 : Nat) := by exact_mod_cast rest
      positivity
    · have positive : (0 : Rat) < (span / 1000000000 : Nat) := by exact_mod_cast Nat.pos_of_ne_zero whole
      positivity

def fractions : Scalar.Exact Rat where
  of := id
  finite x _ := ⟨x, rfl⟩
  zero := rfl
  le _ _ := Iff.rfl
  lt _ _ := Iff.rfl
  same _ _ := beq_iff_eq
  add _ _ := rfl
  sub _ _ := rfl
  mul _ _ := rfl
  abs := magnitude_is_abs
  copySign p q := by
    show (if q < 0 then -magnitude p else magnitude p) = _
    rw [magnitude_is_abs]
    rfl
  seconds span := ⟨_, rfl, seconds_of_span span⟩
  beyond _ _ endless := by cases endless
  far _ _ _ endless := by cases endless

-- A fraction, or none where a number has no value.
structure Reading where
  fraction? : Option Rat
  deriving DecidableEq

namespace Reading

def of (q : Rat) : Reading := ⟨some q⟩

def none : Reading := ⟨.none⟩

def combine (f : Rat → Rat → Rat) (x y : Reading) : Reading :=
  match x.fraction?, y.fraction? with
  | some p, some q => of (f p q)
  | _, _ => none

-- A number without a value is neither below, nor above, nor equal to any other.
def compare (holds : Rat → Rat → Bool) (x y : Reading) : Bool :=
  match x.fraction?, y.fraction? with
  | some p, some q => holds p q
  | _, _ => false

instance : Scalar Reading where
  add := combine (· + ·)
  sub := combine (· - ·)
  mul := combine (· * ·)
  div := combine (· / ·)
  beq := compare (· == ·)
  lt x y := compare (fun p q => decide (p < q)) x y = true
  le x y := compare (fun p q => decide (p ≤ q)) x y = true
  decLt _ _ := inferInstanceAs (Decidable (_ = true))
  decLe _ _ := inferInstanceAs (Decidable (_ = true))
  ofNat n := of n
  ofDecimal negative digits exponent := of (ofDecimal negative digits exponent)
  abs x := ⟨x.fraction?.map magnitude⟩
  copySign := combine fun p q => if q < 0 then -magnitude p else magnitude p
  isFinite x := x.fraction?.isSome
  isNan x := x.fraction?.isNone
  nanoseconds x := x.fraction?.bind nanoseconds
  nan := none
  infinity := none
  plain x := (x.fraction?.map fun q => toString q).getD "none"
  dump x := (x.fraction?.map fun q => toString q).getD "none"
  wire x := (x.fraction?.map fun q => toString q).getD "none"

theorem not_positive (x : Reading) (endless : Scalar.isFinite x = false) : ¬ Scalar.zero < x := by
  obtain ⟨value⟩ := x
  cases value with
  | none => exact Bool.false_ne_true
  | some q => cases endless

end Reading

def readings : Scalar.Exact Reading where
  of := Reading.of
  finite x isFinite := by
    obtain ⟨value⟩ := x
    cases value with
    | none => cases isFinite
    | some q => exact ⟨q, rfl⟩
  zero := rfl
  le _ _ := decide_eq_true_iff
  lt _ _ := decide_eq_true_iff
  same p q := show (p == q) = true ↔ p = q from beq_iff_eq
  add _ _ := rfl
  sub _ _ := rfl
  mul _ _ := rfl
  abs p := congrArg Reading.of (magnitude_is_abs p)
  copySign p q := by
    show Reading.of (if q < 0 then -magnitude p else magnitude p) = _
    rw [magnitude_is_abs]
  seconds span := ⟨_, rfl, seconds_of_span span⟩
  beyond x _ endless positive := (x.not_positive endless positive).elim
  far x _ _ endless positive := (x.not_positive endless positive).elim

end Exact

end Workcell

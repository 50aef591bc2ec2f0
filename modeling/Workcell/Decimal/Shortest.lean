/-!
The shortest decimal that reads back as a given binary number.

A positive number is given as `significand · 2 ^ exponent`, with the interval of reals that round to it: half
a unit on both sides, a quarter below where the significand is the least of its binade. The ends belong to the
interval when the significand is even. Decimal grids are tried from the coarsest down; the first grid with a
point inside the interval gives the digits, of two points the nearer, and a tie goes to the greater.
-/

set_option autoImplicit false

namespace Workcell.Decimal

structure Binary where
  significand : Nat
  exponent : Int
  least : Bool
  deriving Repr, DecidableEq

structure Digits where
  value : Nat
  exponent : Int
  deriving Repr, DecidableEq

def powerNumerator (base : Nat) (e : Int) : Nat := Nat.pow base e.toNat

def powerDenominator (base : Nat) (e : Int) : Nat := Nat.pow base (-e).toNat

-- Point `d` of the grid `10 ^ k` lies in the interval of numbers that round to `b`. All lengths are counted in
-- quarters of a unit of `b`.
def inside (b : Binary) (k : Int) (d : Nat) : Bool :=
  let unit := powerNumerator 2 (b.exponent - 2) * powerDenominator 10 k
  let grid := powerNumerator 10 k * powerDenominator 2 (b.exponent - 2)
  let low := (4 * b.significand - (if b.least then 1 else 2)) * unit
  let high := (4 * b.significand + 2) * unit
  let point := d * grid
  if b.significand % 2 = 0 then decide (low ≤ point ∧ point ≤ high)
  else decide (low < point ∧ point < high)

def floorPoint (b : Binary) (k : Int) : Nat :=
  (4 * b.significand * powerNumerator 2 (b.exponent - 2) * powerDenominator 10 k) /
    (powerNumerator 10 k * powerDenominator 2 (b.exponent - 2))

def nearerBelow (b : Binary) (k : Int) (d : Nat) : Bool :=
  decide (2 * (4 * b.significand * powerNumerator 2 (b.exponent - 2) * powerDenominator 10 k) <
    (2 * d + 1) * (powerNumerator 10 k * powerDenominator 2 (b.exponent - 2)))

-- The point of grid `10 ^ k` that reads back as `b` and is nearest to it.
def gridPoint (b : Binary) (k : Int) : Option Nat :=
  let d := floorPoint b k
  let below := decide (d ≠ 0) && inside b k d
  let above := inside b k (d + 1)
  if below && above then some (if nearerBelow b k d then d else d + 1)
  else if below then some d
  else if above then some (d + 1)
  else none

def trim : Nat → Nat → Int → Digits
  | 0, value, exponent => ⟨value, exponent⟩
  | fuel + 1, value, exponent =>
      if value ≠ 0 ∧ value % 10 = 0 then trim fuel (value / 10) (exponent + 1) else ⟨value, exponent⟩

def search (b : Binary) : Nat → Int → Digits
  | 0, k => ⟨floorPoint b k, k⟩
  | fuel + 1, k =>
      match gridPoint b k with
      | some d => trim 20 d k
      | none => search b fuel (k - 1)

-- An upper bound of the power of ten of the leading digit, at most two too high.
def leadingBound (b : Binary) : Int :=
  ((b.significand.log2 : Int) + b.exponent) * 30103 / 100000 + 2

def shortest (b : Binary) : Digits := search b 24 (leadingBound b)

end Workcell.Decimal

import Workcell.Decimal.Layout
import Workcell.Scalar

/-!
Binary floating point of 64 bits as the numbers of the cell.
-/

set_option autoImplicit false

namespace Workcell.Decimal

def fractionBits (x : Float) : Nat := x.toBits.toNat % Nat.pow 2 52

def exponentBits (x : Float) : Nat := x.toBits.toNat / Nat.pow 2 52 % Nat.pow 2 11

def signBit (x : Float) : Bool := decide (Nat.pow 2 63 ≤ x.toBits.toNat)

def binary (x : Float) : Binary :=
  if exponentBits x = 0 then ⟨fractionBits x, -1074, false⟩
  else ⟨Nat.pow 2 52 + fractionBits x, exponentBits x - 1075, fractionBits x = 0 ∧ exponentBits x ≠ 1⟩

def Layout.float (layout : Layout) (x : Float) : String :=
  if exponentBits x = 2047 then
    if fractionBits x ≠ 0 then layout.nan
    else if signBit x then layout.negativeInfinity else layout.infinity
  else
    let magnitude :=
      if (binary x).significand = 0 then layout.zero else layout.digits (shortest (binary x))
    String.ofList (if signBit x then '-' :: magnitude else magnitude)

def roundHalfEven (numerator denominator : Nat) : Nat :=
  let quotient := numerator / denominator
  let rest := 2 * (numerator % denominator)
  if rest < denominator then quotient
  else if denominator < rest then quotient + 1
  else if quotient % 2 = 0 then quotient else quotient + 1

def wholeNanoseconds (x : Float) : Option Nat :=
  if exponentBits x = 2047 then none
  else
    let b := binary x
    if signBit x && decide (b.significand ≠ 0) then none
    else
      let numerator := b.significand * powerNumerator 2 b.exponent
      let denominator := powerDenominator 2 b.exponent
      if Nat.pow 2 64 * denominator ≤ numerator then none
      else some (roundHalfEven (numerator * 1000000000) denominator)

-- The number nearest to a decimal; far beyond the range it is infinite or zero without forming the power.
def nearest (negative : Bool) (digits : Nat) (exponent : Int) : Float :=
  let magnitude : Float :=
    if digits = 0 then 0.0
    else
      let top : Int := (digitChars digits).length + exponent
      if 400 < top then 1.0 / 0.0
      else if top < -400 then 0.0
      else Float.ofScientific digits (decide (exponent < 0)) exponent.natAbs
  if negative then -magnitude else magnitude

def copySign (magnitude sign : Float) : Float :=
  if signBit sign then -magnitude.abs else magnitude.abs

instance : Scalar Float where
  decLt := inferInstance
  decLe := inferInstance
  ofNat n := nearest false n 0
  ofDecimal := nearest
  abs := Float.abs
  copySign := copySign
  isFinite x := x.isFinite
  isNan x := x.isNaN
  nanoseconds := wholeNanoseconds
  nan := 0.0 / 0.0
  infinity := 1.0 / 0.0
  plain := Layout.plain.float
  dump := Layout.dump.float
  wire := Layout.wire.float

end Workcell.Decimal

import Mathlib.Data.Rat.Defs
import Mathlib.Algebra.Order.Ring.Unbundled.Rat
import Workcell.Cell.Basic
import Workcell.Decimal.Binary64

/-!
Exact fractions as the numbers of the cell: the same arithmetic without rounding. No fraction is undefined or infinite.
-/

set_option autoImplicit false

namespace Workcell

def Exact.magnitude (x : Rat) : Rat := if x < 0 then -x else x

def Exact.ofDecimal (negative : Bool) (digits : Nat) (exponent : Int) : Rat :=
  let magnitude : Rat :=
    if exponent < 0 then mkRat digits (Nat.pow 10 exponent.natAbs) else digits * Nat.pow 10 exponent.natAbs
  if negative then -magnitude else magnitude

def Exact.nanoseconds (x : Rat) : Option Nat :=
  if x < 0 ∨ 2 ^ 64 ≤ x then none else some (Decimal.roundHalfEven (x.num.toNat * 1000000000) x.den)

instance : Scalar Rat where
  toAdd := inferInstance
  toSub := inferInstance
  toMul := inferInstance
  toDiv := inferInstance
  toBEq := inferInstance
  toLT := inferInstance
  toLE := inferInstance
  decLt := inferInstance
  decLe := inferInstance
  ofNat n := n
  ofDecimal := Exact.ofDecimal
  abs := Exact.magnitude
  copySign x sign := if sign < 0 then -Exact.magnitude x else Exact.magnitude x
  isFinite _ := true
  isNan _ := false
  nanoseconds := Exact.nanoseconds
  nan := 0
  infinity := 0
  plain x := toString x
  dump x := toString x
  wire x := toString x

def gripperCell : Cell Rat := Cell.new ⟨"cell", [], [.new "gripper" .cylinder 200]⟩ (.simulation (.ofMillis 10))

end Workcell

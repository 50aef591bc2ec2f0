/-!
Numbers of the cell: positions, speeds, readings, variables.

Everything above this module is written over a `Scalar`, so the same motion arithmetic runs on binary
floating point and can be reasoned about on exact fractions. Comparisons follow the type's own order; a
type with undefined numbers makes every comparison with one of them false.
-/

set_option autoImplicit false

namespace Workcell

class Scalar (R : Type) extends Add R, Sub R, Mul R, Div R, BEq R, LT R, LE R where
  decLt : DecidableLT R
  decLe : DecidableLE R
  ofNat : Nat → R
  ofDecimal : (negative : Bool) → (digits : Nat) → (exponent : Int) → R
  abs : R → R
  copySign : R → R → R
  isFinite : R → Bool
  isNan : R → Bool
  -- A time in seconds as whole nanoseconds, to the nearest, a half going to the even neighbour. Nothing for a
  -- negative or undefined time and for one of `2 ^ 64` seconds or more.
  nanoseconds : R → Option Nat
  nan : R
  infinity : R
  plain : R → String
  dump : R → String
  wire : R → String

namespace Scalar

variable {R : Type} [Scalar R]

instance : DecidableLT R := decLt

instance : DecidableLE R := decLe

def zero : R := ofNat 0

def one : R := ofNat 1

-- The opposite number; a zero keeps its magnitude and changes its sign.
def negate (x : R) : R := copySign (abs x) (if copySign one x < zero then one else ofDecimal true 1 0)

def seconds (nanos : Nat) : R :=
  ofNat (nanos / 1000000000) + ofNat (nanos % 1000000000) / ofNat 1000000000

-- The smaller of two numbers, the first when the second is undefined.
def lesser (x y : R) : R := if y < x then y else x

end Scalar

end Workcell

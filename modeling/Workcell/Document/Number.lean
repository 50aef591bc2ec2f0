import Workcell.Scalar

/-!
Numbers of wire texts.

The digits are gathered into a whole number of at most 64 bits, further digits are dropped, and one
multiplication or division by a power of ten puts the point in place. A value beyond the range is refused.
-/

set_option autoImplicit false

namespace Workcell.Document

structure Literal where
  negative : Bool
  whole : List Char
  fraction : Option (List Char)
  exponent : Option (Bool × List Char)
  deriving DecidableEq

def digitValue (c : Char) : Nat := c.toNat - '0'.toNat

def digitsValue (digits : List Char) : Nat :=
  digits.foldl (fun n c => 10 * n + digitValue c) 0

def isDigit (c : Char) : Bool := decide ('0' ≤ c ∧ c ≤ '9')

def gather : Nat → List Char → Nat × List Char
  | n, [] => (n, [])
  | n, c :: rest =>
      if 10 * n + digitValue c < Nat.pow 2 64 then gather (10 * n + digitValue c) rest else (n, c :: rest)

variable {R : Type} [Scalar R]

-- Divides by `10 ^ 308` until the rest of the exponent is within one power; the fuel bounds the divisions.
def scaleDown : Nat → R → Nat → R
  | 0, x, _ => x
  | fuel + 1, x, e =>
      if e ≤ 308 then x / Scalar.ofDecimal false 1 e
      else if x == Scalar.zero then x
      else scaleDown fuel (x / Scalar.ofDecimal false 1 308) (e - 308)

def scaled (significand : Nat) (e : Int) : Option R :=
  let x : R := Scalar.ofNat significand
  if 0 ≤ e then
    if e ≤ 308 then
      let y := x * Scalar.ofDecimal false 1 e
      if Scalar.isFinite y then some y else none
    else if x == Scalar.zero then some x else none
  else some (scaleDown (e.natAbs / 308 + 1) x e.natAbs)

def Literal.magnitude (l : Literal) : Option R :=
  let whole := gather 0 l.whole
  let fraction := gather whole.1 (l.fraction.getD [])
  let places : Int := (l.fraction.getD []).length - fraction.2.length
  let start : Int := whole.2.length - places
  match l.exponent with
  | none => scaled fraction.1 start
  | some (minus, digits) =>
      let e : Int := digitsValue digits
      if e < Int.pow 2 31 then scaled fraction.1 (if minus then start - e else start + e)
      else if fraction.1 = 0 ∨ minus then some Scalar.zero else none

def Literal.int? (l : Literal) : Option Int :=
  match l.fraction, l.exponent with
  | none, none =>
      let n := digitsValue l.whole
      if l.negative then (if n = 0 ∨ Nat.pow 2 63 < n then none else some (-n))
      else if n < Nat.pow 2 64 then some n else none
  | _, _ => none

def Literal.number? (l : Literal) : Option R :=
  l.magnitude.map fun x => if l.negative then Scalar.negate x else x

end Workcell.Document

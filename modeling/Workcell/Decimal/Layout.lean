import Workcell.Decimal.Shortest

/-!
Texts of decimal numbers.

A layout record fixes what differs between the texts of one number: up to which power of ten it is written
without an exponent, whether a whole number keeps a fraction, how exponents are signed, and the words for
numbers that are not finite.
-/

set_option autoImplicit false

namespace Workcell.Decimal

structure Layout where
  positional : Int → Bool
  wholeFraction : Bool
  plusSign : Bool
  nan : String
  infinity : String
  negativeInfinity : String

-- Shown to people: never an exponent, no fraction on whole numbers.
def Layout.plain : Layout :=
  ⟨fun _ => true, false, false, "NaN", "inf", "-inf"⟩

-- In structural dumps: an exponent from `10 ^ 16` up and below `10 ^ -4`.
def Layout.dump : Layout :=
  ⟨fun e => decide (-4 ≤ e ∧ e ≤ 15), true, false, "NaN", "inf", "-inf"⟩

-- In wire documents: an exponent from `10 ^ 16` up and below `10 ^ -5`; no word for other numbers.
def Layout.wire : Layout :=
  ⟨fun e => decide (-5 ≤ e ∧ e ≤ 15), true, true, "null", "null", "null"⟩

def digitChars (n : Nat) : List Char := Nat.toDigits 10 n

def splitPoint (digits : List Char) (exponent : Int) : List Char × List Char :=
  if 0 ≤ exponent then (digits ++ List.replicate exponent.toNat '0', [])
  else
    let places := (-exponent).toNat
    if places < digits.length then
      (digits.take (digits.length - places), digits.drop (digits.length - places))
    else (['0'], List.replicate (places - digits.length) '0' ++ digits)

def withFraction (layout : Layout) (whole fraction : List Char) : List Char :=
  match fraction with
  | [] => if layout.wholeFraction then whole ++ ['.', '0'] else whole
  | _ => whole ++ '.' :: fraction

def leading (d : Digits) : Int := (digitChars d.value).length - 1 + d.exponent

def exponentChars (layout : Layout) (e : Int) : List Char :=
  let sign := if e < 0 then ['-'] else if layout.plusSign then ['+'] else []
  'e' :: (sign ++ digitChars e.natAbs)

def Layout.digits (layout : Layout) (d : Digits) : List Char :=
  let chars := digitChars d.value
  if layout.positional (leading d) then
    let parts := splitPoint chars d.exponent
    withFraction layout parts.1 parts.2
  else
    let mantissa := match chars with
      | [] => []
      | [c] => [c]
      | c :: rest => c :: '.' :: rest
    mantissa ++ exponentChars layout (leading d)

def Layout.zero (layout : Layout) : List Char := withFraction layout ['0'] []

end Workcell.Decimal

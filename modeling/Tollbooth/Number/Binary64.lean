/-!
# Binary floating point in exact arithmetic

A finite 64-bit floating-point number is a sign and a magnitude `mantissa · 2 ^ exponent`.
Operations are exact on natural numbers and rounded once, to the nearest representable magnitude
and on a tie to the even mantissa, so that every result is a plain definition.
-/

set_option autoImplicit false

namespace Tollbooth

/-- A finite 64-bit floating-point number.  The mantissa has 53 bits, or fewer at the least
exponent. -/
structure Binary64 where
  negative : Bool
  mantissa : Nat
  exponent : Int
deriving DecidableEq, Inhabited

namespace Binary64

/-- The least exponent; numbers below `2 ^ (52 + minExponent)` have fewer bits. -/
def minExponent : Int := -1074

/-- The greatest exponent. -/
def maxExponent : Int := 971

/-- The highest bit of a full mantissa, which has 53 bits. -/
def hiddenBit : Nat := 0x10000000000000

/-- The quotient `num / (den * 2 ^ e)` rounded to the nearest integer, a tie to the even one. -/
def roundAt (num den : Nat) (e : Int) : Nat :=
  let n := if e < 0 then num * Nat.pow 2 (-e).toNat else num
  let d := if e < 0 then den else den * Nat.pow 2 e.toNat
  let q := n / d
  let r := n % d
  if 2 * r < d then q
  else if 2 * r > d then q + 1
  else if q % 2 = 0 then q else q + 1

/-- The exponent at which the quotient `num / den` has 53 bits, or the least exponent. -/
def exponentOf (num den : Nat) : Int :=
  let e : Int := (num.log2 : Int) - (den.log2 : Int) - 53
  let big := if e < 0 then num * Nat.pow 2 (-e).toNat ≥ den * (2 * hiddenBit)
    else num ≥ den * Nat.pow 2 (e.toNat + 53)
  max (if big then e + 1 else e) minExponent

/-- The magnitude nearest to `num / den`: mantissa and exponent, or nothing if it is too large. -/
def nearest? (num den : Nat) : Option (Nat × Int) :=
  if num = 0 then some (0, minExponent)
  else
    let e := exponentOf num den
    let m := roundAt num den e
    let (m, e) := if m = 2 * hiddenBit then (hiddenBit, e + 1) else (m, e)
    if e > maxExponent then none else some (m, e)

/-- The magnitude nearest to an integer. -/
def ofNat? (n : Nat) : Option (Nat × Int) := nearest? n 1

/-- A magnitude as a quotient of integers. -/
def quotient (m : Nat) (e : Int) : Nat × Nat :=
  if e < 0 then (m, Nat.pow 2 (-e).toNat) else (m * Nat.pow 2 e.toNat, 1)

/-- The rounded product of two magnitudes. -/
def mul? (x y : Nat × Int) : Option (Nat × Int) :=
  let (a, b) := quotient (x.1 * y.1) (x.2 + y.2)
  nearest? a b

/-- The rounded quotient of two magnitudes; the second is not zero. -/
def div? (x y : Nat × Int) : Option (Nat × Int) :=
  let (a, b) := quotient x.1 (x.2 - y.2)
  nearest? a (b * y.1)

end Binary64

end Tollbooth

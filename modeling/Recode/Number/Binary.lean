/-!
# Binary floating-point formats

A floating-point number is a whole number of units, the unit being a power of
two. A format limits how many bits the whole number may have and how small and
how large the unit may be. Everything here is exact arithmetic on such pairs;
the only approximation is `BinaryFormat.round`, which picks the number of the
format nearest to a fraction.

## Main definitions

* `Magnitude`: A whole number of units, the unit a power of two.
* `BinaryFormat`: The limits of a format; `single` and `double` are the two
  common ones.
* `roundHalfEven`: A quotient rounded to nearest, a half to the even neighbour.
* `BinaryFormat.round`: The number of the format nearest to a fraction.
* `BinaryFormat.overflows`: A rounded number lies beyond the format.
-/

namespace Recode

namespace Number

/-- The number `significand * 2 ^ exponent`. -/
structure Magnitude where
  significand : Nat
  exponent : Int
deriving DecidableEq, Repr

namespace Magnitude

/-- The numerator of a number written as a fraction of whole numbers. -/
def numerator (d : Magnitude) : Nat := d.significand <<< d.exponent.toNat

/-- The denominator of a number written as a fraction of whole numbers. -/
def denominator (d : Magnitude) : Nat := 1 <<< (-d.exponent).toNat

end Magnitude

/-- The limits of a binary floating-point format. -/
structure BinaryFormat where
  /-- How many bits a significand may have. -/
  precision : Nat
  /-- The least exponent a unit may have. -/
  least : Int
  /-- The greatest exponent a unit may have. -/
  greatest : Int

/-- The format of 32 bits. -/
def single : BinaryFormat := ⟨24, -149, 104⟩

/-- The format of 64 bits. -/
def double : BinaryFormat := ⟨53, -1074, 971⟩

/-- The quotient `num / den` rounded to the nearest whole number, a half to the
    even neighbour. -/
def roundHalfEven (num den : Nat) : Nat :=
  let q := num / den
  let r := num % den
  if den < 2 * r ∨ (2 * r = den ∧ q % 2 = 1) then q + 1 else q

namespace BinaryFormat

/-- The number of units in `num / den`, the unit being `2 ^ exponent`, rounded to
    a whole number. -/
def unitsOf (num den : Nat) (exponent : Int) : Nat :=
  roundHalfEven (num <<< (-exponent).toNat) (den <<< exponent.toNat)

/-- The exponent at which `num / den` has as many bits before the point as the
    format keeps. The lengths of numerator and denominator leave two choices,
    and one comparison settles which. -/
def unitExponent (f : BinaryFormat) (num den : Nat) : Int :=
  let guess : Int := (Nat.log2 num : Int) - Nat.log2 den - (f.precision - 1)
  let short := num <<< (-guess).toNat < den <<< guess.toNat <<< (f.precision - 1)
  max f.least (if short then guess - 1 else guess)

/-- The number of the format nearest to `num / den`, of two equally near the one
    with the even significand. Numbers beyond the format are left for
    `overflows` to find. -/
def round (f : BinaryFormat) (num den : Nat) : Magnitude :=
  if num = 0 then ⟨0, f.least⟩
  else
    let exponent := f.unitExponent num den
    let units := unitsOf num den exponent
    if units = 1 <<< f.precision then ⟨1 <<< (f.precision - 1), exponent + 1⟩
    else ⟨units, exponent⟩

/-- The number is too large for the format. -/
def overflows (f : BinaryFormat) (d : Magnitude) : Bool := f.greatest < d.exponent

/-- The product of two numbers, rounded. -/
def mul (f : BinaryFormat) (a b : Magnitude) : Magnitude :=
  f.round (a.numerator * b.numerator) (a.denominator * b.denominator)

/-- The quotient of two numbers, rounded. -/
def div (f : BinaryFormat) (a b : Magnitude) : Magnitude :=
  f.round (a.numerator * b.denominator) (a.denominator * b.numerator)

end BinaryFormat

end Number

end Recode

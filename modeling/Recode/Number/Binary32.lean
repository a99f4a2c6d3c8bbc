import Recode.Number.Layout

/-!
# Single-precision numbers

Frame rates are single-precision numbers and are kept as their bits, so that
two rates are equal exactly when every bit agrees and a rate survives being
copied whatever it is. Three operations are needed: a test for being positive,
rounding to a whole number, and the shortest decimal text.

Rounding to a 32-bit word sends halves away from zero and brings what does not
fit to the nearer end of the range; what is not a number goes to zero. Back
from a word to the nearest number, halves go to the even significand.

## Main definitions

* `Binary32`: A single-precision number, as bits.
* `Binary32.Kind`: What the bits stand for.
* `Binary32.isPositive`: Greater than zero.
* `Binary32.toWord`, `Binary32.ofWord`: To and from whole numbers.
* `Binary32.text`: The shortest decimal text.
-/

namespace Recode

/-- A single-precision number, as its 32 bits. -/
structure Binary32 where
  bits : UInt32
deriving DecidableEq, Repr

namespace Binary32

open Number

/-- What the bits of a number stand for, its sign aside. -/
inductive Kind where
  | notANumber
  | infinite
  | finite (size : Magnitude)
deriving DecidableEq, Repr

/-- The sign bit is set. -/
def isNegative (x : Binary32) : Bool := 0x80000000 ≤ x.bits

/-- Splits the bits below the sign into an exponent field of eight and a fraction
    of 23. A number with a non-zero exponent field has a leading one that is not
    stored; the largest field is kept for infinity and for what is no number. -/
def kind (x : Binary32) : Kind :=
  let field : Nat := x.bits.toNat / 0x800000 % 0x100
  let fraction := x.bits.toNat % 0x800000
  if field = 0xff then (if fraction = 0 then .infinite else .notANumber)
  else if field = 0 then .finite ⟨fraction, single.least⟩
  else .finite ⟨0x800000 + fraction, single.least + (field - 1)⟩

/-- Greater than zero. -/
def isPositive (x : Binary32) : Bool :=
  match x.kind with
  | .notANumber => false
  | .infinite => !x.isNegative
  | .finite d => !x.isNegative && d.significand != 0

/-- A magnitude rounded to a whole number, halves upwards. -/
def roundHalfUp (d : Magnitude) : Nat := (2 * d.numerator + d.denominator) / (2 * d.denominator)

/-- The nearest 32-bit word, halves away from zero. Negative numbers end at zero
    and so do halves below it; what is too large ends at the largest word. -/
def toWord (x : Binary32) : UInt32 :=
  match x.kind with
  | .notANumber => 0
  | .infinite => if x.isNegative then 0 else UInt32.ofNat (UInt32.size - 1)
  | .finite d =>
    if x.isNegative then 0 else UInt32.ofNat (min (roundHalfUp d) (UInt32.size - 1))

/-- The bits of a non-negative number of the format. -/
def ofMagnitude (d : Magnitude) : Binary32 :=
  if d.significand < 0x800000 then ⟨UInt32.ofNat d.significand⟩
  else
    ⟨UInt32.ofNat ((d.exponent - single.least + 1).toNat * 0x800000 + (d.significand - 0x800000))⟩

/-- The number nearest to a word, halves to the even significand. -/
def ofWord (n : UInt32) : Binary32 := ofMagnitude (single.round n.toNat 1)

/-- Rates are written without an exponent, and whole rates without a point. -/
def rateLayout : DecimalLayout := ⟨fun _ => true, false⟩

/-- The shortest decimal that reads back as the same number; of two equally near
    ones the larger. -/
def text (x : Binary32) : String :=
  match x.kind with
  | .notANumber => "NaN"
  | .infinite => if x.isNegative then "-inf" else "inf"
  | .finite d =>
    rateLayout.write x.isNegative
      (if d.significand = 0 then ⟨0, 0⟩ else (single.rangeOf d).shortest .up)

end Binary32

end Recode

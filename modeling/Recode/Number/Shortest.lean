import Recode.Number.Binary

/-!
# Shortest decimals

A floating-point number stands for every real that rounds to it, so it may be
written as any decimal among those reals. The shortest such decimal is the one
on the coarsest grid of powers of ten that has a point among them.

The search goes from coarse to fine. On each grid only the two neighbours of
the number itself need a look: if any point of the grid rounds to the number,
one of those two does. When both do, the nearer is taken, and a `TieRule`
decides between equally near ones.

## Main definitions

* `Decimal`: Whole digits at a power of ten.
* `TieRule`: Which of two equally near decimals is taken.
* `RoundingRange`: The reals that round to a number.
* `BinaryFormat.rangeOf`: That range for a number of a format.
* `RoundingRange.shortest`: The shortest decimal in the range.
-/

namespace Recode

namespace Number

/-- The number `digits * 10 ^ exponent`. -/
structure Decimal where
  digits : Nat
  exponent : Int
deriving DecidableEq, Repr

/-- Which of two equally near decimals is taken. -/
inductive TieRule where
  /-- The larger one. -/
  | up
  /-- The one with even digits. -/
  | toEven
deriving DecidableEq, Repr

/-- The reals that round to a number, as whole numbers of units of
    `2 ^ exponent`. -/
structure RoundingRange where
  /-- The lower end. -/
  low : Nat
  /-- The number itself. -/
  value : Nat
  /-- The upper end. -/
  high : Nat
  /-- The exponent of the unit. -/
  exponent : Int
  /-- The ends belong to the range. -/
  closed : Bool
deriving DecidableEq, Repr

/-- The reals that round to a positive number of the format, in quarters of its
    last place. The range reaches halfway to both neighbours; below the first
    number of a binade the neighbour is only half as far. A number exactly
    halfway rounds to the even significand, so the ends count for even ones. -/
def BinaryFormat.rangeOf (f : BinaryFormat) (d : Magnitude) : RoundingRange :=
  let narrow := d.significand = 1 <<< (f.precision - 1) ∧ f.least < d.exponent
  { low := 4 * d.significand - (if narrow then 1 else 2)
    value := 4 * d.significand
    high := 4 * d.significand + 2
    exponent := d.exponent - 2
    closed := d.significand % 2 = 0 }

namespace RoundingRange

/-- The decimal taken from the grid of multiples of `10 ^ grid`, if the grid has
    a point in the range. Both sides of every comparison are multiplied by the
    powers of two and ten that make them whole. -/
def onGrid? (r : RoundingRange) (tie : TieRule) (grid : Int) : Option Decimal :=
  let scale := Nat.pow 10 (-grid).toNat <<< r.exponent.toNat
  let step := Nat.pow 10 grid.toNat <<< (-r.exponent).toNat
  let inside (digits : Nat) : Bool :=
    if r.closed then r.low * scale ≤ digits * step && digits * step ≤ r.high * scale
    else r.low * scale < digits * step && digits * step < r.high * scale
  let below := r.value * scale / step
  let remainder := r.value * scale % step
  match inside below, inside (below + 1) with
  | false, false => none
  | true, false => some ⟨below, grid⟩
  | false, true => some ⟨below + 1, grid⟩
  | true, true =>
    if 2 * remainder < step then some ⟨below, grid⟩
    else if step < 2 * remainder then some ⟨below + 1, grid⟩
    else
      match tie with
      | .up => some ⟨below + 1, grid⟩
      | .toEven => some ⟨below + below % 2, grid⟩

/-- The shortest decimal in the range. The first grid is coarser than the range
    is high, because ten to a power exceeds two to the same power; the last one
    is so fine that the number lies on it. -/
def shortest (r : RoundingRange) (tie : TieRule) : Decimal :=
  let top : Nat := (Nat.log2 r.high + 1 + r.exponent).toNat
  let bottom : Nat := (-r.exponent).toNat
  ((List.range (top + bottom + 1)).findSome? fun (i : Nat) =>
    r.onGrid? tie ((top : Int) - i)).getD
    ⟨r.value <<< r.exponent.toNat * Nat.pow 5 bottom, -bottom⟩

end RoundingRange

end Number

end Recode

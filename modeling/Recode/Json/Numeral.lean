import Recode.Json.Failure
import Recode.Json.Token

/-!
# The value of a JSON number

A number without point and exponent is an integer as long as it fits 64 bits,
with a sign or without. Any other number is a real: its digits are gathered into
a significand of 64 bits, and what no longer fits only moves the point. The
significand is rounded to double precision and then scaled by a power of ten,
itself rounded, in one rounded multiplication or division.

Two roundings are one more than the nearest number would take, so the last place
may be off by one. What the scaling does with very large exponents is part of
the rule as well: a number too large is refused, one too small becomes zero, and
a zero stays zero whatever its exponent says.

## Main definitions

* `NumberValue`: An integer or a real.
* `Numeral.value`: The value of a number, unless it is too large.
-/

namespace Recode

namespace Json

open Number

/-- The value of a number. -/
inductive NumberValue where
  | integer (n : Int)
  | real (x : Real)
deriving DecidableEq, Repr

/-- The value, as a reader meets it in the wrong place. -/
def NumberValue.found : NumberValue → Found
  | integer n => .integer n
  | real x => .real x

/-- The value of a decimal digit. -/
def digitValue (c : Char) : Nat := c.toNat - '0'.toNat

/-- Appends digits to a significand for as long as it fits 64 bits, and counts
    the digits left over. From the first that does not fit, all are left over. -/
def appendDigits (significand : Nat) : List Char → Nat × Nat
  | [] => (significand, 0)
  | c :: rest =>
    let next := significand * 10 + digitValue c
    if next < UInt64.size then appendDigits next rest else (significand, rest.length + 1)

/-- The number that a row of digits writes. -/
def digitsValue (digits : List Char) : Nat :=
  digits.foldl (fun n c => n * 10 + digitValue c) 0

/-- The power of ten nearest to `10 ^ n`. -/
def powerOfTen (n : Nat) : Magnitude := double.round (Nat.pow 10 n) 1

/-- Scales a number by a power of ten. Powers up to 308 are numbers themselves and
    need one operation; a smaller number is divided by the largest of them for as
    long as something is left. -/
def scale (x : Magnitude) (exponent : Int) : Except Failure Magnitude :=
  if exponent.natAbs ≤ 308 then
    if 0 ≤ exponent then
      let product := double.mul x (powerOfTen exponent.natAbs)
      if double.overflows product then .error .numberOutOfRange else .ok product
    else .ok (double.div x (powerOfTen exponent.natAbs))
  else if x.significand = 0 then .ok x
  else if 0 ≤ exponent then .error .numberOutOfRange
  else scale (double.div x (powerOfTen 308)) (exponent + 308)
termination_by exponent.natAbs
decreasing_by omega

/-- A real from its significand and power of ten. -/
def realOf (negative : Bool) (significand : Nat) (exponent : Int) : Except Failure NumberValue := do
  return .real ⟨negative, ← scale (double.round significand 1) exponent⟩

/-- Exponents are words of 32 bits. -/
def clampExponent (n : Int) : Int := max Int32.minValue.toInt (min Int32.maxValue.toInt n)

namespace Numeral

/-- The value of a number without point and exponent whose digits fit 64 bits.
    A negative zero is not an integer, and neither is what a sign takes beyond
    63 bits. -/
def wholeValue (negative : Bool) (significand : Nat) : Except Failure NumberValue :=
  if !negative then .ok (.integer significand)
  else if 0 < significand ∧ Int64.minValue.toInt ≤ -significand then .ok (.integer (-significand))
  else realOf true significand 0

/-- The value of a number, unless it is too large. -/
def value (n : Numeral) : Except Failure NumberValue :=
  let (significand, dropped) := appendDigits 0 n.whole
  let (significand, exponent) : Nat × Int :=
    match n.fraction with
    | none => (significand, dropped)
    | some digits =>
      let (significand, left) := appendDigits significand digits
      (significand, (dropped : Int) - (digits.length - left : Nat))
  match n.exponent with
  | none =>
    if n.fraction.isNone ∧ dropped = 0 then wholeValue n.negative significand
    else realOf n.negative significand exponent
  | some (negative, digits) =>
    let size := digitsValue digits
    if size ≤ Int32.maxValue.toInt then
      realOf n.negative significand
        (clampExponent (if negative then exponent - size else exponent + size))
    else if significand = 0 ∨ negative then .ok (.real ⟨n.negative, ⟨0, double.least⟩⟩)
    else .error .numberOutOfRange

end Numeral

end Json

end Recode

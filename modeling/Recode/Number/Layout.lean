import Recode.Number.Shortest

/-!
# Writing decimals

How the digits of a decimal are laid out: with the point in its place, or with
one digit before the point and an exponent. Which layout is used for which size,
and whether a whole number still shows a point, is the choice of whoever writes;
a `DecimalLayout` records it.

## Main definitions

* `DecimalLayout`: The choices.
* `DecimalLayout.write`: Lays out a decimal.
-/

namespace Recode

namespace Number

/-- The choices in writing a decimal. -/
structure DecimalLayout where
  /-- Whether a number is written without an exponent, by the power of ten of its
      first digit. -/
  isPositional : Int → Bool
  /-- A whole number is written with `.0`. -/
  showsPoint : Bool

namespace DecimalLayout

/-- Digits with the point in its place; `exponent` is the power of ten of the
    last digit. -/
def positional (n : DecimalLayout) (digits : List Char) (exponent : Int) : List Char :=
  if 0 ≤ exponent then
    digits ++ List.replicate exponent.toNat '0' ++ (if n.showsPoint then ['.', '0'] else [])
  else
    let places := (-exponent).toNat
    if places < digits.length then
      digits.take (digits.length - places) ++ '.' :: digits.drop (digits.length - places)
    else
      '0' :: '.' :: List.replicate (places - digits.length) '0' ++ digits

/-- Digits with the point behind the first one, and the exponent of that digit
    with its sign, plus included. -/
def scientific (digits : List Char) (exponent : Int) : List Char :=
  let mantissa :=
    match digits with
    | first :: rest => if rest.isEmpty then [first] else first :: '.' :: rest
    | [] => []
  mantissa ++ 'e' :: (if exponent < 0 then '-' else '+') :: Nat.toDigits 10 exponent.natAbs

/-- Lays out a decimal, behind a minus sign if it is `negative`. The sign is
    shown for zero as well. -/
def write (n : DecimalLayout) (negative : Bool) (d : Decimal) : String :=
  let digits := Nat.toDigits 10 d.digits
  let leading : Int := d.exponent + digits.length - 1
  String.ofList ((if negative then ['-'] else [])
    ++ (if n.isPositional leading then n.positional digits d.exponent
        else scientific digits leading))

end DecimalLayout

end Number

end Recode

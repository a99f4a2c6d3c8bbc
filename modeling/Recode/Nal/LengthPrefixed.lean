import Recode.Nal.StartCode

/-!
# Length-prefixed NAL units

Container files store an access unit as a row of NAL units, each behind its
length in a fixed number of bytes, most significant byte first. The length size
is a property of the stream, from one to four bytes.

Reading keeps the leading complete units and gives up at the first length that
is zero or promises more bytes than are left: nothing behind such a length can
be trusted, while everything before it can.

## Main definitions

* `bigEndian`: The number written by a row of bytes.
* `lengthPrefixedUnits`: The leading complete units of a byte string.
* `annexBOfLengthPrefixed`: Those units, in Annex B form.

## Theorems

* `lengthPrefixedUnits_of_short`: A byte string too short for a length holds no
  unit.
* `lengthPrefixedUnits_cons`: A length and as many bytes are the first unit.
-/

namespace Recode

namespace Nal

/-- The number written by a row of bytes, most significant byte first. -/
def bigEndian (bytes : Bytes) : Nat :=
  bytes.foldl (fun n b => n * 256 + b.toNat) 0

/-- The length written by a row of bytes. Lengths are words of 64 bits, so of a
    wider field only the last eight bytes count. -/
def unitLength (field : Bytes) : Nat := bigEndian field % UInt64.size

/-- The leading complete units of `data`, each behind a length of `lengthSize`
    bytes. -/
def lengthPrefixedUnits (lengthSize : Nat) (data : Bytes) : List Bytes :=
  if data.length < lengthSize then []
  else
    let n := unitLength (data.take lengthSize)
    let rest := data.drop lengthSize
    if n = 0 ∨ rest.length < n then []
    else rest.take n :: lengthPrefixedUnits lengthSize (rest.drop n)
termination_by data.length
decreasing_by
  simp +zetaDelta only [List.length_drop] at *
  omega

/-- The leading complete units of `data`, in Annex B form. -/
def annexBOfLengthPrefixed (lengthSize : Nat) (data : Bytes) : Bytes :=
  frameUnits (lengthPrefixedUnits lengthSize data)

theorem lengthPrefixedUnits_of_short {lengthSize : Nat} {data : Bytes}
    (h : data.length < lengthSize) : lengthPrefixedUnits lengthSize data = [] := by
  rw [lengthPrefixedUnits, if_pos h]

theorem lengthPrefixedUnits_cons (field unit rest : Bytes)
    (hlen : unitLength field = unit.length) (hne : unit ≠ []) :
    lengthPrefixedUnits field.length (field ++ (unit ++ rest))
      = unit :: lengthPrefixedUnits field.length rest := by
  have hpos : 0 < unit.length := List.length_pos_iff.mpr hne
  rw [lengthPrefixedUnits, if_neg (by simp only [List.length_append]; omega)]
  simp only [List.take_left, List.drop_left, hlen]
  rw [if_neg (by simp only [List.length_append]; omega)]

end Nal

end Recode

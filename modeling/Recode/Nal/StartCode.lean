/-!
# Start codes

The Annex B form of a stream marks the beginning of every NAL unit with a start
code, the bytes `00 00 01` with or without one more zero in front. This module
finds start codes and reads off the header byte that follows each of them.

The long form is tried first: both forms fit at the position of a long start
code's second zero, but the longer one says where the unit really begins.

Scanning resumes on the header byte just reported rather than behind it. An
empty unit is followed at once by the next start code, so a header byte may
itself be the first zero of one.

## Main definitions

* `Bytes`: A byte string.
* `startCode`, `shortStartCode`: The two forms of the start code.
* `startCodeLength`: The length of the start code a byte string begins with.
* `unitHeaders`: The header bytes of the NAL units of a byte string.
* `frameUnits`: NAL units written one after the other in Annex B form.

## Theorems

* `startCodeLength_le`: A start code lies inside the byte string.
* `startCodeLength_startCode_append`: What begins with the long form has length
  four.
-/

namespace Recode

/-- A byte string. -/
abbrev Bytes := List UInt8

namespace Nal

/-- The long form of the start code, the one this library writes. -/
def startCode : Bytes := [0, 0, 0, 1]

/-- The short form of the start code. -/
def shortStartCode : Bytes := [0, 0, 1]

/-- The length of the start code at the front of `data`; zero if there is
    none. -/
def startCodeLength (data : Bytes) : Nat :=
  if startCode.isPrefixOf data then 4
  else if shortStartCode.isPrefixOf data then 3
  else 0

/-- The byte string is in Annex B form: it begins with a start code. -/
def isAnnexB (data : Bytes) : Bool := startCodeLength data != 0

/-- The bytes that directly follow the start codes of `data`, in order. -/
def headersAfterStartCodes (data : Bytes) : Bytes :=
  match data with
  | [] => []
  | b :: rest =>
    match startCodeLength (b :: rest) with
    | 0 => headersAfterStartCodes rest
    | n + 1 => (rest.drop n).head?.toList ++ headersAfterStartCodes (rest.drop n)
termination_by data.length
decreasing_by all_goals simp only [List.length_cons, List.length_drop]; omega

/-- The header byte of every NAL unit in `data`. A byte string that does not
    begin with a start code is a single unit, whatever follows. -/
def unitHeaders (data : Bytes) : Bytes :=
  if isAnnexB data then headersAfterStartCodes data else data.head?.toList

/-- Units in Annex B form: each behind a long start code. -/
def frameUnits (units : List Bytes) : Bytes := units.flatMap (startCode ++ ·)

theorem startCodeLength_le (data : Bytes) : startCodeLength data ≤ data.length := by
  unfold startCodeLength
  split
  · next h => exact (List.isPrefixOf_iff_prefix.mp h).length_le
  · split
    · next h => exact (List.isPrefixOf_iff_prefix.mp h).length_le
    · exact Nat.zero_le _

@[simp] theorem startCodeLength_startCode_append (data : Bytes) :
    startCodeLength (startCode ++ data) = 4 := by
  rw [startCodeLength, if_pos (List.isPrefixOf_iff_prefix.mpr (List.prefix_append _ _))]

@[simp] theorem frameUnits_nil : frameUnits [] = [] := rfl

@[simp] theorem frameUnits_cons (u : Bytes) (us : List Bytes) :
    frameUnits (u :: us) = startCode ++ u ++ frameUnits us := by
  simp only [frameUnits, List.flatMap_cons]

@[simp] theorem frameUnits_append (us vs : List Bytes) :
    frameUnits (us ++ vs) = frameUnits us ++ frameUnits vs := by
  simp only [frameUnits, List.flatMap_append]

end Nal

end Recode

import Recode.Codec
import Recode.Nal.ConfigurationRecord

/-!
# Reframing a stream in Annex B

Stages of the pipeline exchange H.264 and H.265 in Annex B form. A stream read
from a container file is length-prefixed instead, which its extra data give
away: they are a configuration record. The filter made from them reframes every
access unit and puts the parameter sets in front of key frames, so that a
decoder can start at any of them.

A stream whose extra data are no record of its codec needs no reframing, and
its filter passes everything through. So does an active filter for an access
unit that already begins with a start code, since some writers store Annex B
data next to a record.

## Main definitions

* `AnnexBFilter`: The reframing that a stream needs, if any.
* `AnnexBFilter.ofExtraData`: The filter of a stream.
* `AnnexBFilter.apply`: Reframes one access unit.

## Theorems

* `AnnexBFilter.apply_of_inactive`: An inactive filter changes nothing.
* `AnnexBFilter.apply_of_isAnnexB`: What is in Annex B form stays as it is.
-/

namespace Recode

open Nal

/-- The reframing that a stream needs: none, or the one that its configuration
    record describes. -/
structure AnnexBFilter where
  /-- The stream's configuration record, if it carries one. -/
  record : Option ConfigurationRecord
deriving DecidableEq, Repr

namespace AnnexBFilter

/-- The filter of a stream with the given codec and extra data. Extra data in
    Annex B form are parameter sets ready for use and no record. -/
def ofExtraData (codec : Codec) (extraData : Option Bytes) : AnnexBFilter :=
  match extraData with
  | none => ⟨none⟩
  | some data =>
    if isAnnexB data then ⟨none⟩
    else
      match codec with
      | .h264 => ⟨ConfigurationRecord.ofAvcc? data⟩
      | .h265 => ⟨ConfigurationRecord.ofHvcc? data⟩
      | _ => ⟨none⟩

/-- The filter reframes length-prefixed access units. -/
def isActive (f : AnnexBFilter) : Bool := f.record.isSome

/-- The parameter sets in Annex B form, for the extra data of the reframed
    stream. -/
def parameterSets (f : AnnexBFilter) : Option Bytes :=
  f.record.map fun r => frameUnits r.parameterSets

/-- Reframes one access unit; `key` tells whether it is a key frame. -/
def apply (f : AnnexBFilter) (data : Bytes) (key : Bool) : Bytes :=
  match f.record with
  | none => data
  | some record =>
    if isAnnexB data then data
    else
      (if key then frameUnits record.parameterSets else [])
        ++ annexBOfLengthPrefixed record.lengthSize data

theorem apply_of_inactive {f : AnnexBFilter} (h : f.isActive = false) (data : Bytes)
    (key : Bool) : f.apply data key = data := by
  rcases f with ⟨_ | record⟩
  · rfl
  · exact absurd h (by simp only [isActive, Option.isSome_some, Bool.true_eq_false,
      not_false_eq_true])

theorem apply_of_isAnnexB (f : AnnexBFilter) {data : Bytes} (h : isAnnexB data = true)
    (key : Bool) : f.apply data key = data := by
  rcases f with ⟨_ | record⟩
  · rfl
  · simp only [apply, h, if_true]

end AnnexBFilter

end Recode

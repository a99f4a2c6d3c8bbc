import Recode.Codec
import Recode.Nal.StartCode

/-!
# Encoded frames

An access unit is what an encoder emits for one picture or one block of samples.
What the pipeline needs to know about its payload is read off the bytes by the
rules of its codec: how long a prefix stands in front of the payload, whether a
decoder can start here, and whether it holds parameter sets.

For H.264 and H.265 the answer lies in the header bytes of the NAL units. A unit
opens with parameter sets exactly when its first NAL unit is one, while a single
random-access picture anywhere makes it a key frame. For sound every unit is a
key frame, and only AAC may carry a prefix, the ADTS header.

## Main definitions

* `Traits`: What is known about a payload.
* `Codec.classify`: Reads the traits off a payload.
* `AccessUnit`: An encoded frame.
* `AccessUnit.text`: A description for people.
-/

namespace Recode

/-- What is known about the payload of an encoded frame. -/
structure Traits where
  /-- The length of the start code or ADTS header in front of the payload. -/
  prefixSize : Nat
  /-- A decoder can start here. -/
  key : Bool
  /-- The payload opens with parameter sets. -/
  config : Bool
deriving DecidableEq, Repr

namespace Nal

/-- The unit type in an H.264 header byte. -/
def h264UnitType (header : UInt8) : UInt8 := header &&& 0x1f

/-- The unit type in the first header byte of an H.265 unit. -/
def h265UnitType (header : UInt8) : UInt8 := (header >>> 1) &&& 0x3f

/-- H.264: a sequence or picture parameter set. -/
def isH264ParameterSet (header : UInt8) : Bool :=
  h264UnitType header == 7 || h264UnitType header == 8

/-- H.264: a slice of a picture at which decoding can start. -/
def isH264Key (header : UInt8) : Bool := h264UnitType header == 5

/-- H.265: a video, sequence or picture parameter set. -/
def isH265ParameterSet (header : UInt8) : Bool :=
  32 ≤ h265UnitType header && h265UnitType header ≤ 34

/-- H.265: a slice of a picture at which decoding can start. -/
def isH265Key (header : UInt8) : Bool :=
  16 ≤ h265UnitType header && h265UnitType header ≤ 21

/-- The traits of a payload of NAL units, given what makes a header one of a
    parameter set and one of a key frame. -/
def classify (isParameterSet isKey : UInt8 → Bool) (data : Bytes) : Traits :=
  { prefixSize := startCodeLength data
    key := (unitHeaders data).any isKey
    config := (unitHeaders data).head?.any isParameterSet }

end Nal

/-- The length of the ADTS header in front of an AAC payload, zero if there is
    none. The header begins with twelve set bits and takes seven bytes, or nine
    when its protection bit says that a checksum follows. -/
def adtsHeaderLength (data : Bytes) : Nat :=
  match data with
  | first :: second :: _ =>
    if 7 ≤ data.length ∧ first = 0xff ∧ second &&& 0xf0 = 0xf0 then
      if second &&& 0x01 = 0 then 9 else 7
    else 0
  | _ => 0

/-- Reads the traits of a payload by the rules of its codec. -/
def Codec.classify (codec : Codec) (data : Bytes) : Traits :=
  match codec with
  | .h264 => Nal.classify Nal.isH264ParameterSet Nal.isH264Key data
  | .h265 => Nal.classify Nal.isH265ParameterSet Nal.isH265Key data
  | .aac => { prefixSize := adtsHeaderLength data, key := true, config := false }
  | .g711a | .g711u | .opus => { prefixSize := 0, key := true, config := false }

/-- An encoded frame with its decoding and presentation times. -/
structure AccessUnit where
  codec : Codec
  dts : Int64
  pts : Int64
  data : Bytes
deriving DecidableEq, Repr

namespace AccessUnit

/-- The kind of stream the frame belongs to. -/
def trackType (u : AccessUnit) : TrackType := u.codec.trackType

/-- What is known about the payload. -/
def traits (u : AccessUnit) : Traits := u.codec.classify u.data

/-- The length of the payload in bytes. -/
def size (u : AccessUnit) : Nat := u.data.length

/-- A description for people. -/
def text (u : AccessUnit) : String :=
  "Frame codec: " ++ u.codec.name ++ ", dts: " ++ toString u.dts.toInt
    ++ ", pts: " ++ toString u.pts.toInt ++ ", size: " ++ toString u.size
    ++ ", key: " ++ toString u.traits.key ++ ", config: " ++ toString u.traits.config

end AccessUnit

end Recode

import Recode.Codec
import Recode.Nal.StartCode
import Recode.Number.Binary32

/-!
# Tracks

The description of one elementary stream, as its source announces it. Geometry
and sample layout are hints and zero means unknown, so a track may be described
by its codec alone.

## Main definitions

* `Track`: The description of a stream.
* `Track.video`, `Track.audio`: Descriptions that give only what their kind of
  stream has.
* `Track.text`: A description for people.
-/

namespace Recode

/-- The description of one elementary stream. -/
structure Track where
  codec : Codec
  width : UInt32 := 0
  height : UInt32 := 0
  /-- Pictures per second. -/
  rate : Binary32 := ⟨0⟩
  sampleRate : UInt32 := 0
  channels : UInt32 := 0
  /-- The codec's configuration, in the form its container keeps it. -/
  extraData : Option Bytes := none
deriving DecidableEq, Repr

namespace Track

/-- A stream of pictures. -/
def video (codec : Codec) (width height : UInt32) (rate : Binary32) : Track :=
  { codec, width, height, rate }

/-- A stream of sound. -/
def audio (codec : Codec) (sampleRate channels : UInt32) : Track :=
  { codec, sampleRate, channels }

/-- The kind of stream. -/
def trackType (t : Track) : TrackType := t.codec.trackType

/-- A description for people: geometry and rate, or sample rate and channels. -/
def text (t : Track) : String :=
  "Track \x7b codec: " ++ t.codec.name ++ ", "
    ++ (match t.trackType with
        | .video =>
          toString t.width.toNat ++ "x" ++ toString t.height.toNat ++ " @ " ++ t.rate.text ++ " fps"
        | .audio => toString t.sampleRate.toNat ++ " Hz, " ++ toString t.channels.toNat ++ " ch")
    ++ " \x7d"

end Track

end Recode

import Recode.Json.Names
import Recode.Json.Record
import Recode.Json.Writer
import Recode.Media.Track

/-!
# Encoder settings

The parameters an encoder is opened with, fixed for as long as it lives. Each
codec has defaults of its own; a video encoder takes the geometry of its source
instead, as far as the source states it.

Geometry is taken over as a whole. A source that leaves out width or height says
nothing usable about either, and its rate is then ignored as well.

Settings have a JSON form in which every field but the profile is required.

## Main definitions

* `Settings`: The parameters of an encoder.
* `Settings.ofCodec`: The defaults of a codec.
* `Settings.ofTrack`: The settings to bring a track to a codec.
* `Settings.toTrack`: The track that an encoder with these settings produces.
* `Settings.members`: The fields as they are written.
* `Settings.toJson`, `Settings.ofJson`: The JSON form.

## Theorems

* `Settings.ofTrack_codec`: The settings are for the codec asked for.
* `Settings.toTrack_codec`: The track produced is in the codec of the settings.
-/

namespace Recode

/-- The parameters of an encoder. -/
structure Settings where
  codec : Codec
  width : UInt32
  height : UInt32
  /-- Pictures per second. -/
  frameRate : UInt32
  /-- The distance between key frames, in pictures. -/
  gopSize : UInt32
  maxBFrames : UInt32
  /-- Bits per second. -/
  bitRate : UInt64
  /-- The unit of time stamps in seconds, as numerator and denominator. -/
  timeBase : Int32 × Int32
  pixelFormat : PixelFormat
  sampleFormat : SampleFormat
  sampleRate : UInt32
  channels : UInt32
  profile : Option String
deriving DecidableEq, Repr

namespace Settings

/-- The defaults of all video codecs. -/
def videoDefaults (codec : Codec) : Settings :=
  { codec
    width := 1280
    height := 720
    frameRate := 25
    gopSize := 50
    maxBFrames := 0
    bitRate := 2000000
    timeBase := (1, 1000)
    pixelFormat := .preferred
    sampleFormat := .s16
    sampleRate := 0
    channels := 0
    profile := none }

/-- The defaults of an audio codec: a sample is the unit of time, and everything
    that concerns pictures is zero. -/
def audioDefaults (codec : Codec) (sampleFormat : SampleFormat) (sampleRate : UInt32)
    (channels : UInt32) : Settings :=
  { videoDefaults codec with
    width := 0
    height := 0
    frameRate := 0
    gopSize := 0
    bitRate := 64000
    timeBase := (1, Int32.ofNat sampleRate.toNat)
    sampleFormat
    sampleRate
    channels }

/-- The defaults of a codec. -/
def ofCodec : Codec → Settings
  | .h264 => videoDefaults .h264
  | .h265 => videoDefaults .h265
  | .aac => audioDefaults .aac .fltp 44100 2
  | .g711a => audioDefaults .g711a .s16 8000 1
  | .g711u => audioDefaults .g711u .s16 8000 1
  | .opus => audioDefaults .opus .fltp 48000 2

/-- The settings that are used where none are given. -/
def default : Settings := ofCodec .h264

/-- The settings to bring `source` to `codec`: its defaults, with the geometry of
    the source where that is known. -/
def ofTrack (codec : Codec) (source : Track) : Settings :=
  let settings := ofCodec codec
  if codec.isVideo ∧ 0 < source.width ∧ 0 < source.height then
    { settings with
      width := source.width
      height := source.height
      frameRate := if source.rate.isPositive then source.rate.toWord else settings.frameRate }
  else settings

/-- The kind of stream an encoder with these settings produces. -/
def trackType (s : Settings) : TrackType := s.codec.trackType

/-- The track that an encoder with these settings produces. -/
def toTrack (s : Settings) : Track :=
  match s.trackType with
  | .video => Track.video s.codec s.width s.height (Binary32.ofWord s.frameRate)
  | .audio => Track.audio s.codec s.sampleRate s.channels

@[simp] theorem ofCodec_codec (codec : Codec) : (ofCodec codec).codec = codec := by
  cases codec <;> rfl

@[simp] theorem ofTrack_codec (codec : Codec) (source : Track) :
    (ofTrack codec source).codec = codec := by
  unfold ofTrack
  split <;> simp only [ofCodec_codec]

@[simp] theorem toTrack_codec (s : Settings) : s.toTrack.codec = s.codec := by
  unfold toTrack
  split <;> rfl

open Json

/-- The fields of settings that have been read. -/
structure Draft where
  codec : Option Codec := none
  width : Option UInt32 := none
  height : Option UInt32 := none
  frameRate : Option UInt32 := none
  gopSize : Option UInt32 := none
  maxBFrames : Option UInt32 := none
  bitRate : Option UInt64 := none
  timeBase : Option (Int32 × Int32) := none
  pixelFormat : Option PixelFormat := none
  sampleFormat : Option SampleFormat := none
  sampleRate : Option UInt32 := none
  channels : Option UInt32 := none
  profile : Option (Option String) := none
deriving DecidableEq, Repr

/-- The settings of a draft. Only the profile may be missing. -/
def ofDraft (d : Draft) : Except Failure Settings := do
  let codec ← required "codec" d.codec
  let width ← required "width" d.width
  let height ← required "height" d.height
  let frameRate ← required "frame_rate" d.frameRate
  let gopSize ← required "gop_size" d.gopSize
  let maxBFrames ← required "max_b_frames" d.maxBFrames
  let bitRate ← required "bit_rate" d.bitRate
  let timeBase ← required "time_base" d.timeBase
  let pixelFormat ← required "pixel_format" d.pixelFormat
  let sampleFormat ← required "sample_format" d.sampleFormat
  let sampleRate ← required "sample_rate" d.sampleRate
  let channels ← required "channels" d.channels
  return { codec, width, height, frameRate, gopSize, maxBFrames, bitRate, timeBase, pixelFormat,
           sampleFormat, sampleRate, channels, profile := d.profile.getD none }

/-- How a unit of time is named to whoever wrote something else. -/
def timeBaseExpected : String := "a tuple of size 2"

/-- The two numbers of a unit of time, in the order in which a list gives them. -/
def timeBaseFields : List (RecordField (Option Int32 × Option Int32)) :=
  [.ofReader "numerator" Prod.fst (fun d v => (some v, d.2)) readInt32,
    .ofReader "denominator" Prod.snd (fun d v => (d.1, some v)) readInt32]

/-- Reads a unit of time: a list of exactly two integers. -/
def readTimeBase : Reader (Int32 × Int32)
  | [] => .error .endInValue
  | .openBracket :: rest => do
    let taken ← readElements (fun n => some (.invalidLength n timeBaseExpected)) timeBaseFields 0
      (none, none) rest
    return (taken.map fun d => (d.1.getD 0, d.2.getD 0)).ofTail (Token.length_rest_le _ rest)
  | token :: _ => .error (token.mismatch timeBaseExpected)

/-- How settings are read. -/
def shape : RecordShape Draft Settings :=
  { expected := "struct EncoderSettings"
    fields :=
      [.ofReader "codec" Draft.codec (fun d v => { d with codec := some v }) readCodec,
        .ofReader "width" Draft.width (fun d v => { d with width := some v }) readUInt32,
        .ofReader "height" Draft.height (fun d v => { d with height := some v }) readUInt32,
        .ofReader "frame_rate" Draft.frameRate
          (fun d v => { d with frameRate := some v }) readUInt32,
        .ofReader "gop_size" Draft.gopSize (fun d v => { d with gopSize := some v }) readUInt32,
        .ofReader "max_b_frames" Draft.maxBFrames
          (fun d v => { d with maxBFrames := some v }) readUInt32,
        .ofReader "bit_rate" Draft.bitRate (fun d v => { d with bitRate := some v }) readUInt64,
        .ofReader "time_base" Draft.timeBase
          (fun d v => { d with timeBase := some v }) readTimeBase,
        .ofReader "pixel_format" Draft.pixelFormat
          (fun d v => { d with pixelFormat := some v }) readPixelFormat,
        .ofReader "sample_format" Draft.sampleFormat
          (fun d v => { d with sampleFormat := some v }) readSampleFormat,
        .ofReader "sample_rate" Draft.sampleRate
          (fun d v => { d with sampleRate := some v }) readUInt32,
        .ofReader "channels" Draft.channels (fun d v => { d with channels := some v }) readUInt32,
        .ofReader "profile" Draft.profile (fun d v => { d with profile := some v })
          (readOptional (readText "a string"))]
    empty := {}
    short := fun n => some (.invalidLength n "struct EncoderSettings with 13 elements")
    finish := ofDraft }

/-- Reads settings. -/
def ofJson (text : String) : Except Failure Settings := shape.read.parse text

/-- The fields of settings as they are written, in the order of declaration. -/
def members (s : Settings) : List (String × List Char) :=
  [("codec", writeString s.codec.name),
    ("width", writeInteger s.width.toNat),
    ("height", writeInteger s.height.toNat),
    ("frame_rate", writeInteger s.frameRate.toNat),
    ("gop_size", writeInteger s.gopSize.toNat),
    ("max_b_frames", writeInteger s.maxBFrames.toNat),
    ("bit_rate", writeInteger s.bitRate.toNat),
    ("time_base", writeList [writeInteger s.timeBase.1.toInt, writeInteger s.timeBase.2.toInt]),
    ("pixel_format", writeString s.pixelFormat.name),
    ("sample_format", writeString s.sampleFormat.name),
    ("sample_rate", writeInteger s.sampleRate.toNat),
    ("channels", writeInteger s.channels.toNat),
    ("profile", (s.profile.map writeString).getD writeNull)]

/-- Writes settings. -/
def toJson (s : Settings) : String := String.ofList (writeObject s.members)

end Settings

end Recode

import Recode.Codec
import Recode.Media.PixelFormat
import Recode.Media.SampleFormat

/-!
# Decoded frames

A picture is a decoded image or block of samples: a header that the pipeline
reads and a store that only the engine understands. A raw frame is a picture
together with the codec it was decoded from, if it was decoded at all.

The track type of a frame follows its codec. Only a frame of unknown origin is
judged by its header, and then it is a video frame exactly when it names a pixel
format.

## Main definitions

* `Picture`: A decoded image or block of samples.
* `Picture.blank`: The header of a picture that holds nothing.
* `RawFrame`: A picture and where it came from.
* `RawFrame.trackType`: The kind of stream a frame belongs to.
* `RawFrame.text`: A description for people.
-/

namespace Recode

/-- A decoded image or block of samples. -/
structure Picture (Store : Type) where
  /-- Absent for sound. -/
  pixel : Option PixelFormat
  /-- Absent for images. -/
  sample : Option SampleFormat
  width : UInt32
  height : UInt32
  sampleRate : UInt32
  channels : UInt32
  /-- The number of samples per channel. -/
  samples : UInt64
  pts : Option Int64
  dts : Option Int64
  /-- The engine's own part. -/
  store : Store
deriving DecidableEq, Repr

/-- A picture that holds nothing, around the given store. -/
def Picture.blank {Store : Type} (store : Store) : Picture Store :=
  { pixel := none, sample := none, width := 0, height := 0, sampleRate := 0, channels := 0
    samples := 0, pts := none, dts := none, store }

/-- The same header around another store. -/
def Picture.withStore {Store Other : Type} (p : Picture Store) (store : Other) : Picture Other :=
  { pixel := p.pixel, sample := p.sample, width := p.width, height := p.height
    sampleRate := p.sampleRate, channels := p.channels, samples := p.samples
    pts := p.pts, dts := p.dts, store }

/-- A picture and the codec it was decoded from. -/
structure RawFrame (Store : Type) where
  picture : Picture Store
  source : Option Codec
deriving DecidableEq, Repr

namespace RawFrame

variable {Store : Type}

/-- The kind of stream a frame belongs to. -/
def trackType (f : RawFrame Store) : TrackType :=
  match f.source with
  | some codec => codec.trackType
  | none => if f.picture.pixel.isSome then .video else .audio

/-- How an optional value is spelled in descriptions. -/
def optional : Option String → String
  | some s => "Some(" ++ s ++ ")"
  | none => "None"

/-- A description for people. -/
def text (f : RawFrame Store) : String :=
  let p := f.picture
  (match f.trackType with
    | .video =>
      "RawFrame video " ++ optional (p.pixel.map PixelFormat.label) ++ " "
        ++ toString p.width.toNat ++ "x" ++ toString p.height.toNat
    | .audio =>
      "RawFrame audio " ++ optional (p.sample.map SampleFormat.label) ++ " "
        ++ toString p.sampleRate.toNat ++ " Hz x " ++ toString p.channels.toNat
        ++ " ch, samples: " ++ toString p.samples.toNat)
    ++ ", pts: " ++ optional (p.pts.map fun t => toString t.toInt)

end RawFrame

end Recode

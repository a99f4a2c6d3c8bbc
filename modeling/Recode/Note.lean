import Recode.Fault
import Recode.Media.AccessUnit
import Recode.Media.Geometry
import Recode.Media.Track

/-!
# Notes

What the pipeline tells about its work while it goes on: which implementation
was taken, what was dropped and why. Notes have no effect on anything. They are
kept as values and put into words only for whoever prints them.

## Main definitions

* `Level`: How grave a note is.
* `Note`: Something worth telling.
* `Note.level`, `Note.text`: Its gravity and its words.
* `Note.line`: The line that is printed.
-/

namespace Recode

/-- How grave a note is. -/
inductive Level where
  | error
  | warn
  | info
  | debug
deriving DecidableEq, Repr

/-- The level at the front of a printed line. -/
def Level.label : Level → String
  | error => "ERROR"
  | warn => "WARN"
  | info => "INFO"
  | debug => "DEBUG"

/-- Something worth telling. -/
inductive Note where
  /-- An implementation was opened and is taken. -/
  | opened (codec : Codec) (implementation : String)
  /-- An implementation could not be opened; the next one is tried. -/
  | openFailed (codec : Codec) (implementation : String) (cause : Cause)
  /-- An encoded frame could not be decoded and is dropped. -/
  | decodeFailed (codec : Codec) (cause : Cause) (dts : Int64) (size : Nat)
  /-- Draining a decoder ended early. -/
  | decoderFlushFailed (codec : Codec) (cause : Cause)
  /-- Pictures of another geometry came in. -/
  | geometryChanged (before after : Geometry)
  /-- A conversion was set up. -/
  | converterReady (geometry : Geometry) (target : PixelFormat)
  /-- A conversion could not be set up; pictures pass as they are. -/
  | converterRefused (geometry : Geometry) (target : PixelFormat) (cause : Cause)
  /-- One picture could not be converted and passes as it is. -/
  | convertFailed (source target : PixelFormat) (cause : Cause)
  /-- The first picture settled the format that an encoder is fed. -/
  | formatNegotiated (codec : Codec) (incoming target : PixelFormat)
  /-- A video frame without a pixel format is dropped. -/
  | formatMissing (codec : Codec) (width height : UInt32)
  /-- A frame could not be encoded and is dropped. -/
  | encodeFailed (codec : Codec) (cause : Cause)
  /-- Draining an encoder ended early. -/
  | encoderFlushFailed (codec : Codec) (cause : Cause)
  /-- A track is in the target codec already. -/
  | trackForwarded (track : Track)
  /-- A track is decoded and encoded again. -/
  | trackTranscoded (trackType : TrackType) (source target : Codec) (decoder encoder : String)
  /-- What was buffered for a track has been drained. -/
  | trackFlushed (trackType : TrackType) (source : Codec)
  /-- A frame came whose track was never added. -/
  | trackMissing (codec target : Codec)
  /-- A sink that only takes notes was told of a track. -/
  | trackAnnounced (track : Track)
  /-- A sink that only takes notes got a frame. -/
  | frameReceived (unit : AccessUnit)
  /-- A sink that only takes notes was told that no more tracks follow. -/
  | tracksCompleted
  /-- A sink that only takes notes was told to forget its tracks. -/
  | tracksReset
deriving DecidableEq, Repr

namespace Note

/-- How grave a note is. -/
def level : Note → Level
  | trackMissing .. => .error
  | openFailed .. | decodeFailed .. | decoderFlushFailed .. | converterRefused ..
  | convertFailed .. | formatMissing .. | encodeFailed .. | encoderFlushFailed .. => .warn
  | opened .. | geometryChanged .. | trackForwarded .. | trackTranscoded .. | trackFlushed ..
  | trackAnnounced .. | tracksCompleted | tracksReset => .info
  | converterReady .. | formatNegotiated .. | frameReceived .. => .debug

/-- A note in words. -/
def text : Note → String
  | opened codec implementation =>
    codec.name ++ " opened with implementation: " ++ implementation
  | openFailed codec implementation cause =>
    codec.name ++ " implementation " ++ implementation ++ " failed to open: " ++ cause.text
      ++ ", trying next"
  | decodeFailed codec cause dts size =>
    codec.name ++ " decode failed: " ++ cause.text ++ ", dropping frame dts: "
      ++ toString dts.toInt ++ ", size: " ++ toString size
  | decoderFlushFailed codec cause => codec.name ++ " decoder flush failed: " ++ cause.text
  | geometryChanged before after =>
    "converter input changed from " ++ before.format.label ++ " " ++ before.size ++ " to "
      ++ after.format.label ++ " " ++ after.size ++ ", rebuilding"
  | converterReady geometry target =>
    "converter ready: " ++ geometry.format.label ++ " -> " ++ target.label ++ " at "
      ++ geometry.size
  | converterRefused geometry target cause =>
    "cannot convert " ++ geometry.format.label ++ " -> " ++ target.label ++ " at "
      ++ geometry.size ++ ": " ++ cause.text ++ ", frames pass through"
  | convertFailed source target cause =>
    "convert " ++ source.label ++ " -> " ++ target.label ++ " failed: " ++ cause.text
      ++ ", passing frame through"
  | formatNegotiated codec incoming target =>
    codec.name ++ " encoder input format " ++ incoming.label ++ ", negotiated " ++ target.label
  | formatMissing codec width height =>
    codec.name ++ " encoder got a " ++ sizeText width height
      ++ " frame in a pixel format it cannot negotiate, frame dropped"
  | encodeFailed codec cause =>
    codec.name ++ " encode failed: " ++ cause.text ++ ", frame dropped"
  | encoderFlushFailed codec cause => codec.name ++ " encoder flush failed: " ++ cause.text
  | trackForwarded track => track.text ++ " forwarded as-is"
  | trackTranscoded trackType source target decoder encoder =>
    trackType.name ++ " track " ++ source.name ++ " -> " ++ target.name ++ " (" ++ decoder
      ++ " -> " ++ encoder ++ ")"
  | trackFlushed trackType source => trackType.name ++ " track " ++ source.name ++ " flushed"
  | trackMissing codec target =>
    codec.name ++ " frame needs transcoding to " ++ target.name ++ " but no such track was added"
  | trackAnnounced track => "add track: " ++ track.text
  | frameReceived unit => "frame: " ++ unit.text
  | tracksCompleted => "all tracks added"
  | tracksReset => "tracks reset"

/-- The line that is printed. -/
def line (n : Note) : String := n.level.label ++ " " ++ n.text

end Note

end Recode

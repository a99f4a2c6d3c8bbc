import Recode.Fault
import Recode.Json.Names
import Recode.Json.Record
import Recode.Json.Writer

/-!
# Configuration

A pipeline is configured once: the codec that every track of a kind is brought
to, and how many idle pictures each stage keeps. A configuration is read from a
JSON record whose fields may all be left out, and it is usable if each target
belongs to the kind of track it is the target of and pictures are kept at all.

## Main definitions

* `Config`: The configuration of a pipeline.
* `Config.validate`: Whether a configuration is usable.
* `Config.ofJson`: Reads a usable configuration.
* `Config.toJson`: Writes a configuration.

## Theorems

* `Config.validate_default`: The default configuration is usable.
-/

namespace Recode

/-- How many idle pictures a stage keeps unless told otherwise. -/
def defaultPoolSize : UInt64 := 8

/-- The configuration of a pipeline. -/
structure Config where
  /-- The codec that sound is brought to. -/
  audioTarget : Codec := .g711a
  /-- The codec that pictures are brought to. -/
  videoTarget : Codec := .h264
  /-- How many idle pictures each stage keeps. -/
  poolSize : UInt64 := defaultPoolSize
deriving DecidableEq, Repr

namespace Config

/-- The configuration that is used where none is given. -/
def default : Config := {}

/-- The configuration with the given targets. -/
def ofTargets (audioTarget videoTarget : Codec) : Config := { audioTarget, videoTarget }

/-- The codec that tracks of a kind are brought to. -/
def target (c : Config) : TrackType → Codec
  | .audio => c.audioTarget
  | .video => c.videoTarget

/-- Whether a configuration is usable; of several reasons against it the first
    field's is given. -/
def validate (c : Config) : Except Fault Unit :=
  if !c.audioTarget.isAudio then
    .error (.invalidConfig ("audio target " ++ c.audioTarget.name ++ " is not an audio codec"))
  else if !c.videoTarget.isVideo then
    .error (.invalidConfig ("video target " ++ c.videoTarget.name ++ " is not a video codec"))
  else if c.poolSize = 0 then .error (.invalidConfig "pool_size must be positive")
  else .ok ()

theorem validate_default : default.validate = .ok () := rfl

open Json

/-- The fields of a configuration that have been read. -/
structure Draft where
  audioTarget : Option Codec := none
  videoTarget : Option Codec := none
  poolSize : Option UInt64 := none
deriving DecidableEq, Repr

/-- The fields that were read, and the defaults for the others. -/
def ofDraft (d : Draft) : Config :=
  { audioTarget := d.audioTarget.getD default.audioTarget
    videoTarget := d.videoTarget.getD default.videoTarget
    poolSize := d.poolSize.getD default.poolSize }

/-- How a configuration is read: every field may be left out, and a list may end
    early. -/
def shape : RecordShape Draft Config :=
  { expected := "struct TranscodeConfig"
    fields :=
      [.ofReader "audio_target" Draft.audioTarget
          (fun d v => { d with audioTarget := some v }) readCodec,
        .ofReader "video_target" Draft.videoTarget
          (fun d v => { d with videoTarget := some v }) readCodec,
        .ofReader "pool_size" Draft.poolSize
          (fun d v => { d with poolSize := some v }) readUInt64]
    empty := {}
    short := fun _ => none
    finish := fun d => .ok (ofDraft d) }

/-- Reads a usable configuration. -/
def ofJson (text : String) : Except Fault Config :=
  match shape.read.parse text with
  | .error failure => .error (.invalidConfig failure.message)
  | .ok config => config.validate.map fun _ => config

/-- Writes a configuration. -/
def toJson (c : Config) : String :=
  String.ofList (writeObject
    [("audio_target", writeString c.audioTarget.name),
      ("video_target", writeString c.videoTarget.name),
      ("pool_size", writeInteger c.poolSize.toNat)])

end Config

end Recode

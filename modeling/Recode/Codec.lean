/-!
# Codecs

The closed table of codecs. Every codec has exactly one entry, and everything
that depends on a codec, from its track type to the implementations worth
trying, is read off that entry rather than decided again elsewhere.

The order of the entries matters in two places: a name is looked up from the
first entry on, and an unknown name is reported together with all known ones in
this order.

## Main definitions

* `TrackType`: Audio or video.
* `Codec`: The codecs of the table.
* `CodecEntry`: What the table says about one codec.
* `Codec.entry`: The entry of a codec.
* `Codec.ofName?`: The codec with a given name or alias, letter case aside.
-/

namespace Recode

/-- The two kinds of elementary stream. -/
inductive TrackType where
  | audio
  | video
deriving DecidableEq, Repr

namespace TrackType

/-- Both track types, in the order in which whole-pipeline operations visit
    them. -/
def all : List TrackType := [audio, video]

/-- The name of a track type, in messages and in JSON. -/
def name : TrackType → String
  | audio => "audio"
  | video => "video"

end TrackType

/-- The codecs of the table. -/
inductive Codec where
  | h264
  | h265
  | aac
  | g711a
  | g711u
  | opus
deriving DecidableEq, Repr

/-- What the table says about one codec. -/
structure CodecEntry where
  /-- The codec the entry belongs to. -/
  codec : Codec
  /-- Its name, in messages, in JSON and in look-ups. -/
  name : String
  /-- Further names under which it is looked up. -/
  aliases : List String
  /-- The kind of stream it encodes. -/
  trackType : TrackType
  /-- Decoder implementations to try by name, best first. -/
  decoders : List String
  /-- Encoder implementations to try by name, best first. -/
  encoders : List String

namespace Codec

/-- All codecs, in table order. -/
def all : List Codec := [h264, h265, aac, g711a, g711u, opus]

/-- The table. Named implementations come hardware first; the implementation an
    engine registers for the codec itself is not listed, being the last resort
    of every selection. -/
def entry : Codec → CodecEntry
  | h264 =>
    { codec := h264
      name := "h264"
      aliases := ["avc", "libx264"]
      trackType := .video
      decoders := ["h264_cuvid", "h264_qsv", "h264_v4l2m2m"]
      encoders := ["h264_nvenc", "h264_qsv", "h264_videotoolbox", "h264_v4l2m2m", "libx264"] }
  | h265 =>
    { codec := h265
      name := "h265"
      aliases := ["hevc", "libx265"]
      trackType := .video
      decoders := ["hevc_cuvid", "hevc_qsv", "hevc_v4l2m2m"]
      encoders := ["hevc_nvenc", "hevc_qsv", "hevc_videotoolbox", "hevc_v4l2m2m", "libx265"] }
  | aac =>
    { codec := aac
      name := "aac"
      aliases := ["mpeg4-generic"]
      trackType := .audio
      decoders := []
      encoders := ["libfdk_aac"] }
  | g711a =>
    { codec := g711a
      name := "g711a"
      aliases := ["pcma", "pcm_alaw"]
      trackType := .audio
      decoders := []
      encoders := [] }
  | g711u =>
    { codec := g711u
      name := "g711u"
      aliases := ["pcmu", "pcm_mulaw"]
      trackType := .audio
      decoders := []
      encoders := [] }
  | opus =>
    { codec := opus
      name := "opus"
      aliases := []
      trackType := .audio
      decoders := ["libopus"]
      encoders := ["libopus"] }

/-- The name of a codec. -/
def name (c : Codec) : String := c.entry.name

/-- The kind of stream a codec encodes. -/
def trackType (c : Codec) : TrackType := c.entry.trackType

/-- The codec encodes pictures. -/
def isVideo (c : Codec) : Bool := c.trackType = .video

/-- The codec encodes sound. -/
def isAudio (c : Codec) : Bool := c.trackType = .audio

/-- The position of a codec in the table. -/
def index (c : Codec) : Nat := all.idxOf c

/-- The codec with the given name or alias. Only the letters `A` to `Z` are
    folded to lower case, so a name outside ASCII matches nothing. -/
def ofName? (name : String) : Option Codec :=
  let lowered := name.map Char.toLower
  all.find? fun c => c.name == lowered || c.entry.aliases.contains lowered

end Codec

end Recode

import Recode.Codec
import Recode.Json.Reader
import Recode.Media.PixelFormat
import Recode.Media.SampleFormat

/-!
# Named values in JSON

Codecs, track types and formats appear in JSON by name. The names are matched to
the letter: neither an alias nor another case will do.

## Main definitions

* `readTrackType`, `readCodec`, `readPixelFormat`, `readSampleFormat`: Readers of
  named values.
-/

namespace Recode

namespace Json

/-- Reads a track type by its name. -/
def readTrackType : Reader TrackType := readVariant (TrackType.all.map fun t => (t.name, t))

/-- Reads a codec by its name. -/
def readCodec : Reader Codec := readVariant (Codec.all.map fun c => (c.name, c))

/-- Reads a pixel format by its name. -/
def readPixelFormat : Reader PixelFormat := readVariant (PixelFormat.all.map fun f => (f.name, f))

/-- Reads a sample format by its name. -/
def readSampleFormat : Reader SampleFormat :=
  readVariant (SampleFormat.all.map fun f => (f.name, f))

end Json

end Recode

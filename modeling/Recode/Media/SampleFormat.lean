/-!
# Sample formats

The formats of sound samples. A planar format keeps each channel in a plane of
its own, any other interleaves the channels.

## Main definitions

* `SampleFormat`: The formats.
* `SampleFormat.isPlanar`: One plane per channel.
* `SampleFormat.name`, `SampleFormat.label`: The spelling in JSON and the
  spelling in messages.
-/

namespace Recode

/-- The formats of sound samples. -/
inductive SampleFormat where
  | u8
  | s16
  | s32
  | flt
  | dbl
  | s16p
  | s32p
  | fltp
  | dblp
deriving DecidableEq, Repr

namespace SampleFormat

/-- All formats, in the order in which an unknown name is answered. -/
def all : List SampleFormat := [u8, s16, s32, flt, dbl, s16p, s32p, fltp, dblp]

/-- The name of a format in JSON. -/
def name : SampleFormat → String
  | u8 => "u8"
  | s16 => "s16"
  | s32 => "s32"
  | flt => "flt"
  | dbl => "dbl"
  | s16p => "s16p"
  | s32p => "s32p"
  | fltp => "fltp"
  | dblp => "dblp"

/-- The name of a format in messages: a capital letter first. -/
def label (f : SampleFormat) : String := f.name.capitalize

/-- The format keeps one plane per channel. -/
def isPlanar : SampleFormat → Bool
  | s16p | s32p | fltp | dblp => true
  | _ => false

end SampleFormat

end Recode

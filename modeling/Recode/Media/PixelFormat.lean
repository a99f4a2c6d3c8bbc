/-!
# Pixel formats

The formats in which pictures travel between decoder, converter and encoder.
Most belong to the YUV family; the four packed RGB formats do not.

## Main definitions

* `PixelFormat`: The formats.
* `PixelFormat.preferred`: The format to convert to when an encoder does not
  take the decoder's own.
* `PixelFormat.isYuv`: Membership in the YUV family.
* `PixelFormat.name`, `PixelFormat.label`: The spelling in JSON and the spelling
  in messages.
-/

namespace Recode

/-- The formats in which pictures travel through the pipeline. -/
inductive PixelFormat where
  | yuv420p
  | yuvj420p
  | nv12
  | nv21
  | yuv422p
  | yuv444p
  | yuv420p10le
  | yuvj422p
  | yuvj444p
  | yuv422p10le
  | yuv444p10le
  | p010le
  | gray8
  | rgb24
  | bgr24
  | rgba
  | bgra
deriving DecidableEq, Repr

namespace PixelFormat

/-- All formats, in the order in which an unknown name is answered. -/
def all : List PixelFormat :=
  [yuv420p, yuvj420p, nv12, nv21, yuv422p, yuv444p, yuv420p10le, yuvj422p, yuvj444p,
    yuv422p10le, yuv444p10le, p010le, gray8, rgb24, bgr24, rgba, bgra]

/-- The name of a format in JSON. -/
def name : PixelFormat → String
  | yuv420p => "yuv420p"
  | yuvj420p => "yuvj420p"
  | nv12 => "nv12"
  | nv21 => "nv21"
  | yuv422p => "yuv422p"
  | yuv444p => "yuv444p"
  | yuv420p10le => "yuv420p10le"
  | yuvj422p => "yuvj422p"
  | yuvj444p => "yuvj444p"
  | yuv422p10le => "yuv422p10le"
  | yuv444p10le => "yuv444p10le"
  | p010le => "p010le"
  | gray8 => "gray8"
  | rgb24 => "rgb24"
  | bgr24 => "bgr24"
  | rgba => "rgba"
  | bgra => "bgra"

/-- The name of a format in messages: a capital letter first. -/
def label (f : PixelFormat) : String := f.name.capitalize

/-- The format to convert to when an encoder does not take the decoder's own:
    nearly every video encoder takes it. -/
def preferred : PixelFormat := yuv420p

/-- The format belongs to the YUV family. -/
def isYuv : PixelFormat → Bool
  | rgb24 | bgr24 | rgba | bgra => false
  | _ => true

end PixelFormat

end Recode

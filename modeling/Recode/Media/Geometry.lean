import Recode.Media.RawFrame

/-!
# Picture geometry

What a conversion is set up for: the format and size of the pictures that come
in. Two pictures of one geometry can share a conversion.

## Main definitions

* `Geometry`: Format and size.
* `Picture.geometry?`: The geometry of a picture, unless it is sound.
-/

namespace Recode

/-- The format and size of pictures that come in. -/
structure Geometry where
  format : PixelFormat
  width : UInt32
  height : UInt32
deriving DecidableEq, Repr

/-- Width and height, for messages. -/
def sizeText (width height : UInt32) : String :=
  toString width.toNat ++ "x" ++ toString height.toNat

namespace Geometry

/-- The size of a geometry, for messages. -/
def size (g : Geometry) : String := sizeText g.width g.height

end Geometry

/-- The geometry of a picture; sound has none. -/
def Picture.geometry? {Store : Type} (p : Picture Store) : Option Geometry :=
  p.pixel.map fun format => ⟨format, p.width, p.height⟩

end Recode

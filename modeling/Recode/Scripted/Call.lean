import Recode.Buffer
import Recode.Engine.Directory

/-!
# Calls

What a scripted engine was asked and what it answered, in the order of the asking.
A call is put into words for whoever reads the record.

## Main definitions

* `Request`: What an engine is asked.
* `Reply`: What it answers.
* `Call`: Both.
* `Call.text`: A call in words.
-/

namespace Recode.Scripted

/-- Which buffer a picture is in, and in which of its uses. -/
structure Mark where
  serial : Nat
  recycled : Nat
deriving DecidableEq, Repr

/-- The mark of a picture. -/
def Mark.of (p : Picture Buffer) : Mark := ⟨p.store.serial, p.store.recycled⟩

/-- What an engine is asked. -/
inductive Request where
  | findDecoder (lookup : Lookup)
  | findEncoder (lookup : Lookup)
  | openDecoder (implementation : String) (codec : Codec)
  | openEncoder (implementation : String) (settings : Settings)
  | openConverter (source : Geometry) (target : PixelFormat)
  | pixelFormats
  | decode (size : Nat) (dts pts : Int64) (out : Mark)
  | drainDecoder (out : Mark)
  | convert (source : Geometry) (target : PixelFormat) (input : Nat) (out : Mark)
  | encode (pixel : Option PixelFormat) (width height : UInt32) (pts dts : Option Int64)
      (size : Nat) (input : Nat)
  | drainEncoder
deriving DecidableEq, Repr

/-- What an engine answers. -/
inductive Reply where
  | done
  | nothing
  | implementation (name : String)
  | formats (formats : List PixelFormat)
  | picture
  | packet (size : Nat) (pts dts : Option Int64)
  | failed (text : String)
deriving DecidableEq, Repr

/-- What an engine was asked and what it answered. -/
structure Call where
  request : Request
  reply : Reply
deriving DecidableEq, Repr

/-- A time in words. -/
def timeText : Option Int64 → String
  | some t => toString t.toInt
  | none => "none"

/-- A mark in words. -/
def Mark.text (m : Mark) : String :=
  toString m.serial ++ " recycled=" ++ toString m.recycled

/-- A conversion in words. -/
def conversionText (source : Geometry) (target : PixelFormat) : String :=
  source.format.name ++ "->" ++ target.name ++ " " ++ source.size

/-- A request in words. -/
def Request.text : Request → String
  | findDecoder lookup => "find_decoder " ++ lookup.key
  | findEncoder lookup => "find_encoder " ++ lookup.key
  | openDecoder implementation codec => "open_decoder " ++ implementation ++ " " ++ codec.name
  | openEncoder implementation settings =>
    "open_encoder " ++ implementation ++ " " ++ settings.codec.name ++ " "
      ++ sizeText settings.width settings.height ++ "@" ++ toString settings.frameRate.toNat ++ " "
      ++ sizeText settings.sampleRate settings.channels
  | openConverter source target => "open_converter " ++ conversionText source target
  | pixelFormats => "formats"
  | decode size dts pts out =>
    "decode size=" ++ toString size ++ " dts=" ++ toString dts.toInt ++ " pts="
      ++ toString pts.toInt ++ " buf=" ++ out.text
  | drainDecoder out => "drain_decoder buf=" ++ out.text
  | convert source target input out =>
    "convert " ++ conversionText source target ++ " buf=" ++ toString input ++ " to=" ++ out.text
  | encode pixel width height pts dts size input =>
    "encode " ++ (pixel.map PixelFormat.name).getD "none" ++ " " ++ sizeText width height
      ++ " pts=" ++ timeText pts ++ " dts=" ++ timeText dts ++ " size=" ++ toString size
      ++ " buf=" ++ toString input
  | drainEncoder => "drain_encoder"

/-- A reply in words. -/
def Reply.text : Reply → String
  | done => "ok"
  | nothing => "none"
  | implementation name => name
  | formats all => "[" ++ String.intercalate "," (all.map PixelFormat.name) ++ "]"
  | picture => "frame"
  | packet size pts dts =>
    "packet size=" ++ toString size ++ " pts=" ++ timeText pts ++ " dts=" ++ timeText dts
  | failed text => "error: " ++ text

/-- A call in words. -/
def Call.text (c : Call) : String := c.request.text ++ " -> " ++ c.reply.text

end Recode.Scripted

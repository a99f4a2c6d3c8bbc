import Recode.Act
import Recode.Settings

/-!
# Engines

The pipeline never touches a bitstream or a pixel itself. An engine does: it
looks implementations up, opens contexts and runs packets and pictures through
them. This module says what an engine is; the pipeline is written for every
engine at once.

A context is a value, and every call on it yields the context to go on with. What
contexts share, or hide from the pipeline, lives in the world of the actions.

Draining is where a context could keep the pipeline busy forever. A backend
therefore orders its contexts, and a drain that yields something has to yield a
smaller context with it. For a context that buffers frames this is the number of
frames left.

## Main definitions

* `Backend`: The types of an engine's contexts and pictures.
* `Lookup`: How an implementation is looked up.
* `Pull`: What draining a context once yields.
* `Engine`: What the pipeline asks of an engine.
* `Engine.onSecond`: An engine in the second part of a larger world.
-/

namespace Recode

/-- The types of an engine's contexts and pictures. -/
structure Backend where
  /-- The engine's own part of a picture. -/
  Store : Type
  /-- An implementation of a decoder or an encoder. -/
  Implementation : Type
  Decoder : Type
  Encoder : Type
  Converter : Type
  /-- Draining a decoder leads to smaller ones. -/
  decoderOrder : WellFoundedRelation Decoder
  /-- Draining an encoder leads to smaller ones. -/
  encoderOrder : WellFoundedRelation Encoder

/-- How an implementation is looked up. -/
inductive Lookup where
  /-- By the name it is registered under. -/
  | name (name : String)
  /-- As whatever the engine uses for a codec. -/
  | codec (codec : Codec)
deriving DecidableEq, Repr

/-- What a decoder is fed. -/
structure Packet where
  data : Bytes
  dts : Int64
  pts : Int64
deriving DecidableEq, Repr

/-- What an encoder yields. An encoder may leave the times to its caller. -/
structure EncodedPacket where
  data : Bytes
  pts : Option Int64
  dts : Option Int64
deriving DecidableEq, Repr

/-- What draining a context once yields: something and a smaller context, or an end,
    with or without a failure. -/
inductive Pull {γ : Type} (smaller : γ → γ → Prop) (context : γ) (α : Type) where
  | more (item : α) (next : γ) (less : smaller next context)
  | empty (next : γ)
  | failed (cause : Cause) (next : γ)

/-- What decoding a packet leaves behind. The picture may have been written to
    whatever the outcome. -/
structure Decoded (b : Backend) where
  /-- Whether the picture now holds a decoded frame. -/
  outcome : Except Cause Bool
  picture : Picture b.Store
  context : b.Decoder

/-- What draining a decoder once leaves behind. The picture may have been written
    to whatever the outcome. -/
structure DecoderDrained (b : Backend) (context : b.Decoder) where
  picture : Picture b.Store
  pull : Pull b.decoderOrder.rel context Unit

/-- What encoding a picture leaves behind. -/
structure Encoded (b : Backend) where
  /-- The packet, unless the encoder keeps back what it has. -/
  outcome : Except Cause (Option EncodedPacket)
  context : b.Encoder

/-- What converting a picture leaves behind. The target picture may have been
    written to whatever the outcome. -/
structure Converted (b : Backend) where
  outcome : Except Cause Unit
  picture : Picture b.Store
  context : b.Converter

/-- What the pipeline asks of an engine whose calls act in worlds of type `σ`. -/
structure Engine (b : Backend) (σ : Type) where
  findDecoder : Lookup → Act σ (Option b.Implementation)
  findEncoder : Lookup → Act σ (Option b.Implementation)
  /-- The name under which an implementation is reported. -/
  implementationName : b.Implementation → String
  openDecoder : b.Implementation → Track → Act σ (Except Cause b.Decoder)
  openEncoder : b.Implementation → Settings → Act σ (Except Cause b.Encoder)
  /-- Sets up a conversion from a geometry to a format. -/
  openConverter : Geometry → PixelFormat → Act σ (Except Cause b.Converter)
  /-- The pixel formats that an encoder takes; none for sound. -/
  pixelFormats : b.Encoder → Act σ (List PixelFormat)
  /-- Feeds a decoder one packet and gives it a picture to write to. -/
  decode : b.Decoder → Packet → Picture b.Store → Act σ (Decoded b)
  /-- Tells a decoder that nothing follows and asks for one more frame. -/
  drainDecoder : (context : b.Decoder) → Picture b.Store → Act σ (DecoderDrained b context)
  /-- Feeds an encoder one picture. -/
  encode : b.Encoder → Picture b.Store → Act σ (Encoded b)
  /-- Tells an encoder that nothing follows and asks for one more packet. -/
  drainEncoder : (context : b.Encoder) → Act σ (Pull b.encoderOrder.rel context EncodedPacket)
  /-- Converts the first picture into the second. -/
  convert : b.Converter → Picture b.Store → Picture b.Store → Act σ (Converted b)
  /-- A new picture that holds nothing. -/
  fresh : Act σ (Picture b.Store)
  /-- A used picture, reset to hold nothing. -/
  recycle : Picture b.Store → Picture b.Store

/-- An engine in the second part of a larger world. -/
def Engine.onSecond {b : Backend} {σ ρ : Type} (e : Engine b σ) : Engine b (ρ × σ) :=
  { findDecoder := fun l => (e.findDecoder l).onSecond
    findEncoder := fun l => (e.findEncoder l).onSecond
    implementationName := e.implementationName
    openDecoder := fun i t => (e.openDecoder i t).onSecond
    openEncoder := fun i s => (e.openEncoder i s).onSecond
    openConverter := fun g t => (e.openConverter g t).onSecond
    pixelFormats := fun c => (e.pixelFormats c).onSecond
    decode := fun c p out => (e.decode c p out).onSecond
    drainDecoder := fun c out => (e.drainDecoder c out).onSecond
    encode := fun c p => (e.encode c p).onSecond
    drainEncoder := fun c => (e.drainEncoder c).onSecond
    convert := fun c p out => (e.convert c p out).onSecond
    fresh := e.fresh.onSecond
    recycle := e.recycle }

end Recode

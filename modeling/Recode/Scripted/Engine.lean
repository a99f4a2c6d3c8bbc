import Recode.Engine.DelayLine
import Recode.Engine.Presentation
import Recode.Scripted.Call
import Recode.Scripted.Script

/-!
# The scripted engine

An engine that follows a script and keeps a record of its calls. Decoders and
encoders are delay lines, and payloads pass through them as they are, behind a
header that tells the codec of a video packet and whether it is the first.

The world holds the cue that is in force, the calls made since it came into force
and the number of buffers made so far, which goes on.

## Main definitions

* `World`: What the engine looks at and leaves behind.
* `backend`: The types of its contexts.
* `engine`: The engine that follows a script.
-/

namespace Recode.Scripted

/-- What the engine looks at and leaves behind. -/
structure World where
  cue : Cue := {}
  /-- The calls made since the cue came into force, in order. -/
  calls : List Call := []
  decoderDrains : Nat := 0
  encoderDrains : Nat := 0
  /-- The number of buffers made. -/
  made : Nat := 0
deriving DecidableEq, Repr

/-- Puts a cue into force. -/
def World.cued (cue : Cue) (w : World) : World := { cue, made := w.made }

/-- An implementation that was found. -/
structure Implementation where
  name : String
  failure : Option String
  formats : List PixelFormat
deriving DecidableEq, Repr

/-- A decoder. With each packet it keeps what to change in its picture. -/
structure Decoder where
  track : Track
  output : PixelFormat
  line : DelayLine (Packet × PictureChange)
deriving DecidableEq, Repr

/-- An encoder. With each packet it keeps what to change in it. -/
structure Encoder where
  codec : Codec
  formats : List PixelFormat
  line : DelayLine (EncodedPacket × PacketChange)
  /-- A packet has come out already. -/
  begun : Bool
deriving DecidableEq, Repr

/-- A converter. -/
structure Converter where
  source : Geometry
  target : PixelFormat
deriving DecidableEq, Repr

/-- The types of the engine's contexts. -/
abbrev backend : Backend :=
  { Store := Buffer
    Implementation
    Decoder
    Encoder
    Converter
    decoderOrder := measure fun d : Decoder => d.line.waiting.length
    encoderOrder := measure fun e : Encoder => e.line.waiting.length }

/-- Adds a call to the record. -/
def record (request : Request) (reply : Reply) : Act World Unit :=
  .modify fun w => { w with calls := w.calls ++ [⟨request, reply⟩] }

/-- Records a call that may fail, and yields what it led to. -/
def recordOpening {γ : Type} (request : Request) (failure : Option String) (context : γ) :
    Act World (Except Cause γ) :=
  match failure with
  | some text => do
    record request (.failed text)
    return .error ⟨text, []⟩
  | none => do
    record request .done
    return .ok context

/-- What a look-up finds among the offers. -/
def find? (offers : Option (List Offer)) (defaults : List PixelFormat) (lookup : Lookup) :
    Option Implementation :=
  match offers, lookup with
  | none, .name _ => none
  | none, .codec codec => some ⟨codec.name, none, defaults⟩
  | some offers, lookup =>
    (offers.find? fun offer => offer.key == lookup.key).map fun offer =>
      ⟨offer.name.getD (match lookup with
          | .name name => name
          | .codec codec => codec.name),
        offer.failure, offer.formats.getD defaults⟩

/-- Looks up an implementation. -/
def find (request : Lookup → Request) (offers : Option (List Offer))
    (defaults : List PixelFormat) (lookup : Lookup) : Act World (Option Implementation) := do
  let found := find? offers defaults lookup
  record (request lookup) ((found.map fun i => Reply.implementation i.name).getD .nothing)
  return found

/-- Why a conversion cannot be set up. -/
def conversionFailure (script : Script) (source : Geometry) (target : PixelFormat) :
    Option String :=
  if source.format ∈ script.rejectedFormats ∨ (source.width, source.height) ∈ script.rejectedSizes
  then some ("no path " ++ source.format.name ++ " -> " ++ target.name)
  else none

namespace Decoder

/-- Writes what is due to a picture. -/
def present (d : Decoder) (due : Packet × PictureChange) (out : Picture Buffer) : Picture Buffer :=
  due.2.apply
    (d.track.present d.track.trackType d.output due.1 { out.store with data := due.1.data } out)

/-- Takes a packet. -/
def feed (corrupt : Option Bytes) (cue : FeedCue PictureChange) (packet : Packet)
    (out : Picture Buffer) (d : Decoder) : Decoded backend :=
  if d.line.ended then ⟨.error ⟨"end of file", []⟩, out, d⟩
  else
    match cue.failure with
    | some text => ⟨.error ⟨text, []⟩, out, d⟩
    | none =>
      if corrupt = some packet.data then ⟨.error ⟨"invalid data", []⟩, out, d⟩
      else if cue.swallow then ⟨.ok false, out, d⟩
      else
        match d.line.push (packet, cue.change) with
        | (some due, line) => ⟨.ok true, d.present due out, { d with line }⟩
        | (none, line) => ⟨.ok false, out, { d with line }⟩

/-- Yields what is left, unless that fails. -/
def drain (failure : Option String) (out : Picture Buffer) (d : Decoder) :
    DecoderDrained backend d :=
  match failure with
  | some text => ⟨out, .failed ⟨text, []⟩ { d with line := d.line.finish }⟩
  | none =>
    match h : d.line.pull with
    | some (due, line) =>
      ⟨d.present due out, .more () { d with line } (DelayLine.length_of_pull h)⟩
    | none => ⟨out, .empty { d with line := d.line.finish }⟩

end Decoder

namespace Encoder

/-- What stands in front of a payload. Sound has no header; that of a video packet
    is a start code and a slice that can, or cannot, be decoded on its own. -/
def header (codec : Codec) (begun : Bool) : Bytes :=
  match codec with
  | .h264 => [0, 0, 0, 1, if begun then 0x41 else 0x65]
  | .h265 => [0, 0, 0, 1, if begun then 0x02 else 0x26]
  | _ => []

/-- The packet that comes out when one is due. -/
def packetOf (e : Encoder) (due : EncodedPacket × PacketChange) : EncodedPacket :=
  due.2.apply { due.1 with data := header e.codec e.begun ++ due.1.data }

/-- Takes a picture. -/
def feed (cue : FeedCue PacketChange) (picture : Picture Buffer) (e : Encoder) :
    Encoded backend :=
  if e.line.ended then ⟨.error ⟨"end of file", []⟩, e⟩
  else
    match cue.failure with
    | some text => ⟨.error ⟨text, []⟩, e⟩
    | none =>
      if cue.swallow then ⟨.ok none, e⟩
      else
        match e.line.push (⟨picture.store.data, picture.pts, picture.dts⟩, cue.change) with
        | (some due, line) => ⟨.ok (some (e.packetOf due)), { e with line, begun := true }⟩
        | (none, line) => ⟨.ok none, { e with line }⟩

/-- Yields what is left, unless that fails. -/
def drain (failure : Option String) (e : Encoder) :
    Pull backend.encoderOrder.rel e EncodedPacket :=
  match failure with
  | some text => .failed ⟨text, []⟩ { e with line := e.line.finish }
  | none =>
    match h : e.line.pull with
    | some (due, line) =>
      .more (e.packetOf due) { e with line, begun := true } (DelayLine.length_of_pull h)
    | none => .empty { e with line := e.line.finish }

end Encoder

/-- Converts a picture: the times of the result are of no use. -/
def Converter.run (c : Converter) (failure : Option String) (source out : Picture Buffer) :
    Converted backend :=
  match failure with
  | some text => ⟨.error ⟨text, []⟩, out, c⟩
  | none =>
    ⟨.ok (),
      { out with
        pixel := some c.target
        width := source.width
        height := source.height
        pts := some (-1)
        dts := some (-1)
        store := { out.store with data := source.store.data } },
      c⟩

/-- How the outcome of decoding is recorded. -/
def Reply.ofDecoded : Except Cause Bool → Reply
  | .ok true => .picture
  | .ok false => .nothing
  | .error cause => .failed cause.text

/-- How a packet is recorded. -/
def Reply.ofPacket (p : EncodedPacket) : Reply := .packet p.data.length p.pts p.dts

/-- How the outcome of encoding is recorded. -/
def Reply.ofEncoded : Except Cause (Option EncodedPacket) → Reply
  | .ok (some p) => .ofPacket p
  | .ok none => .nothing
  | .error cause => .failed cause.text

/-- How the outcome of converting is recorded. -/
def Reply.ofConverted : Except Cause Unit → Reply
  | .ok _ => .done
  | .error cause => .failed cause.text

/-- How a drain is recorded. -/
def Reply.ofPull {γ α : Type} {smaller : γ → γ → Prop} {context : γ} (item : α → Reply) :
    Pull smaller context α → Reply
  | .more a _ _ => item a
  | .empty _ => .nothing
  | .failed cause _ => .failed cause.text

/-- The engine that follows a script. -/
def engine (script : Script) : Engine backend World :=
  { findDecoder := find .findDecoder script.decoders []
    findEncoder := find .findEncoder script.encoders script.encoderFormats
    implementationName := Implementation.name
    openDecoder := fun i track =>
      recordOpening (.openDecoder i.name track.codec) i.failure
        { track, output := script.decoderOutput, line := .ofDelay script.decoderDelay }
    openEncoder := fun i settings =>
      recordOpening (.openEncoder i.name settings) i.failure
        { codec := settings.codec, formats := i.formats, line := .ofDelay script.encoderDelay
          begun := false }
    openConverter := fun source target =>
      recordOpening (.openConverter source target) (conversionFailure script source target)
        ⟨source, target⟩
    pixelFormats := fun e => do
      record .pixelFormats (.formats e.formats)
      return e.formats
    decode := fun d packet out => do
      let world ← .get
      let decoded := d.feed script.corrupt world.cue.decode packet out
      record (.decode packet.data.length packet.dts packet.pts (.of out))
        (.ofDecoded decoded.outcome)
      return decoded
    drainDecoder := fun d out => do
      let world ← .get
      let drained := d.drain (failureAfter world.cue.decoderDrain world.decoderDrains) out
      .modify fun w => { w with decoderDrains := w.decoderDrains + 1 }
      record (.drainDecoder (.of out)) (.ofPull (fun _ => .picture) drained.pull)
      return drained
    encode := fun e picture => do
      let world ← .get
      let encoded := e.feed world.cue.encode picture
      record (.encode picture.pixel picture.width picture.height picture.pts picture.dts
        picture.store.data.length picture.store.serial) (.ofEncoded encoded.outcome)
      return encoded
    drainEncoder := fun e => do
      let world ← .get
      let pull := e.drain (failureAfter world.cue.encoderDrain world.encoderDrains)
      .modify fun w => { w with encoderDrains := w.encoderDrains + 1 }
      record .drainEncoder (.ofPull .ofPacket pull)
      return pull
    convert := fun c source out => do
      let world ← .get
      let converted := c.run world.cue.convertFailure source out
      record (.convert c.source c.target source.store.serial (.of out))
        (.ofConverted converted.outcome)
      return converted
    fresh := fun w => ⟨.blank (.ofSerial (w.made + 1)), [], { w with made := w.made + 1 }⟩
    recycle := fun p => .blank p.store.recycle }

end Recode.Scripted

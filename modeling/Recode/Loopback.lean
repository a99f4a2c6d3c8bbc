import Recode.Engine.DelayLine
import Recode.Engine.Presentation

/-!
# The loopback engine

An engine without codecs, for trying a pipeline out. Decoding copies the payload
into the picture, encoding puts a header in front of the data of a video picture,
and converting relabels the pixel format. So what went into a pipeline can be
recognised at its end.

One payload is the mark of a damaged packet, which can be neither decoded nor
encoded. The world is a tally of the calls made.

## Main definitions

* `Loopback.Setup`: What is on offer and what fails.
* `Loopback.Tally`: How often the engine was asked for what.
* `Loopback.engine`: The engine.
-/

namespace Recode.Loopback

/-- What is on offer and what fails. -/
structure Setup where
  /-- The names under which decoders are registered. -/
  decoderNames : List String := []
  /-- The names under which encoders are registered. -/
  encoderNames : List String := ["libx264", "libx265", "libopus"]
  missingDecoders : List Codec := []
  missingEncoders : List Codec := []
  /-- The codecs whose decoders refuse to open. -/
  failingDecoders : List Codec := []
  /-- The codecs whose encoders refuse to open. -/
  failingEncoders : List Codec := []
  /-- The formats that nothing is converted from. -/
  rejectedConversions : List PixelFormat := []
  encoderFormats : List PixelFormat := [.preferred]
  /-- The format of decoded images. -/
  decoderOutput : PixelFormat := .preferred
  decoderDelay : Nat := 0
  encoderDelay : Nat := 0
deriving DecidableEq, Repr

/-- How often the engine was asked for what. -/
structure Tally where
  decodersOpened : Nat := 0
  encodersOpened : Nat := 0
  decodeCalls : Nat := 0
  encodeCalls : Nat := 0
  converterAttempts : Nat := 0
  convertersOpened : Nat := 0
  convertCalls : Nat := 0
deriving DecidableEq, Repr

/-- An implementation of a codec. -/
structure Implementation where
  codec : Codec
  name : String
deriving DecidableEq, Repr

/-- A decoder. -/
structure Decoder where
  /-- The kind of stream, as the implementation knows it. -/
  kind : TrackType
  track : Track
  output : PixelFormat
  line : DelayLine Packet
deriving DecidableEq, Repr

/-- An encoder. -/
structure Encoder where
  kind : TrackType
  formats : List PixelFormat
  line : DelayLine EncodedPacket
  /-- A packet has come out already. -/
  begun : Bool
deriving DecidableEq, Repr

/-- The types of the engine's contexts. A picture holds bare data, and a converter
    is nothing but its target. -/
abbrev backend : Backend :=
  { Store := Bytes
    Implementation
    Decoder
    Encoder
    Converter := PixelFormat
    decoderOrder := measure fun d : Decoder => d.line.waiting.length
    encoderOrder := measure fun e : Encoder => e.line.waiting.length }

/-- The mark of a damaged packet: the word "corrupt". -/
def corrupt : Bytes := [0x63, 0x6f, 0x72, 0x72, 0x75, 0x70, 0x74]

/-- What a look-up finds. A name stands for the first codec that lists it. -/
def find? (names : List String) (missing : List Codec) (listed : Codec → List String) :
    Lookup → Option Implementation
  | .name name => do
    guard (names.contains name)
    let codec ← Codec.all.find? fun codec => (listed codec).contains name
    guard !(missing.contains codec)
    return ⟨codec, name⟩
  | .codec codec => do
    guard !(missing.contains codec)
    return ⟨codec, codec.name⟩

/-- Why an implementation of a failing codec cannot be opened. -/
def refusal (i : Implementation) : Cause := ⟨i.name ++ " refused to open", []⟩

/-- Why a conversion cannot be set up. -/
def conversionRefusal (source target : PixelFormat) : Cause :=
  ⟨"unsupported conversion " ++ source.label ++ " -> " ++ target.label, []⟩

/-- What a context says to everything after the end of the stream. -/
def endOfStream : Cause := ⟨"end of file", []⟩

namespace Decoder

/-- Writes the payload of a packet to a picture. -/
def present (d : Decoder) (due : Packet) (out : Picture Bytes) : Picture Bytes :=
  d.track.present d.kind d.output due due.data out

/-- Takes a packet. -/
def feed (packet : Packet) (out : Picture Bytes) (d : Decoder) : Decoded backend :=
  if d.line.ended then ⟨.error endOfStream, out, d⟩
  else if packet.data = corrupt then
    ⟨.error ⟨"invalid data found when processing input", []⟩, out, d⟩
  else
    match d.line.push packet with
    | (some due, line) => ⟨.ok true, d.present due out, { d with line }⟩
    | (none, line) => ⟨.ok false, out, { d with line }⟩

/-- Yields what is left. -/
def drain (out : Picture Bytes) (d : Decoder) : DecoderDrained backend d :=
  match h : d.line.pull with
  | some (due, line) => ⟨d.present due out, .more () { d with line } (DelayLine.length_of_pull h)⟩
  | none => ⟨out, .empty { d with line := d.line.finish }⟩

end Decoder

namespace Encoder

/-- What stands in front of a payload: nothing for sound, else a start code and the
    first byte of a slice that can, or cannot, be decoded on its own. -/
def header (kind : TrackType) (begun : Bool) : Bytes :=
  match kind with
  | .audio => []
  | .video => [0, 0, 0, 1, if begun then 0x41 else 0x65]

/-- The packet that comes out when one is due. -/
def packetOf (e : Encoder) (due : EncodedPacket) : EncodedPacket :=
  { due with data := header e.kind e.begun ++ due.data }

/-- Takes a picture. -/
def feed (picture : Picture Bytes) (e : Encoder) : Encoded backend :=
  if e.line.ended then ⟨.error endOfStream, e⟩
  else if picture.store = corrupt then ⟨.error ⟨"error while encoding frame", []⟩, e⟩
  else
    match e.line.push ⟨picture.store, picture.pts, picture.dts⟩ with
    | (some due, line) => ⟨.ok (some (e.packetOf due)), { e with line, begun := true }⟩
    | (none, line) => ⟨.ok none, { e with line }⟩

/-- Yields what is left. -/
def drain (e : Encoder) : Pull backend.encoderOrder.rel e EncodedPacket :=
  match h : e.line.pull with
  | some (due, line) =>
    .more (e.packetOf due) { e with line, begun := true } (DelayLine.length_of_pull h)
  | none => .empty { e with line := e.line.finish }

end Encoder

/-- Relabels a picture; the times are left to the caller. -/
def relabel (target : PixelFormat) (source out : Picture Bytes) : Picture Bytes :=
  { out with
    pixel := some target, width := source.width, height := source.height, store := source.store }

/-- The engine. -/
def engine (setup : Setup) : Engine backend Tally :=
  { findDecoder := fun l =>
      return find? setup.decoderNames setup.missingDecoders (·.entry.decoders) l
    findEncoder := fun l =>
      return find? setup.encoderNames setup.missingEncoders (·.entry.encoders) l
    implementationName := Implementation.name
    openDecoder := fun i track => do
      if i.codec ∈ setup.failingDecoders then return .error (refusal i)
      else
        .modify fun t => { t with decodersOpened := t.decodersOpened + 1 }
        return .ok
          { kind := i.codec.trackType, track, output := setup.decoderOutput
            line := .ofDelay setup.decoderDelay }
    openEncoder := fun i settings => do
      if i.codec ∈ setup.failingEncoders then return .error (refusal i)
      else
        .modify fun t => { t with encodersOpened := t.encodersOpened + 1 }
        return .ok
          { kind := settings.trackType, formats := setup.encoderFormats
            line := .ofDelay setup.encoderDelay, begun := false }
    openConverter := fun source target => do
      .modify fun t => { t with converterAttempts := t.converterAttempts + 1 }
      if source.format ∈ setup.rejectedConversions then
        return .error (conversionRefusal source.format target)
      else
        .modify fun t => { t with convertersOpened := t.convertersOpened + 1 }
        return .ok target
    pixelFormats := fun e =>
      match e.kind with
      | .video => return e.formats
      | .audio => return []
    decode := fun d packet out => do
      .modify fun t => { t with decodeCalls := t.decodeCalls + 1 }
      return d.feed packet out
    drainDecoder := fun d out => return d.drain out
    encode := fun e picture => do
      .modify fun t => { t with encodeCalls := t.encodeCalls + 1 }
      return e.feed picture
    drainEncoder := fun e => return e.drain
    convert := fun target source out => do
      .modify fun t => { t with convertCalls := t.convertCalls + 1 }
      return ⟨.ok (), relabel target source out, target⟩
    fresh := return .blank []
    recycle := fun _ => .blank [] }

end Recode.Loopback

import Recode.Engine.Selection
import Recode.Stage.Convert

/-!
# Encoding

An encode stage turns raw frames into encoded frames of one codec. A video
encoder takes some pixel formats only, so the first picture settles what all
pictures are converted to: its own format if the encoder takes it, else the
preferred format if the encoder takes that, else the first one it does take.

A frame that cannot be encoded is dropped with a note. A frame of the other kind
of stream, in contrast, is a mistake of whoever sent it, and so is reported. What
the receiver of encoded frames reports goes back to the caller as well.

A packet may come without times. It then takes those of the picture just encoded,
and at the end of the stream, where there is none, zero.

## Main definitions

* `EncodeStage`: An encoder with its converter.
* `EncodeStage.build`: Opens the best encoder for given settings.
* `EncodeStage.negotiate`: Chooses the format that an encoder is fed.
* `EncodeStage.input`: Encodes one frame.
* `EncodeStage.flush`: Drains the encoder.
-/

namespace Recode

/-- An encoder with its converter, bound to one target codec. -/
structure EncodeStage (b : Backend) where
  settings : Settings
  /-- The name of the implementation that was opened. -/
  implementation : String
  context : b.Encoder
  /-- The pixel formats that the encoder takes; none for sound. -/
  formats : List PixelFormat
  /-- Brings pictures to the format that the first one settled. -/
  converter : Option (ConvertStage b)
  /-- How many idle pictures the converter keeps. -/
  poolSize : Nat

/-- Where encoded frames go. -/
abbrev Emitter (σ : Type) := AccessUnit → Act σ (Except Fault Unit)

namespace EncodeStage

variable {b : Backend} {σ : Type}

/-- The pixel formats to negotiate with. A video encoder has to take one. -/
def formatsOf (e : Engine b σ) (codec : Codec) (context : b.Encoder) :
    Act σ (Except Cause (List PixelFormat)) :=
  if codec.isVideo then do
    let formats ← e.pixelFormats context
    if formats.isEmpty then return .error ⟨"encoder reports no supported pixel formats", []⟩
    else return .ok formats
  else return .ok []

/-- Opens the best encoder for given settings. -/
def build (e : Engine b σ) (settings : Settings) (poolSize : Nat) :
    Act σ (Except Fault (EncodeStage b)) := do
  let codec := settings.codec
  match ← select codec codec.entry.encoders e.findEncoder e.implementationName
      (e.openEncoder · settings) with
  | .opened context implementation =>
    match ← formatsOf e codec context with
    | .ok formats =>
      return .ok { settings, implementation, context, formats, converter := none, poolSize }
    | .error cause => return .error (.encoderInitFailed codec implementation cause)
  | .unavailable => return .error (.encoderUnavailable codec)
  | .initFailed implementation cause =>
    return .error (.encoderInitFailed codec implementation cause)

/-- The codec the stage encodes to. -/
def codec (s : EncodeStage b) : Codec := s.settings.codec

/-- The kind of stream the stage encodes. -/
def trackType (s : EncodeStage b) : TrackType := s.settings.trackType

/-- The format that the first picture settled, if there has been one. -/
def negotiated (s : EncodeStage b) : Option PixelFormat := s.converter.map ConvertStage.target

/-- Chooses the format that an encoder is fed when pictures come in the format
    `incoming`. -/
def negotiate (s : EncodeStage b) (incoming : PixelFormat) : PixelFormat :=
  if incoming ∈ s.formats then incoming
  else if .preferred ∈ s.formats then .preferred
  else s.formats.head?.getD s.settings.pixelFormat

/-- The converter at hand, or a new one for pictures in the format `incoming`. -/
def converterFor (s : EncodeStage b) (incoming : PixelFormat) : Act σ (ConvertStage b) :=
  match s.converter with
  | some converter => return converter
  | none => do
    let target := s.negotiate incoming
    .note (.formatNegotiated s.codec incoming target)
    return .build target s.poolSize

/-- The encoded frame that a packet becomes. Without a presentation time it takes
    `pts`, and without a decoding time `dts`, or else its presentation time. -/
def unitOf (s : EncodeStage b) (packet : EncodedPacket) (pts dts : Option Int64) : AccessUnit :=
  let shown := ((packet.pts <|> pts).getD 0)
  { codec := s.codec, dts := (packet.dts <|> dts).getD shown, pts := shown, data := packet.data }

/-- Encodes a picture and emits what comes out. -/
def encode (e : Engine b σ) (emit : Emitter σ) (picture : Picture b.Store) (s : EncodeStage b) :
    Act σ (Except Fault Unit × EncodeStage b) := do
  let encoded ← e.encode s.context picture
  let s := { s with context := encoded.context }
  match encoded.outcome with
  | .ok (some packet) => return (← emit (s.unitOf packet picture.pts picture.dts), s)
  | .ok none => return (.ok (), s)
  | .error cause =>
    .note (.encodeFailed s.codec cause)
    return (.ok (), s)

/-- Encodes a picture of the given format, converted as far as possible. The
    converted picture returns to the converter's pool. -/
def encodeVideo (e : Engine b σ) (emit : Emitter σ) (incoming : PixelFormat)
    (frame : RawFrame b.Store) (s : EncodeStage b) : Act σ (Except Fault Unit × EncodeStage b) := do
  let converter ← s.converterFor incoming
  let (converted?, converter) ← converter.convert e frame
  match converted? with
  | none => encode e emit frame.picture { s with converter := some converter }
  | some converted =>
    let (outcome, s) ← encode e emit converted.picture s
    return (outcome, { s with converter := some (converter.release converted.picture) })

/-- Encodes one frame, which stays the caller's. -/
def input (e : Engine b σ) (emit : Emitter σ) (frame : RawFrame b.Store) (s : EncodeStage b) :
    Act σ (Except Fault Unit × EncodeStage b) := do
  if frame.trackType = s.trackType then
    match frame.trackType, frame.picture.pixel with
    | .audio, _ => encode e emit frame.picture s
    | .video, some incoming => encodeVideo e emit incoming frame s
    | .video, none =>
      .note (.formatMissing s.codec frame.picture.width frame.picture.height)
      return (.ok (), s)
  else return (.error (.trackTypeMismatch s.trackType frame.trackType), s)

/-- Drains the encoder and emits every packet it still held. The first fault of the
    receiver ends the drain and leaves what was not yet drained where it is; a
    failure of the encoder ends it with a note. -/
def flush (e : Engine b σ) (emit : Emitter σ) (s : EncodeStage b) :
    Act σ (Except Fault Unit × EncodeStage b) := do
  match ← e.drainEncoder s.context with
  | .more packet next _ =>
    match ← emit (s.unitOf packet none none) with
    | .ok _ => flush e emit { s with context := next }
    | .error fault => return (.error fault, { s with context := next })
  | .empty next => return (.ok (), { s with context := next })
  | .failed cause next =>
    .note (.encoderFlushFailed s.codec cause)
    return (.ok (), { s with context := next })
termination_by b.encoderOrder.wf.wrap s.context
decreasing_by assumption

end EncodeStage

end Recode

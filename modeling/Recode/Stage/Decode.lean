import Recode.Engine.Selection
import Recode.Pool

/-!
# Decoding

A decode stage turns the encoded frames of one track into raw frames. It offers
the decoder a picture from its pool with every packet; if the decoder fills it,
the picture goes on to a consumer, and otherwise straight back to the pool.

A packet that cannot be decoded is dropped with a note, because a stream damaged
in one place is still worth having. What the consumer reports is another matter
and goes back to whoever fed the stage.

The consumer's receipt tells whether it kept the frame. A frame that was not kept
returns to the pool, which is how one picture serves a whole stream.

## Main definitions

* `DecodeStage`: A decoder with its pool.
* `DecodeStage.build`: Opens the best decoder for a track.
* `Receipt`, `Consumer`: Where raw frames go.
* `DecodeStage.feed`: Decodes one frame.
* `DecodeStage.flush`: Drains the decoder.
-/

namespace Recode

/-- A decoder with its pool, bound to the codec of one track. -/
structure DecodeStage (b : Backend) where
  codec : Codec
  /-- The name of the implementation that was opened. -/
  implementation : String
  context : b.Decoder
  pool : Pool (Picture b.Store)

/-- What a consumer says about a frame it was given. -/
structure Receipt where
  outcome : Except Fault Unit
  /-- The consumer holds on to the frame. -/
  kept : Bool

/-- Where raw frames go. The consumer has a state of its own, of type `δ`. -/
abbrev Consumer (b : Backend) (σ δ : Type) := δ → RawFrame b.Store → Act σ (Receipt × δ)

namespace DecodeStage

variable {b : Backend} {σ δ : Type}

/-- Opens the best decoder for a track. -/
def build (e : Engine b σ) (track : Track) (poolSize : Nat) :
    Act σ (Except Fault (DecodeStage b)) := do
  let codec := track.codec
  match ← select codec codec.entry.decoders e.findDecoder e.implementationName
      (e.openDecoder · track) with
  | .opened context implementation =>
    return .ok { codec, implementation, context, pool := .ofCapacity poolSize }
  | .unavailable => return .error (.decoderUnavailable codec)
  | .initFailed implementation cause =>
    return .error (.decoderInitFailed codec implementation cause)

/-- The kind of stream the stage decodes. -/
def trackType (s : DecodeStage b) : TrackType := s.codec.trackType

/-- Gives a picture back to the pool. -/
def release (picture : Picture b.Store) (s : DecodeStage b) : DecodeStage b :=
  { s with pool := s.pool.restore picture }

/-- Gives a delivered picture back to the pool unless its consumer kept it. -/
def settle (receipt : Receipt) (picture : Picture b.Store) (s : DecodeStage b) :
    DecodeStage b :=
  if receipt.kept then s else s.release picture

@[simp] theorem release_context (picture : Picture b.Store) (s : DecodeStage b) :
    (s.release picture).context = s.context := rfl

@[simp] theorem settle_context (receipt : Receipt) (picture : Picture b.Store)
    (s : DecodeStage b) : (s.settle receipt picture).context = s.context := by
  unfold settle
  split <;> rfl

/-- Decodes one frame; the raw frame, if there is one, is the caller's to deliver. -/
def input (e : Engine b σ) (unit : AccessUnit) (s : DecodeStage b) :
    Act σ (Option (RawFrame b.Store) × DecodeStage b) := do
  let (blank, pool) ← s.pool.obtain e.fresh e.recycle
  let decoded ← e.decode s.context ⟨unit.data, unit.dts, unit.pts⟩ blank
  let s := { s with context := decoded.context, pool }
  match decoded.outcome with
  | .ok true => return (some ⟨decoded.picture, some unit.codec⟩, s)
  | .ok false => return (none, s.release decoded.picture)
  | .error cause =>
    .note (.decodeFailed s.codec cause unit.dts unit.size)
    return (none, s.release decoded.picture)

/-- Decodes one frame and delivers what comes out. -/
def feed (e : Engine b σ) (deliver : Consumer b σ δ) (unit : AccessUnit) (s : DecodeStage b)
    (downstream : δ) : Act σ (Except Fault Unit × DecodeStage b × δ) := do
  let (frame?, s) ← s.input e unit
  match frame? with
  | none => return (.ok (), s, downstream)
  | some frame =>
    let (receipt, downstream) ← deliver downstream frame
    return (receipt.outcome, s.settle receipt frame.picture, downstream)

/-- Drains the decoder and delivers every frame it still held. The first fault of
    the consumer ends the drain and leaves what was not yet drained where it is; a
    failure of the decoder ends it with a note. -/
def flush (e : Engine b σ) (deliver : Consumer b σ δ) (s : DecodeStage b) (downstream : δ) :
    Act σ (Except Fault Unit × DecodeStage b × δ) := do
  let (blank, pool) ← s.pool.obtain e.fresh e.recycle
  let drained ← e.drainDecoder s.context blank
  match drained.pull with
  | .more _ next _ =>
    let (receipt, downstream) ← deliver downstream ⟨drained.picture, some s.codec⟩
    let after := settle receipt drained.picture { s with context := next, pool }
    match receipt.outcome with
    | .ok _ => flush e deliver after downstream
    | .error fault => return (.error fault, after, downstream)
  | .empty next =>
    return (.ok (), release drained.picture { s with context := next, pool }, downstream)
  | .failed cause next =>
    .note (.decoderFlushFailed s.codec cause)
    return (.ok (), release drained.picture { s with context := next, pool }, downstream)
termination_by b.decoderOrder.wf.wrap s.context
decreasing_by
  rw [settle_context]
  assumption

end DecodeStage

end Recode

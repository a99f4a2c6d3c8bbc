import Recode.Config
import Recode.Sink
import Recode.Stage.Decode
import Recode.Stage.Encode

/-!
# Transcoding

A transcoder stands in front of a sink and brings every track to the target codec
of its kind. A track in that codec already is forwarded as it is. Any other track
gets a chain, a decoder and an encoder, and is announced to the sink as the
encoder will write it; one frame put in runs through the whole chain before
anything else happens.

There is at most one chain per kind of track, and the two kinds have nothing to do
with each other. A chain serves exactly one source codec: a frame of any other is
refused, as is any frame when there is no chain.

Draining a chain is the end of its stream. Its decoder and encoder take nothing
more, so the chain is gone afterwards whatever the sink says, and the track has to
be added again.

## Main definitions

* `Lanes`: One thing for each kind of track.
* `Chain`: The decoder and encoder of one track.
* `Transcoder`: A usable configuration and the chains at work.
* `Transcoder.addTrack`, `Transcoder.inputFrame`, `Transcoder.tracksCompleted`,
  `Transcoder.resetTracks`, `Transcoder.flush`: What can be done with it.
* `Transcoder.isTranscoding`, `Transcoder.implementations`: What can be seen of it.
-/

namespace Recode

/-- One thing for each kind of track. -/
structure Lanes (α : Type) where
  audio : α
  video : α

namespace Lanes

variable {α : Type}

/-- The thing for a kind of track. -/
def get (l : Lanes α) : TrackType → α
  | .audio => l.audio
  | .video => l.video

/-- Changes the thing for a kind of track. -/
def set (l : Lanes α) (t : TrackType) (a : α) : Lanes α :=
  match t with
  | .audio => { l with audio := a }
  | .video => { l with video := a }

@[simp] theorem get_set_self (l : Lanes α) (t : TrackType) (a : α) : (l.set t a).get t = a := by
  cases t <;> rfl

theorem get_set_of_ne (l : Lanes α) {t u : TrackType} (h : u ≠ t) (a : α) :
    (l.set t a).get u = l.get u := by
  cases t <;> cases u <;> first | rfl | exact absurd rfl h

theorem set_get (l : Lanes α) (t : TrackType) : l.set t (l.get t) = l := by
  cases t <;> rfl

end Lanes

/-- The decoder and encoder of one track. -/
structure Chain (b : Backend) where
  decode : DecodeStage b
  encode : EncodeStage b

/-- A usable configuration and the chains at work. -/
structure Transcoder (b : Backend) where
  config : Config
  /-- Only a usable configuration makes a transcoder. -/
  usable : config.validate = .ok ()
  lanes : Lanes (Option (Chain b))

namespace Chain

variable {b : Backend} {σ : Type}

/-- Opens a decoder for a track and an encoder with the given settings. -/
def build (e : Engine b σ) (track : Track) (settings : Settings) (poolSize : Nat) :
    Act σ (Except Fault (Chain b)) := do
  match ← DecodeStage.build e track poolSize with
  | .error fault => return .error fault
  | .ok decode =>
    match ← EncodeStage.build e settings poolSize with
    | .error fault => return .error fault
    | .ok encode => return .ok { decode, encode }

/-- The consumer behind a decoder: an encoder, which lets go of every frame once it
    has been encoded. -/
def consumer (e : Engine b σ) (sink : Sink σ) : Consumer b σ (EncodeStage b) :=
  fun encode frame => do
    let (outcome, encode) ← encode.input e sink.inputFrame frame
    return (⟨outcome, false⟩, encode)

/-- Runs one frame through the chain. -/
def input (e : Engine b σ) (sink : Sink σ) (unit : AccessUnit) (c : Chain b) :
    Act σ (Except Fault Unit × Chain b) := do
  let (outcome, decode, encode) ← c.decode.feed e (consumer e sink) unit c.encode
  return (outcome, { decode, encode })

/-- Drains the decoder into the encoder and then the encoder. The first fault of
    the sink ends it. -/
def flush (e : Engine b σ) (sink : Sink σ) (c : Chain b) : Act σ (Except Fault Unit) := do
  let (outcome, _, encode) ← c.decode.flush e (consumer e sink) c.encode
  match outcome with
  | .error fault => return .error fault
  | .ok _ =>
    let (outcome, _) ← encode.flush e sink.inputFrame
    return outcome

end Chain

namespace Transcoder

variable {b : Backend} {σ : Type}

/-- A transcoder without tracks, if the configuration is usable. -/
def ofConfig (config : Config) : Except Fault (Transcoder b) :=
  match usable : config.validate with
  | .ok () => .ok { config, usable, lanes := ⟨none, none⟩ }
  | .error fault => .error fault

/-- The codec that tracks of a kind are brought to. -/
def target (t : Transcoder b) (kind : TrackType) : Codec := t.config.target kind

/-- A track of this kind is being transcoded. -/
def isTranscoding (t : Transcoder b) (kind : TrackType) : Bool := (t.lanes.get kind).isSome

/-- The names of the decoder and encoder at work for a kind of track. -/
def implementations (t : Transcoder b) (kind : TrackType) : Option (String × String) :=
  (t.lanes.get kind).map fun c => (c.decode.implementation, c.encode.implementation)

/-- Puts a chain, or none, to work for a kind of track. -/
def setLane (t : Transcoder b) (kind : TrackType) (chain : Option (Chain b)) : Transcoder b :=
  { t with lanes := t.lanes.set kind chain }

@[simp] theorem get_setLane_self (t : Transcoder b) (kind : TrackType) (chain? : Option (Chain b)) :
    (t.setLane kind chain?).lanes.get kind = chain? := Lanes.get_set_self ..

theorem get_setLane_of_ne (t : Transcoder b) {k kind : TrackType} (h : k ≠ kind)
    (chain? : Option (Chain b)) : (t.setLane kind chain?).lanes.get k = t.lanes.get k :=
  Lanes.get_set_of_ne _ h _

theorem setLane_get (t : Transcoder b) (kind : TrackType) :
    t.setLane kind (t.lanes.get kind) = t := by
  cases kind <;> rfl

theorem setLane_setLane (t : Transcoder b) (kind : TrackType) (chain? chain?' : Option (Chain b)) :
    (t.setLane kind chain?).setLane kind chain?' = t.setLane kind chain?' := by
  cases kind <;> rfl

/-- Adds a track. Whatever was at work for its kind is gone from then on. The chain
    is at work before the sink hears of the track. -/
def addTrack (e : Engine b σ) (sink : Sink σ) (track : Track) (t : Transcoder b) :
    Act σ (Except Fault Unit × Transcoder b) := do
  let kind := track.trackType
  let target := t.target kind
  let t := t.setLane kind none
  if track.codec = target then
    .note (.trackForwarded track)
    return (← sink.addTrack track, t)
  else
    let settings := Settings.ofTrack target track
    match ← Chain.build e track settings t.config.poolSize.toNat with
    | .error fault => return (.error fault, t)
    | .ok chain =>
      .note (.trackTranscoded kind track.codec target chain.decode.implementation
        chain.encode.implementation)
      let t := t.setLane kind (some chain)
      return (← sink.addTrack settings.toTrack, t)

/-- Forwards or transcodes one frame. -/
def inputFrame (e : Engine b σ) (sink : Sink σ) (unit : AccessUnit) (t : Transcoder b) :
    Act σ (Except Fault Unit × Transcoder b) := do
  let kind := unit.trackType
  let target := t.target kind
  if unit.codec = target then return (← sink.inputFrame unit, t)
  else
    match t.lanes.get kind with
    | some chain =>
      if chain.decode.codec = unit.codec then
        let (outcome, chain) ← chain.input e sink unit
        return (outcome, t.setLane kind (some chain))
      else
        .note (.trackMissing unit.codec target)
        return (.error (.trackNotReady unit.codec), t)
    | none =>
      .note (.trackMissing unit.codec target)
      return (.error (.trackNotReady unit.codec), t)

/-- Tells the sink that all tracks have been added. -/
def tracksCompleted (sink : Sink σ) : Act σ Unit := sink.tracksCompleted

/-- Forgets every track and tells the sink to do the same. -/
def resetTracks (sink : Sink σ) (t : Transcoder b) : Act σ (Transcoder b) := do
  sink.resetTracks
  return { t with lanes := ⟨none, none⟩ }

/-- Drains the chain of one kind of track, if there is one. -/
def flushLane (e : Engine b σ) (sink : Sink σ) (kind : TrackType) (t : Transcoder b) :
    Act σ (Except Fault Unit × Transcoder b) := do
  match t.lanes.get kind with
  | none => return (.ok (), t)
  | some chain =>
    let t := t.setLane kind none
    match ← chain.flush e sink with
    | .error fault => return (.error fault, t)
    | .ok _ =>
      .note (.trackFlushed kind chain.decode.codec)
      return (.ok (), t)

/-- Drains both chains, sound first. The first fault of the sink ends it, and what
    comes later stays as it is. -/
def flush (e : Engine b σ) (sink : Sink σ) (t : Transcoder b) :
    Act σ (Except Fault Unit × Transcoder b) := do
  let (outcome, t) ← t.flushLane e sink .audio
  match outcome with
  | .error fault => return (.error fault, t)
  | .ok _ => t.flushLane e sink .video

end Transcoder

end Recode

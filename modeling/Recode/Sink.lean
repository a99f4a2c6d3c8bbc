import Recode.Act

/-!
# Sinks

A sink is where tracks and encoded frames end up. Every track is announced before
its first frame, and a sink may refuse either. It is also told when all tracks of
a source have been announced and when the source is gone; most sinks have no use
for that.

A sink, like an engine, acts in a world. What it remembers is part of that world.

## Main definitions

* `Sink`: Where tracks and frames end up.
* `Sink.taking`: A sink that ignores all but tracks and frames.
* `Sink.noting`: A sink that only takes notes.
-/

namespace Recode

/-- Where tracks and encoded frames end up. -/
structure Sink (σ : Type) where
  /-- A track is announced. -/
  addTrack : Track → Act σ (Except Fault Unit)
  /-- A frame of an announced track comes in. -/
  inputFrame : AccessUnit → Act σ (Except Fault Unit)
  /-- All tracks of the source have been announced. -/
  tracksCompleted : Act σ Unit
  /-- The source is gone, and so are its tracks. -/
  resetTracks : Act σ Unit

namespace Sink

variable {σ : Type}

/-- A sink that ignores all but tracks and frames. -/
def taking (addTrack : Track → Act σ (Except Fault Unit))
    (inputFrame : AccessUnit → Act σ (Except Fault Unit)) : Sink σ :=
  { addTrack, inputFrame, tracksCompleted := pure (), resetTracks := pure () }

/-- A sink that accepts everything and only takes notes. -/
def noting : Sink σ :=
  { addTrack := fun track => do
      .note (.trackAnnounced track)
      return .ok ()
    inputFrame := fun unit => do
      .note (.frameReceived unit)
      return .ok ()
    tracksCompleted := .note .tracksCompleted
    resetTracks := .note .tracksReset }

end Sink

end Recode

import Recode.Transcoder.Basic

/-!
# Runs of a transcoder

The operations on a transcoder as values, so that histories of one can be written
down and compared.

A transcoder in front of a sink is a sink itself. The transcoder behind it works
in a world that has this one in it, which is how pipelines are stacked.

## Main definitions

* `Operation`: Something to do with a transcoder.
* `Transcoder.perform`: Does it.
* `Transcoder.run`: Does one thing after another.
* `Transcoder.asSink`: The transcoder in the world as a sink.
-/

namespace Recode

/-- Something to do with a transcoder. -/
inductive Operation where
  | addTrack (track : Track)
  | inputFrame (unit : AccessUnit)
  | tracksCompleted
  | resetTracks
  | flush
deriving DecidableEq, Repr

namespace Transcoder

variable {b : Backend} {σ : Type}

/-- Does what an operation says. -/
def perform (e : Engine b σ) (sink : Sink σ) (op : Operation) (t : Transcoder b) :
    Act σ (Except Fault Unit × Transcoder b) :=
  match op with
  | .addTrack track => t.addTrack e sink track
  | .inputFrame unit => t.inputFrame e sink unit
  | .tracksCompleted => do
    tracksCompleted sink
    return (.ok (), t)
  | .resetTracks => do return (.ok (), ← t.resetTracks sink)
  | .flush => t.flush e sink

/-- Does one operation after another and gathers the outcomes. -/
def run (e : Engine b σ) (sink : Sink σ) :
    List Operation → Transcoder b → Act σ (List (Except Fault Unit) × Transcoder b)
  | [], t => return ([], t)
  | op :: ops, t => do
    let (outcome, t) ← t.perform e sink op
    let (outcomes, t) ← run e sink ops t
    return (outcome :: outcomes, t)

/-- Performs an operation on the transcoder in the first part of the world. -/
def performWithin (e : Engine b σ) (sink : Sink σ) (op : Operation) :
    Act (Transcoder b × σ) (Except Fault Unit) := fun w =>
  let inner := w.1.perform e sink op w.2
  ⟨inner.value.1, inner.notes, (inner.value.2, inner.world)⟩

/-- The transcoder in the first part of the world, as a sink for another. -/
def asSink (e : Engine b σ) (sink : Sink σ) : Sink (Transcoder b × σ) :=
  { addTrack := fun track => performWithin e sink (.addTrack track)
    inputFrame := fun unit => performWithin e sink (.inputFrame unit)
    tracksCompleted := do let _ ← performWithin e sink .tracksCompleted
    resetTracks := do let _ ← performWithin e sink .resetTracks }

end Transcoder

end Recode

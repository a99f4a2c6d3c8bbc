import Recode.Bench.Source
import Recode.Stage.Encode

/-!
# A bench for encode stages

An encode stage on its own, fed from a source of raw frames, with a receiver behind
it that gathers what comes out and may report a fault for it.

## Main definitions

* `Encoding`: An encode stage, its source and its receiver.
* `Encoding.perform`: Does something with them.
-/

namespace Recode.Bench

/-- An encode stage, its source and its receiver. -/
structure Encoding (b : Backend) where
  stage : EncodeStage b
  source : Source b
  /-- Without a receiver, what comes out is lost. -/
  attached : Bool
  /-- What the receiver says to every frame. -/
  verdict : Except Fault Unit

namespace Encoding

/-- Something to do with an encode stage and its receiver. -/
inductive Step where
  | input (frame : RawFrame Bytes)
  | flush
  | setVerdict (verdict : Except Fault Unit)

variable {b : Backend} {σ : Type}

/-- The receiver, which gathers frames in the first part of the world. -/
def receiver (c : Encoding b) : Emitter (List AccessUnit × σ) := fun unit => do
  if c.attached then
    .modify fun w => (w.1 ++ [unit], w.2)
    return c.verdict
  else return .ok ()

/-- Does something in a world of which the bench is a part. -/
def performWithin (e : Engine b σ) (c : Encoding b) :
    Step → Act (List AccessUnit × σ) (Except Fault Unit × Encoding b)
  | .input frame => do
    let (frame, source) ← c.source.supply e.onSecond frame
    let (outcome, stage) ← c.stage.input e.onSecond c.receiver frame
    return (outcome, { c with stage, source := source.restore frame.picture })
  | .flush => do
    let (outcome, stage) ← c.stage.flush e.onSecond c.receiver
    return (outcome, { c with stage })
  | .setVerdict verdict => return (.ok (), { c with verdict })

/-- Does something and yields the frames that came out. -/
def perform (e : Engine b σ) (c : Encoding b) (step : Step) :
    Act σ (Except Fault Unit × List AccessUnit × Encoding b) := fun w =>
  let inner := c.performWithin e step ([], w)
  ⟨(inner.value.1, inner.world.1, inner.value.2), inner.notes, inner.world.2⟩

end Encoding

end Recode.Bench

import Recode.Stage.Decode

/-!
# A bench for decode stages

A decode stage on its own, with a receiver behind it that does with the frames as
it is told: it holds them, drops them or reports a fault. Frames that are held keep
their pictures away from the stage until they are released.

## Main definitions

* `Manner`: What the receiver does with a frame.
* `Decoding`: A decode stage and its receiver.
* `Decoding.perform`: Does something with them.
-/

namespace Recode.Bench

/-- What a receiver does with a frame. -/
inductive Manner where
  | hold
  | drop
  /-- Drops the frame and reports a fault. -/
  | fail (fault : Fault)
deriving DecidableEq, Repr

/-- A decode stage and its receiver. -/
structure Decoding (b : Backend) where
  stage : DecodeStage b
  /-- Without a receiver, frames are lost. -/
  attached : Bool
  manner : Manner
  /-- The frames that are held, oldest first. -/
  held : List (RawFrame b.Store)

namespace Decoding

/-- Something to do with a decode stage and its receiver. -/
inductive Step where
  | input (unit : AccessUnit)
  | flush
  /-- Lets go of a held frame; the ones after it move up. -/
  | release (index : Nat)
  /-- Lets go of all held frames, oldest first. -/
  | releaseAll
  | setManner (manner : Manner)
deriving DecidableEq, Repr

variable {b : Backend} {σ : Type}

/-- What a receiver has: the frames it holds and those it was given. -/
structure Tray (b : Backend) where
  held : List (RawFrame b.Store)
  given : List (RawFrame b.Store) := []

/-- The receiver. -/
def receiver (d : Decoding b) : Consumer b σ (Tray b) := fun tray frame =>
  if d.attached then
    let tray := { tray with given := tray.given ++ [frame] }
    match d.manner with
    | .hold => return (⟨.ok (), true⟩, { tray with held := tray.held ++ [frame] })
    | .drop => return (⟨.ok (), false⟩, tray)
    | .fail fault => return (⟨.error fault, false⟩, tray)
  else return (⟨.ok (), false⟩, tray)

/-- Lets go of one held frame. -/
def release (index : Nat) (d : Decoding b) : Decoding b :=
  match d.held[index]? with
  | none => d
  | some frame =>
    { d with stage := d.stage.release frame.picture, held := d.held.eraseIdx index }

/-- Lets go of all held frames. -/
def releaseAll (d : Decoding b) : Decoding b :=
  { d with
    stage := d.held.foldl (fun stage frame => stage.release frame.picture) d.stage
    held := [] }

/-- Does something and yields the frames that were given to the receiver. -/
def perform (e : Engine b σ) (d : Decoding b) :
    Step → Act σ (Except Fault Unit × List (RawFrame b.Store) × Decoding b)
  | .input unit => do
    let (outcome, stage, tray) ← d.stage.feed e d.receiver unit { held := d.held }
    return (outcome, tray.given, { d with stage, held := tray.held })
  | .flush => do
    let (outcome, stage, tray) ← d.stage.flush e d.receiver { held := d.held }
    return (outcome, tray.given, { d with stage, held := tray.held })
  | .release index => return (.ok (), [], d.release index)
  | .releaseAll => return (.ok (), [], d.releaseAll)
  | .setManner manner => return (.ok (), [], { d with manner })

end Decoding

end Recode.Bench

import Recode.Sink

/-!
# Recorders

A sink that keeps a record of everything it is told, in order. It can be made to
refuse the tracks and frames it is offered, all of them or only one; what it
refused is in the record all the same.

## Main definitions

* `Event`: Something a sink is told.
* `Recorder`: The record and what is refused.
* `Recorder.sink`: The sink that keeps the record.
* `Recorder.plainSink`: One that ignores all but tracks and frames.
-/

namespace Recode

/-- Something a sink is told. -/
inductive Event where
  | track (track : Track) (refused : Bool)
  | frame (unit : AccessUnit) (refused : Bool)
  | completed
  | reset
deriving DecidableEq, Repr

/-- What is refused, and with what words. -/
structure Refusal where
  text : String
  /-- The one offer that is refused, counted from zero; all of them if absent. -/
  only : Option Nat
deriving DecidableEq, Repr

/-- The record of a sink. -/
structure Recorder where
  refusal : Option Refusal := none
  /-- How many tracks and frames were offered. -/
  offers : Nat := 0
  /-- What the sink was told, in order. -/
  events : List Event := []
deriving DecidableEq, Repr

namespace Recorder

variable {ρ : Type}

/-- What a recorder says to its next offer. -/
def verdict (r : Recorder) : Except Fault Unit :=
  match r.refusal with
  | none => .ok ()
  | some refusal =>
    if refusal.only.all (· = r.offers) then .error (.sink ⟨refusal.text, []⟩) else .ok ()

/-- Adds an event to the record in the first part of the world. -/
def tell (event : Event) : Act (Recorder × ρ) Unit :=
  .modify fun w => ({ w.1 with events := w.1.events ++ [event] }, w.2)

/-- Answers an offer and adds it to the record. -/
def offer (event : Bool → Event) : Act (Recorder × ρ) (Except Fault Unit) := do
  let world ← .get
  let verdict := world.1.verdict
  .modify fun w => ({ w.1 with offers := w.1.offers + 1 }, w.2)
  tell (event verdict.toOption.isNone)
  return verdict

/-- The sink that keeps the record in the first part of the world. -/
def sink : Sink (Recorder × ρ) :=
  { addTrack := fun track => offer (.track track)
    inputFrame := fun unit => offer (.frame unit)
    tracksCompleted := tell .completed
    resetTracks := tell .reset }

/-- A sink that keeps a record of tracks and frames only. -/
def plainSink : Sink (Recorder × ρ) :=
  .taking (fun track => offer (.track track)) (fun unit => offer (.frame unit))

/-- The tracks in the record. -/
def tracks (r : Recorder) : List Track :=
  r.events.filterMap fun
    | .track track _ => some track
    | _ => none

/-- The frames in the record. -/
def frames (r : Recorder) : List AccessUnit :=
  r.events.filterMap fun
    | .frame unit _ => some unit
    | _ => none

end Recorder

end Recode

import Recode.Bench.Source
import Recode.Stage.Convert

/-!
# A bench for convert stages

A convert stage on its own, fed from a source of raw frames. What comes out may be
kept, to be converted again or let go of later; a frame that passed as it is still
belongs to the source.

## Main definitions

* `Kept`: A frame and whose picture it is in.
* `Converting`: A convert stage, its source and what was kept.
* `Converting.perform`: Does something with them.
-/

namespace Recode.Bench

/-- A frame and whose picture it is in. -/
structure Kept (b : Backend) where
  frame : RawFrame b.Store
  /-- The picture belongs to the stage, not to the source. -/
  ofStage : Bool

/-- A convert stage, its source and what was kept. -/
structure Converting (b : Backend) where
  stage : ConvertStage b
  source : Source b
  /-- The frames that were kept, oldest first. -/
  kept : List (Kept b)

namespace Converting

/-- Something to do with a convert stage. -/
inductive Step where
  | convert (frame : RawFrame Bytes) (keep : Bool)
  /-- Converts the oldest kept frame again and lets go of the result. -/
  | again
  /-- Lets go of the oldest kept frame. -/
  | release
deriving DecidableEq, Repr

variable {b : Backend} {σ : Type}

/-- A stage with a source and nothing kept. -/
def build (target : PixelFormat) (poolSize : Nat) (put : b.Store → Bytes → b.Store) :
    Converting b :=
  ⟨.build target poolSize, .ofPut put, []⟩

/-- Gives the picture of a frame back to its owner. -/
def letGo (k : Kept b) (c : Converting b) : Converting b :=
  if k.ofStage then { c with stage := c.stage.release k.frame.picture }
  else { c with source := c.source.restore k.frame.picture }

/-- Converts a frame, which is let go of if something else comes out. -/
def pass (e : Engine b σ) (k : Kept b) (c : Converting b) : Act σ (Kept b × Converting b) := do
  let (converted?, stage) ← c.stage.convert e k.frame
  let c := { c with stage }
  match converted? with
  | some frame => return (⟨frame, true⟩, c.letGo k)
  | none => return (k, c)

/-- Does something and yields the frame that came out. -/
def perform (e : Engine b σ) (c : Converting b) :
    Step → Act σ (Option (RawFrame b.Store) × Converting b)
  | .convert frame keep => do
    let (frame, source) ← c.source.supply e frame
    let (result, c) ← pass e ⟨frame, false⟩ { c with source }
    if keep then return (some result.frame, { c with kept := c.kept ++ [result] })
    else return (some result.frame, c.letGo result)
  | .again => do
    match c.kept with
    | [] => return (none, c)
    | oldest :: kept =>
      let (result, c) ← pass e oldest { c with kept }
      return (some result.frame, c.letGo result)
  | .release =>
    match c.kept with
    | [] => return (none, c)
    | oldest :: kept => return (none, letGo oldest { c with kept })

end Converting

end Recode.Bench

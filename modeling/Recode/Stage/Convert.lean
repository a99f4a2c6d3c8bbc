import Recode.Engine.Basic
import Recode.Pool

/-!
# Conversion

A convert stage brings pictures to one pixel format. Pictures that are in that
format already, and sound, pass as they are. A conversion is set up when the
first picture needs one and set up anew whenever a picture of another geometry
comes in.

An engine that refuses a geometry is not asked again for as long as pictures of
that geometry keep coming: they pass unconverted, since an encoder may well take
them. A single picture that cannot be converted passes unconverted, too.

## Main definitions

* `Conversion`: What the stage is set up for.
* `ConvertStage`: A converter with its pool.
* `ConvertStage.prepare`: Sets the stage up for a geometry.
* `ConvertStage.convert`: Converts one frame.
-/

namespace Recode

/-- What a convert stage is set up for. -/
inductive Conversion (b : Backend) where
  /-- Nothing yet. -/
  | idle
  /-- Pictures of this geometry. -/
  | ready (context : b.Converter) (geometry : Geometry)
  /-- The engine refused this geometry. -/
  | refused (geometry : Geometry)

/-- A converter with its pool. -/
structure ConvertStage (b : Backend) where
  /-- The format that pictures are brought to. -/
  target : PixelFormat
  conversion : Conversion b
  pool : Pool (Picture b.Store)

namespace ConvertStage

variable {b : Backend} {σ : Type}

/-- A stage that is set up for nothing yet. -/
def build (target : PixelFormat) (poolSize : Nat) : ConvertStage b :=
  { target, conversion := .idle, pool := .ofCapacity poolSize }

/-- The stage has a conversion to use. -/
def isReady (s : ConvertStage b) : Bool :=
  match s.conversion with
  | .ready .. => true
  | _ => false

/-- Asks the engine for a conversion from the given geometry. -/
def openConversion (e : Engine b σ) (geometry : Geometry) (target : PixelFormat) :
    Act σ (Conversion b) := do
  match ← e.openConverter geometry target with
  | .ok context =>
    .note (.converterReady geometry target)
    return .ready context geometry
  | .error cause =>
    .note (.converterRefused geometry target cause)
    return .refused geometry

/-- The conversion for a geometry: the one at hand if it fits, else a new one. -/
def prepare (e : Engine b σ) (geometry : Geometry) (s : ConvertStage b) : Act σ (Conversion b) :=
  match s.conversion with
  | .ready context current =>
    if current = geometry then return .ready context current
    else do
      .note (.geometryChanged current geometry)
      openConversion e geometry s.target
  | .refused current =>
    if current = geometry then return .refused current else openConversion e geometry s.target
  | .idle => openConversion e geometry s.target

/-- Converts one frame. Without a result the frame passes as it is. The result is a
    picture of the stage's own pool, with the times and the origin of the frame. -/
def convert (e : Engine b σ) (frame : RawFrame b.Store) (s : ConvertStage b) :
    Act σ (Option (RawFrame b.Store) × ConvertStage b) := do
  match frame.picture.geometry? with
  | none => return (none, s)
  | some geometry =>
    if geometry.format = s.target then return (none, s)
    else
      match ← s.prepare e geometry with
      | .ready context geometry =>
        let (blank, pool) ← s.pool.obtain e.fresh e.recycle
        let converted ← e.convert context frame.picture blank
        let s := { s with conversion := .ready converted.context geometry }
        match converted.outcome with
        | .ok _ =>
          let picture :=
            { converted.picture with pts := frame.picture.pts, dts := frame.picture.dts }
          return (some ⟨picture, frame.source⟩, { s with pool })
        | .error cause =>
          .note (.convertFailed geometry.format s.target cause)
          return (none, { s with pool := pool.restore converted.picture })
      | other => return (none, { s with conversion := other })

/-- Gives a picture back to the pool. -/
def release (picture : Picture b.Store) (s : ConvertStage b) : ConvertStage b :=
  { s with pool := s.pool.restore picture }

end ConvertStage

end Recode

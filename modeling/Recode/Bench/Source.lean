import Recode.Engine.Basic
import Recode.Pool

/-!
# Sources of raw frames

A bench that feeds raw frames to a stage needs pictures of the engine's own making
to put them in. It takes them from a pool of its own, so that it can be seen when
the stage lets go of them.

## Main definitions

* `Source`: The pool that raw frames are put into pictures of.
* `Source.supply`: Puts a raw frame into a picture.
* `Source.restore`: Takes a picture back.
-/

namespace Recode.Bench

/-- The pool of pictures that raw frames are put into, and how data is put into a
    store. -/
structure Source (b : Backend) where
  pool : Pool (Picture b.Store)
  put : b.Store → Bytes → b.Store

namespace Source

variable {b : Backend} {σ : Type}

/-- A source with room for eight idle pictures. -/
def ofPut (put : b.Store → Bytes → b.Store) : Source b := ⟨.ofCapacity 8, put⟩

/-- Puts a raw frame into a picture of the engine's. -/
def supply (e : Engine b σ) (frame : RawFrame Bytes) (s : Source b) :
    Act σ (RawFrame b.Store × Source b) := do
  let (blank, pool) ← s.pool.obtain e.fresh e.recycle
  let picture := frame.picture.withStore (s.put blank.store frame.picture.store)
  return (⟨picture, frame.source⟩, { s with pool })

/-- Takes a picture back. -/
def restore (picture : Picture b.Store) (s : Source b) : Source b :=
  { s with pool := s.pool.restore picture }

end Source

end Recode.Bench

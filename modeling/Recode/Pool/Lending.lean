import Recode.Buffer
import Recode.Pool

/-!
# Lending

A pool together with the buffers it has lent out. Each buffer taken from the pool
is held under a handle, and the handles are numbered in the order in which they
are given out. A handle dies when its buffer is returned; whatever is done with a
dead handle has no effect.

The pool may go before its buffers come back. A live handle stays good then, and
its buffer is let go when the handle dies.

## Main definitions

* `Lending`: A pool and the buffers it has lent out.
* `Lending.Move`: Something to do with them.
* `Lending.step`, `Lending.run`: Does it.
-/

namespace Recode

/-- A pool and the buffers it has lent out. -/
structure Lending (α : Type := Bytes) where
  /-- The pool, until it is dropped. -/
  pool : Option (Pool (Buffer α))
  /-- The buffer under each handle, until it is returned. -/
  handles : List (Option (Buffer α))
  /-- How many buffers have been made. -/
  made : Nat
deriving DecidableEq, Repr

namespace Lending

/-- Something to do with a pool and its handles. -/
inductive Move (δ : Type := Bytes) where
  /-- Takes a buffer from the pool under the next handle. -/
  | obtain
  /-- Writes to the buffer under a handle. -/
  | write (handle : Nat) (change : δ)
  /-- Looks at the buffer under a handle. -/
  | read (handle : Nat)
  /-- Returns the buffer under a handle. -/
  | drop (handle : Nat)
  /-- Returns all buffers, those under earlier handles first. -/
  | dropAll
  /-- Changes the capacity of the pool. -/
  | configure (capacity : Nat)
  /-- Drops the pool with what is idle in it. -/
  | dropPool
deriving DecidableEq, Repr

variable {α δ : Type}

/-- An empty pool that has lent nothing. -/
def ofCapacity (capacity : Nat) : Lending α := ⟨some (.ofCapacity capacity), [], 0⟩

/-- The buffer under a live handle. -/
def held? (l : Lending α) (handle : Nat) : Option (Buffer α) := l.handles[handle]?.join

variable [Contents α δ]

/-- Makes a buffer with the next number. -/
def make : StateM Nat (Buffer α) := fun made => (.ofSerial (made + 1), made + 1)

/-- Takes a buffer from the pool, if there still is one. -/
def obtain (l : Lending α) : Option (Buffer α) × Lending α :=
  match l.pool with
  | none => (none, l)
  | some pool =>
    let ((buffer, pool), made) := (pool.obtain make Buffer.recycle).run l.made
    (some buffer, { pool := some pool, handles := l.handles ++ [some buffer], made })

/-- Writes to the buffer under a handle. -/
def write (l : Lending α) (handle : Nat) (change : δ) : Option (Buffer α) × Lending α :=
  match l.held? handle with
  | none => (none, l)
  | some buffer =>
    let buffer := buffer.write change
    (some buffer, { l with handles := l.handles.set handle (some buffer) })

/-- Returns the buffer under a handle. -/
def drop (l : Lending α) (handle : Nat) : Lending α :=
  match l.held? handle with
  | none => l
  | some buffer =>
    { l with pool := l.pool.map (·.restore buffer), handles := l.handles.set handle none }

/-- Returns all buffers, those under earlier handles first. -/
def dropAll (l : Lending α) : Lending α := (List.range l.handles.length).foldl drop l

/-- Makes one move and yields the buffer it was about, if the move shows it. -/
def step (l : Lending α) : Move δ → Option (Buffer α) × Lending α
  | .obtain => l.obtain
  | .write handle change => l.write handle change
  | .read handle => (l.held? handle, l)
  | .drop handle => (none, l.drop handle)
  | .dropAll => (none, l.dropAll)
  | .configure capacity => (none, { l with pool := l.pool.map (·.configure capacity) })
  | .dropPool => (none, { l with pool := none })

/-- Makes one move after another. -/
def run (l : Lending α) (moves : List (Move δ)) : Lending α :=
  moves.foldl (fun l move => (l.step move).2) l

end Lending

end Recode

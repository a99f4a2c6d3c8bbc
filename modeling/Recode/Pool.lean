/-!
# Pools

A pool keeps values that are in no use at the moment, so that a stage need not
make a new one for every frame. A value taken from the pool is reset first, and
only an empty pool makes a new one. A value given back is kept as long as the
pool holds fewer than its capacity; otherwise it is let go.

The value given back last is taken first. When the capacity shrinks, the values
that have been idle longest stay.

## Main definitions

* `Pool`: Idle values and how many may be kept.
* `Pool.obtain`: Takes a value.
* `Pool.restore`: Gives a value back.
* `Pool.configure`: Changes the capacity.

## Theorems

* `Pool.bounded_ofCapacity`, `Pool.bounded_restore`, `Pool.bounded_configure`: No
  more values are kept than the capacity allows.
-/

namespace Recode

/-- Values in no use at the moment and how many may be kept. -/
structure Pool (α : Type) where
  capacity : Nat
  /-- The idle values, the one given back last in front. -/
  idle : List α
deriving DecidableEq, Repr

namespace Pool

variable {α : Type}

/-- A pool that keeps nothing yet. -/
def ofCapacity (capacity : Nat) : Pool α := ⟨capacity, []⟩

/-- How many values are idle. -/
def available (p : Pool α) : Nat := p.idle.length

/-- Takes the value given back last, reset by `recycle`; if none is idle, a value
    that `fresh` makes. -/
def obtain {m : Type → Type} [Monad m] (fresh : m α) (recycle : α → α) (p : Pool α) :
    m (α × Pool α) :=
  match p.idle with
  | [] => do return (← fresh, p)
  | a :: rest => return (recycle a, { p with idle := rest })

/-- Gives a value back; it is kept if there is room. -/
def restore (a : α) (p : Pool α) : Pool α :=
  if p.idle.length < p.capacity then { p with idle := a :: p.idle } else p

/-- Changes the capacity. Of the idle values those given back first are kept. -/
def configure (capacity : Nat) (p : Pool α) : Pool α :=
  ⟨capacity, p.idle.drop (p.idle.length - capacity)⟩

/-- No more values are kept than the capacity allows. -/
def Bounded (p : Pool α) : Prop := p.available ≤ p.capacity

theorem bounded_ofCapacity (capacity : Nat) : (ofCapacity capacity : Pool α).Bounded :=
  Nat.zero_le _

theorem bounded_restore {p : Pool α} (h : p.Bounded) (a : α) : (p.restore a).Bounded := by
  unfold restore
  split
  · next hlt => exact hlt
  · exact h

theorem bounded_configure (capacity : Nat) (p : Pool α) : (p.configure capacity).Bounded := by
  simp only [Bounded, available, configure, List.length_drop]
  omega

end Pool

end Recode

/-!
# Delay lines

A codec may keep a number of frames back before it yields the first one, and
yields them in order. A delay line is just that. It is filled to its delay before
anything comes out; at the end of the stream what is left is pulled out of it, and
from then on the line is ended.

## Main definitions

* `DelayLine`: Things kept back, in order.
* `DelayLine.push`: Puts something in and takes out what is due.
* `DelayLine.pull`: Takes out the oldest at the end of the stream.

## Theorems

* `DelayLine.length_of_pull`: Pulling something out shortens the line.
-/

namespace Recode

/-- Things kept back, in order. -/
structure DelayLine (α : Type) where
  /-- How many things are kept back before the first comes out. -/
  delay : Nat
  /-- What is kept back, oldest first. -/
  waiting : List α
  /-- The end of the stream was seen. -/
  ended : Bool
deriving DecidableEq, Repr

namespace DelayLine

variable {α : Type}

/-- A line with nothing in it. -/
def ofDelay (delay : Nat) : DelayLine α := ⟨delay, [], false⟩

/-- Puts something in. Once the line is full, the oldest comes out. -/
def push (a : α) (l : DelayLine α) : Option α × DelayLine α :=
  if l.waiting.length < l.delay then (none, { l with waiting := l.waiting ++ [a] })
  else
    match l.waiting with
    | [] => (some a, l)
    | oldest :: rest => (some oldest, { l with waiting := rest ++ [a] })

/-- Notes the end of the stream. -/
def finish (l : DelayLine α) : DelayLine α := { l with ended := true }

/-- Notes the end of the stream and takes out the oldest. -/
def pull (l : DelayLine α) : Option (α × DelayLine α) :=
  match l.waiting with
  | [] => none
  | oldest :: rest => some (oldest, { l with waiting := rest, ended := true })

theorem length_of_pull {l next : DelayLine α} {a : α} (h : l.pull = some (a, next)) :
    next.waiting.length < l.waiting.length := by
  unfold pull at h
  split at h
  · cases h
  · next heq =>
    cases h
    simp [heq]

end DelayLine

end Recode

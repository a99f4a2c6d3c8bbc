import Recode.Nal.StartCode

/-!
# Buffers

Storage that can be told apart. Every buffer has a serial number and counts how
often it has been reset for reuse, so that one can follow a buffer through the
pools of a pipeline.

What a buffer holds does not matter for that. It has to be known what a new buffer
holds, what is left of it when the buffer is reset, and what it means to write to
it. Buffers of bytes start out empty, lose everything when they are reset, and are
written to at their end.

## Main definitions

* `Contents`: What buffers may hold.
* `Buffer`: Numbered storage.
* `Buffer.recycle`: Resets a buffer for reuse.
-/

namespace Recode

/-- What buffers may hold, and what is written to them. -/
class Contents (α : Type) (δ : outParam Type) where
  /-- What a new buffer holds. -/
  blank : α
  /-- What is left when a buffer is reset for reuse. -/
  reset : α → α
  /-- What a buffer holds after something was written to it. -/
  write : δ → α → α

instance : Contents Bytes Bytes where
  blank := []
  reset := fun _ => []
  write := fun data held => held ++ data

/-- Numbered storage. -/
structure Buffer (α : Type := Bytes) where
  serial : Nat
  /-- How often the buffer has been reset. -/
  recycled : Nat
  data : α
deriving DecidableEq, Repr

namespace Buffer

variable {α δ : Type} [Contents α δ]

/-- A new buffer with the given number. -/
def ofSerial (serial : Nat) : Buffer α := ⟨serial, 0, Contents.blank⟩

/-- Resets a buffer for reuse: the number stays, the data is reset. -/
def recycle (b : Buffer α) : Buffer α :=
  { b with recycled := b.recycled + 1, data := Contents.reset b.data }

/-- Writes to a buffer. -/
def write (change : δ) (b : Buffer α) : Buffer α :=
  { b with data := Contents.write change b.data }

@[simp] theorem serial_ofSerial (serial : Nat) : (ofSerial serial : Buffer α).serial = serial := rfl

@[simp] theorem serial_recycle (b : Buffer α) : b.recycle.serial = b.serial := rfl

@[simp] theorem serial_write (change : δ) (b : Buffer α) : (b.write change).serial = b.serial := rfl

@[simp] theorem recycled_write (change : δ) (b : Buffer α) :
    (b.write change).recycled = b.recycled := rfl

end Buffer

end Recode

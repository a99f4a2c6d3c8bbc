import Mathlib.Tactic.Ring
import Recode.Nal.LengthPrefixed

/-!
# Writing length-prefixed units

The reader of length-prefixed units is given a writer here, so that what a
container stores can be said without the reader: every unit behind its length,
in a fixed number of bytes.

Reading back what was written gives the units themselves. Two conditions make
this work, and both are what a container guarantees: no unit is empty, since a
zero length ends the reading, and every length fits its field. The reader counts
in words of 64 bits, so fields beyond eight bytes are outside this theory.

## Main definitions

* `bigEndianBytes`: A number in a fixed number of bytes.
* `lengthPrefixed`: Units behind their lengths.

## Theorems

* `bigEndian_append`: A row of bytes read after another one.
* `bigEndian_bigEndianBytes`: A number that fits its bytes is read back.
* `lengthPrefixedUnits_lengthPrefixed`: Units are read back from behind their
  lengths.
* `length_lengthPrefixed`: The size of what is written.
-/

namespace Recode

namespace Nal

/-- A number in `size` bytes, most significant byte first. What does not fit is
    cut off at the front. -/
def bigEndianBytes : Nat → Nat → Bytes
  | 0, _ => []
  | size + 1, n => bigEndianBytes size (n / 256) ++ [UInt8.ofNat n]

/-- Units behind their lengths, each length in `size` bytes. -/
def lengthPrefixed (size : Nat) (units : List Bytes) : Bytes :=
  units.flatMap fun u => bigEndianBytes size u.length ++ u

@[simp] theorem lengthPrefixed_nil (size : Nat) : lengthPrefixed size [] = [] := rfl

@[simp] theorem lengthPrefixed_cons (size : Nat) (u : Bytes) (us : List Bytes) :
    lengthPrefixed size (u :: us)
      = bigEndianBytes size u.length ++ (u ++ lengthPrefixed size us) := by
  simp only [lengthPrefixed, List.flatMap_cons, List.append_assoc]

@[simp] theorem length_bigEndianBytes (size n : Nat) : (bigEndianBytes size n).length = size := by
  induction size generalizing n with
  | zero => rfl
  | succ k ih => simp only [bigEndianBytes, List.length_append, List.length_singleton, ih]

/-- Further bytes shift the number that was read before them. -/
theorem bigEndian_append (xs ys : Bytes) :
    bigEndian (xs ++ ys) = bigEndian xs * 256 ^ ys.length + bigEndian ys := by
  -- Reading goes on from the number read so far, which every further byte scales.
  have hfrom : ∀ (ys : Bytes) (n : Nat),
      ys.foldl (fun n b => n * 256 + b.toNat) n
        = n * 256 ^ ys.length + ys.foldl (fun n b => n * 256 + b.toNat) 0 := by
    intro ys
    induction ys with
    | nil => intro n; simp only [List.foldl_nil, List.length_nil, pow_zero, mul_one, add_zero]
    | cons b ys ih =>
        intro n
        rw [List.foldl_cons, List.foldl_cons, ih (n * 256 + b.toNat), ih (0 * 256 + b.toNat),
          List.length_cons, pow_succ]
        ring
  rw [bigEndian, List.foldl_append, hfrom ys]
  rfl

/-- A number that fits its bytes is read back. -/
theorem bigEndian_bigEndianBytes (size n : Nat) (h : n < 256 ^ size) :
    bigEndian (bigEndianBytes size n) = n := by
  induction size generalizing n with
  | zero =>
      rw [pow_zero] at h
      rw [Nat.lt_one_iff.mp h]
      rfl
  | succ k ih =>
      -- The last byte is what the division by 256 leaves over.
      have hlast : bigEndian [UInt8.ofNat n] = n % 256 := by
        simp only [bigEndian, List.foldl_cons, List.foldl_nil, UInt8.toNat_ofNat']
        omega
      have hrest : n / 256 < 256 ^ k := by
        rw [pow_succ] at h
        exact Nat.div_lt_of_lt_mul (by omega)
      rw [bigEndianBytes, bigEndian_append, ih (n / 256) hrest, hlast, List.length_singleton,
        pow_one]
      omega

/-- A length that fits its field is what the reader takes it for. -/
theorem unitLength_bigEndianBytes {size n : Nat} (hsize : size ≤ 8) (h : n < 256 ^ size) :
    unitLength (bigEndianBytes size n) = n := by
  have hword : n < UInt64.size := by
    calc n < 256 ^ size := h
      _ ≤ 256 ^ 8 := Nat.pow_le_pow_right (by omega) hsize
      _ = UInt64.size := by norm_num
  rw [unitLength, bigEndian_bigEndianBytes size n h, Nat.mod_eq_of_lt hword]

/-- Units are read back from behind their lengths. -/
theorem lengthPrefixedUnits_lengthPrefixed {size : Nat} (hpos : 0 < size) (hsize : size ≤ 8)
    (units : List Bytes) (hne : ∀ u ∈ units, u ≠ []) (hlt : ∀ u ∈ units, u.length < 256 ^ size) :
    lengthPrefixedUnits size (lengthPrefixed size units) = units := by
  induction units with
  | nil => exact lengthPrefixedUnits_of_short hpos
  | cons u us ih =>
      -- The length is read first, and says where the unit ends.
      have hfield : unitLength (bigEndianBytes size u.length) = u.length :=
        unitLength_bigEndianBytes hsize (hlt u (List.mem_cons_self ..))
      have hcons := lengthPrefixedUnits_cons (bigEndianBytes size u.length) u
        (lengthPrefixed size us) hfield (hne u (List.mem_cons_self ..))
      rw [length_bigEndianBytes] at hcons
      rw [lengthPrefixed_cons, hcons, ih (fun v hv => hne v (List.mem_cons_of_mem u hv))
        (fun v hv => hlt v (List.mem_cons_of_mem u hv))]

theorem length_lengthPrefixed (size : Nat) (units : List Bytes) :
    (lengthPrefixed size units).length = units.length * size + (units.map List.length).sum := by
  induction units with
  | nil =>
      simp only [lengthPrefixed_nil, List.length_nil, List.map_nil, List.sum_nil, zero_mul,
        Nat.add_zero]
  | cons u us ih =>
      rw [lengthPrefixed_cons, List.length_append, List.length_append, length_bigEndianBytes, ih,
        List.length_cons, List.map_cons, List.sum_cons]
      ring

end Nal

end Recode

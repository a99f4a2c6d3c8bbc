import Recode.Proofs.Nal.Record
import Recode.Proofs.Nal.Salvage

/-!
# Reading by offsets

The readers of this library go through a byte string from front to back and hold on
to what is left of it. A machine holds on to an offset, in a word of 64 bits, and adds
to it the lengths that it has read. This can fail in two ways that the readers have no
words for. A sum may be too large for its word, and an offset may point behind the
end. Here everything is read once more, by offsets, with a check at every sum and at
every access, and no check fails, whatever the bytes are.

One invariant carries this: an offset that a loop goes on with does not exceed the
length of the byte string. So a sum is made of an offset below 2 ^ 63 and a number
that is small, since it was read from no more than four bytes. Two bytes hold the
length of a parameter set, and how many bytes hold the length of a unit was read from
two bits of the record. That is the only thing the two byte strings have to do with
each other. With fields of eight bytes the sums would not be safe.

The counted loops take a round for each unit they were told of and break off if one is
missing. The loop over a packet is not counted. It ends because a length of zero ends
it, so that every other round moves the offset on.

Memory is left out. Nothing is said about where the bytes go that a loop has copied, nor
about the room that is set aside for them.

## Main definitions

* `ByOffset.Trap`: The two ways to fail.
* `ByOffset.add`, `ByOffset.shiftIn`, `ByOffset.byteAt`, `ByOffset.slice`: Sums and
  accesses, with their checks.
* `ByOffset.Course`: The rounds of a loop, and what it came to.
* `ByOffset.repeatRound`: A counted loop.
* `ByOffset.ofAvcc`, `ByOffset.ofHvcc`, `ByOffset.ofExtraData`: Reading a record.
* `ByOffset.convert`, `ByOffset.apply`: Reframing a packet.
* `ByOffset.run`: A filter and its packets.

## Theorems

* `ByOffset.repeatRound_ok`: A counted loop reads what the recursion on a rest reads.
* `ByOffset.nextUnit_grows`: Every round over a packet moves the offset on.
* `ByOffset.convert_ok`: The loop over a packet ends with the units that are read.
* `ByOffset.run_ok`: No check fails, and the outcome is that of the readers.
-/

namespace Recode

namespace ByOffset

open Nal

/-- What makes a computation on words and byte strings fail. -/
inductive Trap where
  /-- A number does not fit its word. -/
  | overflow
  /-- Bytes were asked for that are not there. -/
  | outOfBounds
deriving DecidableEq, Repr

/-- The sum of two words. -/
def add (a b : UInt64) : Except Trap UInt64 :=
  if a.toNat + b.toNat < UInt64.size then .ok (a + b) else .error .overflow

/-- A number with one more byte behind it. -/
def shiftIn (n : UInt64) (b : UInt8) : Except Trap UInt64 :=
  if n.toNat * 256 + b.toNat < UInt64.size then .ok (n <<< 8 ||| b.toUInt64)
  else .error .overflow

/-- The byte at an offset. -/
def byteAt (data : Bytes) (offset : UInt64) : Except Trap UInt8 :=
  match data[offset.toNat]? with
  | some b => .ok b
  | none => .error .outOfBounds

/-- The bytes from one offset to another, if they are there. -/
def slice? (data : Bytes) (start stop : UInt64) : Option Bytes :=
  if start.toNat ≤ stop.toNat ∧ stop.toNat ≤ data.length then
    some ((data.drop start.toNat).take (stop.toNat - start.toNat))
  else none

/-- The bytes from one offset to another, which have to be there. -/
def slice (data : Bytes) (start stop : UInt64) : Except Trap Bytes :=
  match slice? data start stop with
  | some bytes => .ok bytes
  | none => .error .outOfBounds

/-- The number written by a row of bytes. -/
def wordOf (bytes : Bytes) : Except Trap UInt64 := bytes.foldlM shiftIn 0

/-- How a loop went: the offsets at which its rounds began, and what it came to. -/
structure Course (α : Type) where
  offsets : List UInt64
  outcome : α
deriving DecidableEq, Repr

/-- A loop that is told the number of its rounds. A round copies a piece and hands on an
    offset, or finds nothing to copy, and then the loop is over without an outcome. -/
def repeatRound (round : UInt64 → Except Trap (Option (Bytes × UInt64))) :
    Nat → UInt64 → Except Trap (Course (Option (Bytes × UInt64)))
  | 0, offset => .ok ⟨[], some ([], offset)⟩
  | count + 1, offset => do
    match ← round offset with
    -- What was copied before counts for nothing if a unit is missing.
    | none => return ⟨[offset], none⟩
    | some (piece, next) =>
      let course ← repeatRound round count next
      return ⟨offset :: course.offsets,
        course.outcome.map fun (pieces, last) => (piece ++ pieces, last)⟩

/-! ## Reading a record -/

/-- The number in the two bytes at an offset, if they are there. -/
def readPair (data : Bytes) (offset : UInt64) : Except Trap (Option UInt64) := do
  let stop ← add offset 2
  match slice? data offset stop with
  | none => return none
  | some bytes =>
    let high ← byteAt bytes 0
    let low ← byteAt bytes 1
    return some (← shiftIn high.toUInt64 low)

/-- The unit behind the 16-bit length at an offset, and the offset behind it. -/
def copyUnit (data : Bytes) (offset : UInt64) : Except Trap (Option (Bytes × UInt64)) := do
  match ← readPair data offset with
  | none => return none
  | some n =>
    let start ← add offset 2
    let stop ← add start n
    return (slice? data start stop).map fun unit => (startCode ++ unit, stop)

/-- The units from an offset on, as many as there should be. -/
def copyUnits (data : Bytes) (count : Nat) (offset : UInt64) :
    Except Trap (Course (Option (Bytes × UInt64))) :=
  repeatRound (copyUnit data) count offset

/-- The units of the group at an offset, and the offset behind it. -/
def copyArray (data : Bytes) (offset : UInt64) : Except Trap (Option (Bytes × UInt64)) := do
  -- The byte at the offset says what the units are. Nobody asks.
  match ← readPair data (← add offset 1) with
  | none => return none
  | some count => return (← copyUnits data count.toNat (← add offset 3)).outcome

/-- The units behind the count in the byte at an offset, and the offset behind them. -/
def copyCounted (data : Bytes) (offset : UInt64) : Except Trap (Option (Bytes × UInt64)) := do
  match data[offset.toNat]? with
  | none => return none
  | some count => return (← copyUnits data count.toNat (← add offset 1)).outcome

/-- The parameter sets and the length size of a record in the H.264 layout. -/
def ofAvcc (record : Bytes) : Except Trap (Option (Bytes × UInt64)) := do
  if record.length < 7 then return none
  if (← byteAt record 0) ≠ 1 then return none
  let lengthSize ← add ((← byteAt record 4) &&& 0x03).toUInt64 1
  let sequenceCount := ((← byteAt record 5) &&& 0x1f).toNat
  match (← copyUnits record sequenceCount 6).outcome with
  | none => return none
  | some (sequenceSets, offset) =>
    return (← copyCounted record offset).map fun (pictureSets, _) =>
      (sequenceSets ++ pictureSets, lengthSize)

/-- The parameter sets and the length size of a record in the H.265 layout. -/
def ofHvcc (record : Bytes) : Except Trap (Option (Bytes × UInt64)) := do
  if record.length < 23 then return none
  if (← byteAt record 0) ≠ 1 then return none
  let lengthSize ← add ((← byteAt record 21) &&& 0x03).toUInt64 1
  let arrayCount := (← byteAt record 22).toNat
  let arrays ← repeatRound (copyArray record) arrayCount 23
  return arrays.outcome.map fun (sets, _) => (sets, lengthSize)

/-- The parameter sets and the length size that the extra data of a stream give. -/
def ofExtraData (codec : Codec) (extraData : Option Bytes) :
    Except Trap (Option (Bytes × UInt64)) :=
  match extraData with
  | none => .ok none
  | some data =>
    if isAnnexB data then .ok none
    else
      match codec with
      | .h264 => ofAvcc data
      | .h265 => ofHvcc data
      | _ => .ok none

/-! ## Reframing a packet -/

/-- The unit behind the length at an offset, and the offset behind it. -/
def nextUnit (data : Bytes) (size offset : UInt64) : Except Trap (Option (Bytes × UInt64)) := do
  let start ← add offset size
  if data.length < start.toNat then return none
  let n ← wordOf (← slice data offset start)
  if n = 0 then return none
  let stop ← add start n
  -- The sum has to be right before it can be compared.
  if data.length < stop.toNat then return none
  return some (startCode ++ (← slice data start stop), stop)

theorem exists_of_bind_eq_ok {α β : Type} {x : Except Trap α} {f : α → Except Trap β} {b : β}
    (h : (x >>= f) = .ok b) : ∃ a, x = .ok a ∧ f a = .ok b := by
  cases x with
  | error trap => cases h
  | ok a => exact ⟨a, rfl, h⟩

theorem toNat_of_add_eq_ok {a b c : UInt64} (h : add a b = .ok c) :
    c.toNat = a.toNat + b.toNat := by
  rw [add] at h
  split at h
  · next hlt =>
      cases h
      rw [UInt64.toNat_add]
      exact Nat.mod_eq_of_lt hlt
  · cases h

/-- A round that finds a unit moves the offset on, and not behind the end. -/
theorem nextUnit_grows {data piece : Bytes} {size offset next : UInt64}
    (h : nextUnit data size offset = .ok (some (piece, next))) :
    offset.toNat < next.toNat ∧ next.toNat ≤ data.length := by
  obtain ⟨start, hstart, h⟩ := exists_of_bind_eq_ok h
  -- Every guard that the round has passed says something about the offset behind it.
  split at h
  · cases h
  · obtain ⟨field, -, h⟩ := exists_of_bind_eq_ok h
    obtain ⟨n, -, h⟩ := exists_of_bind_eq_ok h
    split at h
    · cases h
    · next hn =>
        obtain ⟨stop, hstop, h⟩ := exists_of_bind_eq_ok h
        split at h
        · cases h
        · next hroom =>
            obtain ⟨unit, -, h⟩ := exists_of_bind_eq_ok h
            cases h
            -- The sums are those of numbers, and a length of zero has ended the loop before.
            have hpos : n.toNat ≠ 0 := fun hzero => hn (UInt64.toNat_inj.mp hzero)
            have hstart := toNat_of_add_eq_ok hstart
            have hstop := toNat_of_add_eq_ok hstop
            omega

/-- The units of a packet from an offset on. -/
def convert (data : Bytes) (size offset : UInt64) : Except Trap (Course Bytes) :=
  match _h : nextUnit data size offset with
  | .error trap => .error trap
  | .ok none => .ok ⟨[offset], []⟩
  | .ok (some (piece, next)) => do
    let course ← convert data size next
    return ⟨offset :: course.offsets, piece ++ course.outcome⟩
termination_by data.length - offset.toNat
decreasing_by
  have hgrows := nextUnit_grows _h
  omega

/-- Reframes a packet by what the extra data gave. -/
def apply (parsed : Option (Bytes × UInt64)) (packet : Bytes) (key : Bool) : Except Trap Bytes :=
  match parsed with
  | none => .ok packet
  | some (sets, size) =>
    if isAnnexB packet then .ok packet
    else do
      let course ← convert packet size 0
      return if key && !sets.isEmpty then sets ++ course.outcome else course.outcome

/-- Reads the extra data of a stream and reframes its packets. -/
def run (codec : Codec) (extraData : Option Bytes) (packets : List (Bytes × Bool)) :
    Except Trap (List Bytes) := do
  let parsed ← ofExtraData codec extraData
  packets.mapM fun packet => apply parsed packet.1 packet.2

/-! ## Sums and accesses -/

variable {data : Bytes}

/-- An offset below 2 ^ 63 and a number below it have a sum. -/
theorem add_ok (offset n : UInt64) (hoffset : offset.toNat ≤ 2 ^ 63) (hn : n.toNat < 2 ^ 63) :
    ∃ stop, add offset n = .ok stop ∧ stop.toNat = offset.toNat + n.toNat := by
  have hadd : add offset n = .ok (offset + n) := if_pos (by rw [UInt64.size]; omega)
  exact ⟨offset + n, hadd, toNat_of_add_eq_ok hadd⟩

/-- A number with room for one more byte takes it. -/
theorem shiftIn_ok {n : UInt64} {b : UInt8} (h : n.toNat * 256 + b.toNat < 2 ^ 64) :
    ∃ m, shiftIn n b = .ok m ∧ m.toNat = n.toNat * 256 + b.toNat := by
  refine ⟨n <<< 8 ||| b.toUInt64, if_pos h, ?_⟩
  have hb : b.toNat < 2 ^ 8 := b.toNat_lt
  have hshift : n.toNat <<< 8 = n.toNat * 256 := Nat.shiftLeft_eq n.toNat 8
  have hword : (n <<< 8).toNat = n.toNat <<< 8 := by
    rw [UInt64.toNat_shiftLeft, show (8 : UInt64).toNat % 64 = 8 from rfl]
    exact Nat.mod_eq_of_lt (by omega)
  -- The low eight bits are free, so that setting bits there is adding.
  rw [UInt64.toNat_or, UInt8.toNat_toUInt64, hword, ← Nat.shiftLeft_add_eq_or_of_lt hb, hshift]

/-- Bytes that write a number of 64 bits are read as that number. -/
theorem wordOf_ok {bytes : Bytes} (h : bigEndian bytes < 2 ^ 64) :
    ∃ n, wordOf bytes = .ok n ∧ n.toNat = bigEndian bytes := by
  -- From the back, because a number in front of the last byte is smaller than the whole.
  induction bytes using List.reverseRecOn with
  | nil => exact ⟨0, rfl, rfl⟩
  | append_singleton bytes b ih =>
      have hsum : bigEndian (bytes ++ [b]) = bigEndian bytes * 256 + b.toNat := by
        simp only [bigEndian, List.foldl_append, List.foldl_cons, List.foldl_nil]
      rw [hsum] at h ⊢
      obtain ⟨front, hfront, hvalue⟩ := ih (by omega)
      rw [← hvalue] at h ⊢
      obtain ⟨n, hn, hnumber⟩ := shiftIn_ok h
      refine ⟨n, ?_, hnumber⟩
      rw [wordOf, List.foldlM_append, ← wordOf, hfront]
      exact (bind_pure (shiftIn front b)).trans hn

theorem byteAt_ok {offset : UInt64} (h : offset.toNat < data.length) :
    byteAt data offset = .ok data[offset.toNat] := by
  rw [byteAt, List.getElem?_eq_getElem h]

/-- What stands between two offsets, the one a number behind the other. -/
theorem slice?_eq {start stop : UInt64} {n : Nat} (h : stop.toNat = start.toNat + n) :
    slice? data start stop
      = if stop.toNat ≤ data.length then some ((data.drop start.toNat).take n) else none := by
  have hlength : stop.toNat - start.toNat = n := by omega
  rw [slice?, hlength]
  simp only [h, Nat.le_add_right, true_and]

/-! ## Counted loops -/

/-- A loop by offsets and a reader come to the same: both find nothing, or the loop has
    copied the units and holds on to the offset at which the rest begins. -/
inductive Located (data : Bytes) :
    Option (Bytes × UInt64) → Option (List Bytes × Bytes) → Prop
  | nothing : Located data none none
  | reached (units : List Bytes) (offset : UInt64) (h : offset.toNat ≤ data.length) :
      Located data (some (frameUnits units, offset)) (some (units, data.drop offset.toNat))

/-- With less than two bytes left, no length is read. -/
theorem readPair_of_short {offset : UInt64} (hoffset : offset.toNat ≤ 2 ^ 63)
    (h : (data.drop offset.toNat).length < 2) : readPair data offset = .ok none := by
  obtain ⟨stop, hadd, hstop⟩ := add_ok offset 2 hoffset (by decide)
  rw [show (2 : UInt64).toNat = 2 from rfl] at hstop
  rw [List.length_drop] at h
  have hslice : slice? data offset stop = none := by
    rw [slice?_eq hstop, if_neg (by omega)]
  rw [readPair, hadd]
  simp only [bind, Except.bind, hslice]
  rfl

/-- Of two bytes or more, the first two are read as a number. -/
theorem readPair_of_cons {offset : UInt64} (hoffset : offset.toNat ≤ 2 ^ 63) {high low : UInt8}
    {rest : Bytes} (h : data.drop offset.toNat = high :: low :: rest) :
    ∃ n, readPair data offset = .ok (some n) ∧ n.toNat = bigEndian [high, low] := by
  obtain ⟨stop, hadd, hstop⟩ := add_ok offset 2 hoffset (by decide)
  rw [show (2 : UInt64).toNat = 2 from rfl] at hstop
  have hslice : slice? data offset stop = some [high, low] := by
    have hlength : data.length - offset.toNat = rest.length + 2 := by
      rw [← List.length_drop, h, List.length_cons, List.length_cons]
    rw [slice?_eq hstop, if_pos (by omega), h]
    rfl
  have hpair : bigEndian [high, low] = high.toUInt64.toNat * 256 + low.toNat := by
    simp only [bigEndian, List.foldl_cons, List.foldl_nil, zero_mul, zero_add,
      UInt8.toNat_toUInt64]
  -- Two bytes are far from the limits of a word.
  have hlt : bigEndian [high, low] < 256 ^ 2 := bigEndian_lt [high, low]
  obtain ⟨n, hshift, hn⟩ := shiftIn_ok (n := high.toUInt64) (b := low) (by omega)
  refine ⟨n, ?_, hn.trans hpair.symm⟩
  rw [readPair, hadd]
  simp only [bind, Except.bind, hslice, byteAt, UInt64.reduceToNat, List.getElem?_cons_zero,
    List.getElem?_cons_succ, hshift]
  rfl

/-- A unit is copied whole or not at all, since its end is compared with the length first. -/
theorem copyUnit_ok (hdata : data.length < 2 ^ 63) {offset : UInt64}
    (hoffset : offset.toNat ≤ data.length) :
    ∃ found, copyUnit data offset = .ok found
      ∧ Located data found
        ((takeUnit? (data.drop offset.toNat)).map fun (unit, rest) => ([unit], rest)) := by
  have hword : offset.toNat ≤ 2 ^ 63 := by omega
  rcases hrest : data.drop offset.toNat with _ | ⟨high, _ | ⟨low, rest⟩⟩
  · have hpair := readPair_of_short hword (by rw [hrest]; decide)
    rw [copyUnit, hpair]
    exact ⟨none, rfl, .nothing⟩
  · have hpair := readPair_of_short hword (by rw [hrest, List.length_singleton]; decide)
    rw [copyUnit, hpair]
    exact ⟨none, rfl, .nothing⟩
  · obtain ⟨n, hpair, hn⟩ := readPair_of_cons hword hrest
    have hlt : bigEndian [high, low] < 256 ^ 2 := bigEndian_lt [high, low]
    have hlength : data.length - offset.toNat = rest.length + 2 := by
      rw [← List.length_drop, hrest, List.length_cons, List.length_cons]
    obtain ⟨start, hadd, hstart⟩ := add_ok offset 2 hword (by decide)
    rw [show (2 : UInt64).toNat = 2 from rfl] at hstart
    obtain ⟨stop, hadd', hstop⟩ := add_ok start n (by omega) (by omega)
    have hbehind : data.drop start.toNat = rest := by
      rw [hstart, ← List.drop_drop, hrest]
      rfl
    -- Whether the unit is there is asked of the whole here and of the rest in the reader.
    refine ⟨(slice? data start stop).map fun unit => (startCode ++ unit, stop), ?_, ?_⟩
    · rw [copyUnit, hpair]
      simp only [bind, Except.bind, hadd, hadd']
      rfl
    · rw [slice?_eq hstop, hbehind, takeUnit?, ← hn]
      by_cases hroom : n.toNat ≤ rest.length
      · have hrest' : rest.drop n.toNat = data.drop stop.toNat := by
          rw [hstop, ← List.drop_drop, hbehind]
        have hframed : startCode ++ rest.take n.toNat = frameUnits [rest.take n.toNat] := by
          rw [frameUnits_cons, frameUnits_nil, List.append_nil]
        rw [if_pos (by omega), if_pos hroom, hrest', Option.map_some, Option.map_some, hframed]
        exact .reached _ stop (by omega)
      · rw [if_neg (by omega), if_neg hroom]
        exact .nothing

/-- A counted loop and a reader that takes units front after front come to the same, if one
    round and one front do. -/
theorem repeatRound_ok {round : UInt64 → Except Trap (Option (Bytes × UInt64))}
    {reader : Nat → Bytes → Option (List Bytes × Bytes)}
    (front : Bytes → Option (List Bytes × Bytes))
    (hzero : ∀ rest, reader 0 rest = some ([], rest))
    (hsucc : ∀ count rest, reader (count + 1) rest = (do
      let (units, rest) ← front rest
      let (more, rest) ← reader count rest
      return (units ++ more, rest)))
    (hround : ∀ offset : UInt64, offset.toNat ≤ data.length →
      ∃ found, round offset = .ok found ∧ Located data found (front (data.drop offset.toNat)))
    (count : Nat) {offset : UInt64} (hoffset : offset.toNat ≤ data.length) :
    ∃ course, repeatRound round count offset = .ok course
      ∧ Located data course.outcome (reader count (data.drop offset.toNat)) := by
  -- Along the count. A round hands on an offset that does not exceed the length either.
  induction count generalizing offset with
  | zero =>
      rw [hzero]
      exact ⟨_, rfl, .reached [] offset hoffset⟩
  | succ count ih =>
      -- The loop and the reader find the same in this round, so they go on or break off
      -- together.
      obtain ⟨found, hfound, hlocated⟩ := hround offset hoffset
      rw [repeatRound, hfound, hsucc]
      generalize front (data.drop offset.toNat) = read at hlocated
      cases hlocated with
      | nothing => exact ⟨_, rfl, .nothing⟩
      | reached units next hnext =>
          obtain ⟨course, hcourse, hlocated⟩ := ih hnext
          simp only [bind, Except.bind, hcourse, Option.bind_some]
          refine ⟨_, rfl, ?_⟩
          generalize reader count (data.drop next.toNat) = read at hlocated
          generalize course.outcome = outcome at hlocated
          cases hlocated with
          | nothing => exact .nothing
          | reached more last hlast =>
              have hframed := frameUnits_append units more
              simp only [Option.map_some, Option.bind_some, ← hframed]
              exact .reached _ last hlast

/-- Counted units are copied as they are read. -/
theorem copyUnits_ok (hdata : data.length < 2 ^ 63) (count : Nat) (offset : UInt64)
    (hoffset : offset.toNat ≤ data.length) :
    ∃ course, copyUnits data count offset = .ok course
      ∧ Located data course.outcome (takeUnits? count (data.drop offset.toNat)) := by
  refine repeatRound_ok (fun rest => (takeUnit? rest).map fun (unit, rest) => ([unit], rest))
    (fun rest => ?_) (fun count rest => ?_) (fun offset hoffset => copyUnit_ok hdata hoffset)
    count hoffset
  · rw [takeUnits?]
  · rw [takeUnits?]
    cases takeUnit? rest <;> rfl

/-- Behind the count nothing more is needed than that it is there. -/
theorem copyCounted_ok (hdata : data.length < 2 ^ 63) (offset : UInt64) :
    ∃ found, copyCounted data offset = .ok found
      ∧ Located data found ((data.drop offset.toNat).head?.bind fun count =>
        takeUnits? count.toNat (data.drop offset.toNat).tail) := by
  rw [copyCounted, List.head?_drop, List.tail_drop]
  cases hcount : data[offset.toNat]? with
  | none => exact ⟨none, rfl, .nothing⟩
  | some count =>
      -- The byte with the count is there, so the units begin no further than at the end.
      have hlt : offset.toNat < data.length := (List.getElem?_eq_some_iff.mp hcount).1
      obtain ⟨start, hadd, hstart⟩ := add_ok offset 1 (by omega) (by decide)
      rw [show (1 : UInt64).toNat = 1 from rfl] at hstart
      obtain ⟨course, hcourse, hlocated⟩ := copyUnits_ok hdata count.toNat start (by omega)
      rw [hstart] at hlocated
      refine ⟨course.outcome, ?_, hlocated⟩
      simp only [bind, Except.bind, hadd, hcourse]
      rfl

/-- The units of the array at the front of `data`, and what follows. -/
def takeArray? : Bytes → Option (List Bytes × Bytes)
  | _ :: high :: low :: data => takeUnits? (bigEndian [high, low]) data
  | _ => none

/-- A group of units is copied as it is read. -/
theorem copyArray_ok (hdata : data.length < 2 ^ 63) {offset : UInt64}
    (hoffset : offset.toNat ≤ data.length) :
    ∃ found, copyArray data offset = .ok found
      ∧ Located data found (takeArray? (data.drop offset.toNat)) := by
  obtain ⟨counted, hadd, hcounted⟩ := add_ok offset 1 (by omega) (by decide)
  rw [show (1 : UInt64).toNat = 1 from rfl] at hcounted
  have hword : counted.toNat ≤ 2 ^ 63 := by omega
  have htail : data.drop counted.toNat = (data.drop offset.toNat).tail := by
    rw [hcounted, List.tail_drop]
  -- The type byte is not read, so that its absence shows only in the count behind it.
  have hmissing (hshort : (data.drop counted.toNat).length < 2) :
      copyArray data offset = .ok none := by
    rw [copyArray, hadd]
    simp only [bind, Except.bind, readPair_of_short hword hshort]
    rfl
  rcases hrest : data.drop offset.toNat with _ | ⟨kind, _ | ⟨high, _ | ⟨low, rest⟩⟩⟩
  · exact ⟨none, hmissing (by rw [htail, hrest]; exact Nat.zero_lt_two), .nothing⟩
  · exact ⟨none, hmissing (by rw [htail, hrest]; exact Nat.zero_lt_two), .nothing⟩
  · exact ⟨none, hmissing (by rw [htail, hrest]; exact Nat.one_lt_two), .nothing⟩
  · obtain ⟨count, hpair, hcount⟩ := readPair_of_cons hword (htail.trans (congrArg List.tail hrest))
    obtain ⟨start, hadd', hstart⟩ := add_ok offset 3 (by omega) (by decide)
    rw [show (3 : UInt64).toNat = 3 from rfl] at hstart
    have hlength : data.length - offset.toNat = rest.length + 3 := by
      rw [← List.length_drop, hrest]
      rfl
    have hbehind : data.drop start.toNat = rest := by
      rw [hstart, ← List.drop_drop, hrest]
      rfl
    -- Three bytes are behind the group, and its units are counted.
    obtain ⟨course, hcourse, hlocated⟩ := copyUnits_ok hdata count.toNat start (by omega)
    rw [hbehind, hcount] at hlocated
    refine ⟨course.outcome, ?_, hlocated⟩
    rw [copyArray, hadd]
    simp only [bind, Except.bind, hpair, hadd', hcourse]
    rfl

/-- Counted groups are copied as they are read. -/
theorem copyArrays_ok (hdata : data.length < 2 ^ 63) (count : Nat) (offset : UInt64)
    (hoffset : offset.toNat ≤ data.length) :
    ∃ course, repeatRound (copyArray data) count offset = .ok course
      ∧ Located data course.outcome (takeArrays? count (data.drop offset.toNat)) := by
  refine repeatRound_ok takeArray? (fun rest => ?_) (fun count rest => ?_)
    (fun offset hoffset => copyArray_ok hdata hoffset) count hoffset
  · rw [takeArrays?]
  · rcases rest with _ | ⟨kind, _ | ⟨high, _ | ⟨low, rest⟩⟩⟩ <;> rfl

/-! ## Records -/

/-- What reading a record by offsets gives, and the record. -/
inductive Describes : Option (Bytes × UInt64) → Option ConfigurationRecord → Prop
  | nothing : Describes none none
  | record (size : UInt64) (record : ConfigurationRecord)
      (hsize : size.toNat = record.lengthSize) :
      Describes (some (frameUnits record.parameterSets, size)) (some record)

/-- Units found behind others make a record together with them. -/
theorem Located.describes {found : Option (Bytes × UInt64)} {read : Option (List Bytes × Bytes)}
    (h : Located data found read) {size : UInt64} {lengthSize : Nat}
    (hsize : size.toNat = lengthSize) (others : List Bytes) :
    Describes (found.map fun (sets, _) => (frameUnits others ++ sets, size))
      (read.bind fun (units, _) => some ⟨lengthSize, others ++ units⟩) := by
  cases h with
  | nothing => exact .nothing
  | reached units offset hoffset =>
      have hframed := frameUnits_append others units
      simp only [Option.map_some, Option.bind_some, ← hframed]
      exact .record size ⟨lengthSize, others ++ units⟩ hsize

/-- The length size is read from two bits, so that one more than it is a small number. -/
theorem lengthSize_ok (b : UInt8) :
    ∃ size, add (b &&& 0x03).toUInt64 1 = .ok size
      ∧ size.toNat = ConfigurationRecord.lengthSizeOf b := by
  have hbits : (b &&& 0x03).toUInt64.toNat = (b &&& 0x03).toNat := UInt8.toNat_toUInt64 _
  have hlt : (b &&& 0x03).toNat < 256 := (b &&& 0x03).toNat_lt
  obtain ⟨size, hadd, hsize⟩ := add_ok (b &&& 0x03).toUInt64 1 (by omega) (by decide)
  refine ⟨size, hadd, ?_⟩
  rw [hsize, hbits]
  rfl

theorem ofAvcc?_of_short (h : data.length < 7) : ConfigurationRecord.ofAvcc? data = none := by
  rw [Option.eq_none_iff_forall_ne_some]
  intro record hrecord
  cases (ConfigurationRecord.ofAvcc?_eq_some_iff data record).mp hrecord
  simp only [List.length_append, List.length_cons] at h
  omega

theorem ofHvcc?_of_short (h : data.length < 23) : ConfigurationRecord.ofHvcc? data = none := by
  rw [Option.eq_none_iff_forall_ne_some]
  intro record hrecord
  cases (ConfigurationRecord.ofHvcc?_eq_some_iff data record).mp hrecord
  simp only [List.length_append, List.length_cons] at h
  omega

/-- An H.264 record is read by offsets as it is read from the front. -/
theorem ofAvcc_ok (hdata : data.length < 2 ^ 63) :
    ∃ found, ofAvcc data = .ok found ∧ Describes found (ConfigurationRecord.ofAvcc? data) := by
  by_cases hshort : data.length < 7
  · rw [ofAvcc, if_pos hshort, ofAvcc?_of_short hshort]
    exact ⟨none, rfl, .nothing⟩
  · have hlong : 7 ≤ data.length := not_lt.mp hshort
    -- The guard pays for the three accesses at fixed offsets.
    have hfirst : byteAt data 0 = .ok data[0] := byteAt_ok (lt_of_lt_of_le (by decide) hlong)
    have hfifth : byteAt data 4 = .ok data[4] := byteAt_ok (lt_of_lt_of_le (by decide) hlong)
    have hsixth : byteAt data 5 = .ok data[5] := byteAt_ok (lt_of_lt_of_le (by decide) hlong)
    have hhead : data.head? = some data[0] := by
      rw [List.head?_eq_getElem?, List.getElem?_eq_getElem]
    rw [ofAvcc, if_neg hshort, ConfigurationRecord.ofAvcc?]
    by_cases hversion : data[0] = 1
    · obtain ⟨size, hadd, hsize⟩ := lengthSize_ok data[4]
      obtain ⟨sequences, hsequences, hlocated⟩ := copyUnits_ok hdata (data[5] &&& 0x1f).toNat
        6 (le_trans (by decide) hlong)
      rw [show (6 : UInt64).toNat = 6 from rfl] at hlocated
      simp only [hfirst, hfifth, hsixth, hversion, hadd, hsequences, hhead,
        List.getElem?_eq_getElem (show 4 < data.length by omega),
        List.getElem?_eq_getElem (show 5 < data.length by omega), ne_eq, not_true_eq_false,
        if_false, if_true, guard, bind, Except.bind, pure, Option.bind_some]
      -- The second row of units begins where the first has ended, if that was found.
      generalize takeUnits? (data[5] &&& 0x1f).toNat (data.drop 6) = read at hlocated
      generalize sequences.outcome = outcome at hlocated
      cases hlocated with
      | nothing => exact ⟨none, rfl, .nothing⟩
      | reached sequenceSets offset hoffset =>
          obtain ⟨found, hfound, hlocated⟩ := copyCounted_ok hdata offset
          simp only [hfound, Option.bind_some, ← Option.bind_assoc]
          refine ⟨_, rfl, ?_⟩
          exact hlocated.describes hsize sequenceSets
    · refine ⟨none, ?_, ?_⟩
      · simp only [hfirst, hversion, bind, Except.bind, ne_eq, not_false_eq_true, if_true]
        rfl
      · simp only [hhead, Option.some.injEq, hversion, guard, if_false]
        exact .nothing

/-- An H.265 record is read by offsets as it is read from the front. -/
theorem ofHvcc_ok (hdata : data.length < 2 ^ 63) :
    ∃ found, ofHvcc data = .ok found ∧ Describes found (ConfigurationRecord.ofHvcc? data) := by
  by_cases hshort : data.length < 23
  · rw [ofHvcc, if_pos hshort, ofHvcc?_of_short hshort]
    exact ⟨none, rfl, .nothing⟩
  · have hlong : 23 ≤ data.length := not_lt.mp hshort
    -- Here too all accesses at fixed offsets are behind the guard.
    have hfirst : byteAt data 0 = .ok data[0] := byteAt_ok (lt_of_lt_of_le (by decide) hlong)
    have hsizeByte : byteAt data 21 = .ok data[21] := byteAt_ok (lt_of_lt_of_le (by decide) hlong)
    have hcountByte : byteAt data 22 = .ok data[22] := byteAt_ok (lt_of_lt_of_le (by decide) hlong)
    have hhead : data.head? = some data[0] := by
      rw [List.head?_eq_getElem?, List.getElem?_eq_getElem]
    rw [ofHvcc, if_neg hshort, ConfigurationRecord.ofHvcc?]
    by_cases hversion : data[0] = 1
    · obtain ⟨size, hadd, hsize⟩ := lengthSize_ok data[21]
      obtain ⟨arrays, harrays, hlocated⟩ := copyArrays_ok hdata data[22].toNat 23 hlong
      rw [show (23 : UInt64).toNat = 23 from rfl] at hlocated
      simp only [hfirst, hsizeByte, hcountByte, hversion, hadd, harrays, hhead,
        List.getElem?_eq_getElem (show 21 < data.length by omega),
        List.getElem?_eq_getElem (show 22 < data.length by omega), ne_eq, not_true_eq_false,
        if_false, if_true, guard, bind, Except.bind, pure, Option.bind_some]
      exact ⟨_, rfl, hlocated.describes hsize []⟩
    · refine ⟨none, ?_, ?_⟩
      · simp only [hfirst, hversion, bind, Except.bind, ne_eq, not_false_eq_true, if_true]
        rfl
      · simp only [hhead, Option.some.injEq, hversion, guard, if_false]
        exact .nothing

/-- Extra data are read by offsets as they are read from the front. -/
theorem ofExtraData_ok (codec : Codec) {extraData : Option Bytes}
    (hextra : ∀ data ∈ extraData, data.length < 2 ^ 63) :
    ∃ found, ofExtraData codec extraData = .ok found
      ∧ Describes found (AnnexBFilter.ofExtraData codec extraData).record := by
  cases extraData with
  | none => exact ⟨none, rfl, .nothing⟩
  | some data =>
      have hdata : data.length < 2 ^ 63 := hextra data rfl
      by_cases hannexB : isAnnexB data = true
      · have hnone : AnnexBFilter.ofExtraData codec (some data) = ⟨none⟩ := if_pos hannexB
        rw [hnone]
        exact ⟨none, if_pos hannexB, .nothing⟩
      · -- Each layout has its reader, and the other codecs have none.
        cases codec with
        | h264 =>
            rw [ofExtraData, if_neg hannexB, AnnexBFilter.ofExtraData, if_neg hannexB]
            exact ofAvcc_ok hdata
        | h265 =>
            rw [ofExtraData, if_neg hannexB, AnnexBFilter.ofExtraData, if_neg hannexB]
            exact ofHvcc_ok hdata
        | _ =>
            refine ⟨none, if_neg hannexB, ?_⟩
            simp only [AnnexBFilter.ofExtraData, if_neg hannexB]
            exact .nothing

/-! ## Packets -/

/-- A round finds nothing where the reader finds no unit, and else the first unit, and goes
    on behind it. -/
theorem nextUnit_ok (hdata : data.length < 2 ^ 63) {size : UInt64} (hsize : size.toNat ≤ 4)
    {offset : UInt64} (hoffset : offset.toNat ≤ data.length) :
    (nextUnit data size offset = .ok none
        ∧ lengthPrefixedUnits size.toNat (data.drop offset.toNat) = [])
      ∨ ∃ unit next, nextUnit data size offset = .ok (some (startCode ++ unit, next))
        ∧ lengthPrefixedUnits size.toNat (data.drop offset.toNat)
          = unit :: lengthPrefixedUnits size.toNat (data.drop next.toNat) := by
  obtain ⟨start, hadd, hstart⟩ := add_ok offset size (by omega) (by omega)
  rw [nextUnit, hadd, lengthPrefixedUnits]
  simp only [bind, Except.bind, List.length_drop]
  by_cases hshort : data.length < start.toNat
  · rw [if_pos hshort, if_pos (by omega)]
    exact .inl ⟨rfl, rfl⟩
  · have hfield : ((data.drop offset.toNat).take size.toNat).length = size.toNat :=
      List.length_take_of_le (by rw [List.length_drop]; omega)
    have hslice : slice data offset start = .ok ((data.drop offset.toNat).take size.toNat) := by
      rw [slice, slice?_eq hstart, if_pos (by omega)]
    have hbehind : (data.drop offset.toNat).drop size.toNat = data.drop start.toNat := by
      rw [List.drop_drop, hstart]
    -- A length from no more than four bytes is small, and so is the sum with the offset.
    have hlt : bigEndian ((data.drop offset.toNat).take size.toNat) < 256 ^ 4 :=
      calc bigEndian ((data.drop offset.toNat).take size.toNat)
          < 256 ^ ((data.drop offset.toNat).take size.toNat).length := bigEndian_lt _
        _ = 256 ^ size.toNat := by rw [hfield]
        _ ≤ 256 ^ 4 := Nat.pow_le_pow_right (by decide) hsize
    obtain ⟨n, hword, hn⟩ := wordOf_ok (hlt.trans (by decide))
    obtain ⟨stop, hadd', hstop⟩ := add_ok start n (by omega) (by omega)
    rw [if_neg hshort, if_neg (by omega), hslice, hbehind, unitLength_of_length_le (by omega), ← hn]
    simp only [hword, hadd']
    by_cases hzero : n = 0
    · rw [if_pos hzero, if_pos (.inl (congrArg UInt64.toNat hzero))]
      exact .inl ⟨rfl, rfl⟩
    · have hpos : n.toNat ≠ 0 := fun h => hzero (UInt64.toNat_inj.mp h)
      by_cases hroom : data.length < stop.toNat
      · rw [if_neg hzero, if_pos hroom, if_pos (by omega)]
        exact .inl ⟨rfl, rfl⟩
      · have hunit : slice data start stop = .ok ((data.drop start.toNat).take n.toNat) := by
          rw [slice, slice?_eq hstop, if_pos (by omega)]
        rw [if_neg hzero, if_neg hroom, if_neg (by omega), hunit, List.drop_drop, ← hstop]
        exact .inr ⟨_, stop, rfl, rfl⟩

theorem convert_of_none {size offset : UInt64} (h : nextUnit data size offset = .ok none) :
    convert data size offset = .ok ⟨[offset], []⟩ := by
  rw [convert]
  -- The loop matches with an equation, so that it can be seen to end; the match is opened by
  -- cases.
  split
  · next herror => cases h.symm.trans herror
  · rfl
  · next hsome => cases h.symm.trans hsome

theorem convert_of_some {piece : Bytes} {size offset next : UInt64} {course : Course Bytes}
    (h : nextUnit data size offset = .ok (some (piece, next)))
    (hcourse : convert data size next = .ok course) :
    convert data size offset = .ok ⟨offset :: course.offsets, piece ++ course.outcome⟩ := by
  rw [convert]
  split
  · next herror => cases h.symm.trans herror
  · next hnone => cases h.symm.trans hnone
  · next hsome =>
      cases h.symm.trans hsome
      rw [hcourse]
      rfl

/-- With fields of eight bytes the check of a sum would fail. -/
example : nextUnit (List.replicate 9 0xff) 8 0 = .error .overflow := by
  decide +kernel

/-- A loop over a packet takes from an offset on what the reader takes from the rest. -/
theorem convert_ok (hdata : data.length < 2 ^ 63) {size : UInt64} (hsize : size.toNat ≤ 4)
    {offset : UInt64} (hoffset : offset.toNat ≤ data.length) :
    ∃ course, convert data size offset = .ok course
      ∧ course.outcome = annexBOfLengthPrefixed size.toNat (data.drop offset.toNat) := by
  -- Every round leaves fewer bytes, and the offset it goes on with does not exceed the length.
  induction hleft : data.length - offset.toNat using Nat.strongRecOn generalizing offset with
  | ind left ih =>
      rw [annexBOfLengthPrefixed]
      rcases nextUnit_ok hdata hsize hoffset with ⟨hnext, hread⟩ | ⟨unit, next, hnext, hread⟩
      · rw [hread]
        exact ⟨_, convert_of_none hnext, rfl⟩
      · obtain ⟨hgrows, hinside⟩ := nextUnit_grows hnext
        obtain ⟨course, hcourse, houtcome⟩ := ih _ (by omega) hinside rfl
        rw [hread, frameUnits_cons, ← annexBOfLengthPrefixed, ← houtcome]
        exact ⟨_, convert_of_some hnext hcourse, rfl⟩

/-- A loop over a packet goes on in one direction, and it ends. -/
theorem convert_offsets {size offset : UInt64} {course : Course Bytes}
    (h : convert data size offset = .ok course) :
    course.offsets.Pairwise (· < ·) ∧ (∀ later ∈ course.offsets, offset ≤ later)
      ∧ course.offsets.length ≤ data.length - offset.toNat + 1 := by
  fun_induction convert data size offset generalizing course with
  | case1 => cases h
  | case2 offset hnext =>
      cases h
      exact ⟨List.pairwise_singleton .., List.forall_mem_singleton.mpr (UInt64.le_refl offset),
        Nat.le_add_left 1 _⟩
  | case3 offset piece next hnext ih =>
      obtain ⟨course, hcourse, h⟩ := exists_of_bind_eq_ok h
      cases h
      obtain ⟨hgrows, hinside⟩ := nextUnit_grows hnext
      obtain ⟨hpairwise, hlater, hlength⟩ := ih hcourse
      -- The rounds that follow begin behind this one.
      have hlt (later : UInt64) (hmem : later ∈ course.offsets) : offset < later :=
        UInt64.lt_of_lt_of_le (UInt64.lt_iff_toNat_lt.mpr hgrows) (hlater later hmem)
      refine ⟨List.pairwise_cons.mpr ⟨hlt, hpairwise⟩, ?_, ?_⟩
      · exact List.forall_mem_cons.mpr
          ⟨UInt64.le_refl offset, fun later hmem => UInt64.le_of_lt (hlt later hmem)⟩
      · rw [List.length_cons]
        omega

/-- A packet is reframed by offsets as it is by the filter. -/
theorem apply_ok {parsed : Option (Bytes × UInt64)} {f : AnnexBFilter}
    (hparsed : Describes parsed f.record) (hsize : ∀ record ∈ f.record, record.lengthSize ≤ 4)
    (hdata : data.length < 2 ^ 63) (key : Bool) :
    apply parsed data key = .ok (f.apply data key) := by
  rcases f with ⟨record⟩
  cases hparsed with
  | nothing => rfl
  | record size record hsize' =>
      simp only [apply, AnnexBFilter.apply]
      by_cases hannexB : isAnnexB data = true
      · simp only [if_pos hannexB]
      · obtain ⟨course, hcourse, houtcome⟩ := convert_ok hdata
          (hsize' ▸ hsize record rfl) (show (0 : UInt64).toNat ≤ data.length from Nat.zero_le _)
        rw [show (0 : UInt64).toNat = 0 from rfl, List.drop_zero, hsize'] at houtcome
        simp only [if_neg hannexB, hcourse, bind, Except.bind, houtcome]
        -- Nothing is put in front if there is nothing to put there.
        cases key with
        | false => rfl
        | true =>
          cases hsets : frameUnits record.parameterSets <;> rfl

/-- A counted loop takes no more rounds than it was told. -/
theorem repeatRound_offsets {round : UInt64 → Except Trap (Option (Bytes × UInt64))} {count : Nat}
    {offset : UInt64} {course : Course (Option (Bytes × UInt64))}
    (h : repeatRound round count offset = .ok course) : course.offsets.length ≤ count := by
  induction count generalizing offset course with
  | zero =>
      cases h
      exact Nat.le_refl 0
  | succ count ih =>
      obtain ⟨found, -, h⟩ := exists_of_bind_eq_ok h
      -- The round that breaks off counts as well.
      rcases found with _ | ⟨piece, next⟩
      · cases h
        exact Nat.le_add_left 1 count
      · obtain ⟨course, hcourse, h⟩ := exists_of_bind_eq_ok h
        cases h
        exact Nat.succ_le_succ (ih hcourse)

/-- None of the packets stops the others. -/
theorem mapM_apply_ok {parsed : Option (Bytes × UInt64)} {f : AnnexBFilter}
    (hparsed : Describes parsed f.record) (hsize : ∀ record ∈ f.record, record.lengthSize ≤ 4)
    (packets : List (Bytes × Bool)) (hpackets : ∀ packet ∈ packets, packet.1.length < 2 ^ 63) :
    (packets.mapM fun packet => apply parsed packet.1 packet.2)
      = .ok (packets.map fun packet => f.apply packet.1 packet.2) := by
  induction packets with
  | nil => rfl
  | cons packet packets ih =>
      obtain ⟨hpacket, hpackets⟩ := List.forall_mem_cons.mp hpackets
      rw [List.mapM_cons, apply_ok hparsed hsize hpacket, ih hpackets]
      rfl

/-- No bytes make a filter fail. Take any codec, any extra data and any packets, each of them a
    key frame or not, and let every byte string be shorter than 2 ^ 63. Then no sum overflows
    and no access is out of bounds while the extra data are read and the packets reframed by
    offsets, and the outcome is that of the filter. A counted loop takes no more rounds than it
    was told. In the loop over a packet the offset grows from round to round, and there are no
    more rounds than bytes and one. -/
theorem run_ok (codec : Codec) (extraData : Option Bytes)
    (hextra : ∀ data ∈ extraData, data.length < 2 ^ 63) (packets : List (Bytes × Bool))
    (hpackets : ∀ packet ∈ packets, packet.1.length < 2 ^ 63) :
    run codec extraData packets
        = .ok (packets.map fun packet =>
            (AnnexBFilter.ofExtraData codec extraData).apply packet.1 packet.2)
      ∧ (∀ round count offset course, repeatRound round count offset = .ok course →
          course.offsets.length ≤ count)
      ∧ ∀ data size offset course, convert data size offset = .ok course →
          course.offsets.Pairwise (· < ·)
            ∧ course.offsets.length ≤ data.length - offset.toNat + 1 := by
  refine ⟨?_, fun round count offset course h => repeatRound_offsets h,
    fun data size offset course h => ?_⟩
  · -- What the extra data gave is the record of the filter, and packets go by it.
    obtain ⟨parsed, hparsed, hdescribes⟩ := ofExtraData_ok codec hextra
    rw [run, hparsed]
    exact mapM_apply_ok hdescribes
      (fun record hrecord => (AnnexBFilter.lengthSize_of_ofExtraData hrecord).2) packets hpackets
  · obtain ⟨hpairwise, -, hlength⟩ := convert_offsets h
    exact ⟨hpairwise, hlength⟩

/-- A key frame whose second length promises four gigabytes, and a packet that is too short for
    a length. -/
theorem run_ok_of_broken_lengths :
    let record : Bytes :=
      [1, 0x64, 0, 0x1f, 0xff, 0xe1, 0, 3, 0x67, 0x64, 0x1f, 1, 0, 2, 0x68, 0xeb]
    let packets : List (Bytes × Bool) :=
      [([0, 0, 0, 2, 0x65, 0x10, 0xff, 0xff, 0xff, 0xff, 0x65], true), ([0, 9], false)]
    (∀ data ∈ some record, data.length < 2 ^ 63)
      ∧ (∀ packet ∈ packets, packet.1.length < 2 ^ 63)
      ∧ run .h264 (some record) packets
        = .ok [[0, 0, 0, 1, 0x67, 0x64, 0x1f, 0, 0, 0, 1, 0x68, 0xeb, 0, 0, 0, 1, 0x65, 0x10],
            []] := by
  intro record packets
  have hextra : ∀ data ∈ some record, data.length < 2 ^ 63 := by decide
  have hpackets : ∀ packet ∈ packets, packet.1.length < 2 ^ 63 := by decide
  refine ⟨hextra, hpackets, ?_⟩
  rw [(run_ok .h264 (some record) hextra packets hpackets).1]
  decide +kernel

end ByOffset

end Recode

import Recode.Nal.AnnexBFilter
import Recode.Proofs.Nal.LengthPrefix

/-!
# Reframing length-prefixed access units

What a filter does to an access unit that a container stored the way its
configuration record says: every unit behind its length.

The filter passes through what already begins with a start code. It decides this
on the first bytes alone, and in a length-prefixed access unit those hold the
length of the first unit. A length that spells a start code is therefore taken
for one. `Ambiguous` says which lengths those are: one, and in fields of four
bytes also every length from 256 to 511. Fields of one or two bytes are safe,
since a start code begins with two zeros and no unit is empty.

An ambiguous access unit comes out as it went in, and that is wrong but for a
single exception. If all units are one byte long and the fields have four bytes,
the two forms are the same bytes; the parameter sets of a key frame are lost even
then.

## Main definitions

* `Nal.Ambiguous`: The first length spells a start code.

## Theorems

* `Nal.isAnnexB_iff`: Annex B form is a matter of the first three or four bytes.
* `Nal.isAnnexB_lengthPrefixed_iff`: Length-prefixed units look like Annex B form
  exactly if they are ambiguous.
* `Nal.lengthPrefixed_eq_frameUnits_iff`: When the two forms are the same bytes.
* `Nal.ConfigurationRecord.lengthSize_of_ofAvcc?`,
  `Nal.ConfigurationRecord.lengthSize_of_ofHvcc?`: Lengths take one to four bytes.
* `AnnexBFilter.apply_lengthPrefixed_iff`: When an access unit is reframed, and
  what happens to it otherwise.
-/

namespace Recode

namespace Nal

/-- The length of the first unit, written in `size` bytes, spells a start code. -/
def Ambiguous (size : Nat) : List Bytes → Prop
  | [] => False
  | u :: _ => size = 3 ∧ u.length = 1
      ∨ size = 4 ∧ (u.length = 1 ∨ 256 ≤ u.length ∧ u.length < 512)

instance (size : Nat) : (units : List Bytes) → Decidable (Ambiguous size units)
  | [] => .isFalse id
  | u :: _ => inferInstanceAs (Decidable (size = 3 ∧ u.length = 1
      ∨ size = 4 ∧ (u.length = 1 ∨ 256 ≤ u.length ∧ u.length < 512)))

/-- Annex B form is a matter of the first three or four bytes. -/
theorem isAnnexB_iff (data : Bytes) :
    isAnnexB data = true ↔ startCode <+: data ∨ shortStartCode <+: data := by
  simp only [isAnnexB, startCodeLength, bne_iff_ne, ne_eq, List.isPrefixOf_iff_prefix]
  by_cases hlong : startCode <+: data
  · simp only [hlong, if_true, true_or, OfNat.ofNat_ne_zero, not_false_eq_true]
  · by_cases hshort : shortStartCode <+: data
    · simp only [hlong, hshort, if_false, if_true, or_true, OfNat.ofNat_ne_zero,
        not_false_eq_true]
    · simp only [hlong, hshort, if_false, or_self, not_true_eq_false]

/-- Two bytes of a length agree exactly if the numbers do up to multiples of 256. -/
theorem ofNat_eq_iff (n : Nat) (b : UInt8) : UInt8.ofNat n = b ↔ n % 256 = b.toNat := by
  rw [← UInt8.toNat_inj, UInt8.toNat_ofNat']

/-- Length-prefixed units look like Annex B form exactly if they are ambiguous. -/
theorem isAnnexB_lengthPrefixed_iff {size : Nat} (hpos : 0 < size) (hsize : size ≤ 4)
    (units : List Bytes) (hne : ∀ u ∈ units, u ≠ []) (hlt : ∀ u ∈ units, u.length < 256 ^ size) :
    isAnnexB (lengthPrefixed size units) = true ↔ Ambiguous size units := by
  rw [isAnnexB_iff]
  cases units with
  | nil =>
      simp only [lengthPrefixed_nil, List.prefix_nil, startCode, shortStartCode, Ambiguous,
        reduceCtorEq, or_self]
  | cons u us =>
      have hu : 0 < u.length := List.length_pos_iff.mpr (hne u (List.mem_cons_self ..))
      have hmax : u.length < 256 ^ size := hlt u (List.mem_cons_self ..)
      have hsizes : size = 1 ∨ size = 2 ∨ size = 3 ∨ size = 4 := by omega
      rw [lengthPrefixed_cons]
      -- With the size known, the bytes of the length are read off one by one.
      rcases hsizes with rfl | rfl | rfl | rfl <;>
        simp only [bigEndianBytes, List.nil_append, List.cons_append, startCode, shortStartCode,
          List.cons_prefix_cons, List.nil_prefix, eq_comm (a := (0 : UInt8)),
          eq_comm (a := (1 : UInt8)), ofNat_eq_iff, UInt8.toNat_zero, UInt8.toNat_one,
          and_true, true_and, Ambiguous, Nat.div_div_eq_div_mul]
      · constructor
        · rintro (⟨hlow, _⟩ | ⟨hlow, _⟩) <;> omega
        · omega
      · constructor
        · rintro (⟨hhigh, hlow, _⟩ | ⟨hhigh, hlow, _⟩) <;> omega
        · omega
      · constructor
        · rintro (⟨htop, hhigh, hlow, _⟩ | ⟨htop, hhigh, hlow⟩) <;> omega
        · intro h
          right
          omega
      · omega

theorem length_frameUnits (units : List Bytes) :
    (frameUnits units).length = units.length * 4 + (units.map List.length).sum := by
  induction units with
  | nil => rfl
  | cons u us ih =>
      rw [frameUnits_cons, List.length_append, List.length_append, ih, List.length_cons,
        List.map_cons, List.sum_cons, show startCode.length = 4 from rfl]
      omega

/-- Among lengths of four bytes, only one is spelled as a start code. -/
theorem bigEndianBytes_eq_startCode_iff {n : Nat} (h : n < 256 ^ 4) :
    bigEndianBytes 4 n = startCode ↔ n = 1 := by
  constructor
  · intro heq
    rw [← bigEndian_bigEndianBytes 4 n h, heq]
    rfl
  · rintro rfl
    rfl

/-- Lengths of four bytes have the size of a start code, so units correspond one by
    one, and a length is a start code only if it is one. -/
theorem lengthPrefixed_four_eq_frameUnits_iff (units : List Bytes)
    (hlt : ∀ u ∈ units, u.length < 256 ^ 4) :
    lengthPrefixed 4 units = frameUnits units ↔ ∀ u ∈ units, u.length = 1 := by
  induction units with
  | nil => simp only [lengthPrefixed_nil, frameUnits_nil, List.not_mem_nil, false_implies,
      implies_true]
  | cons u us ih =>
      have hfield : (bigEndianBytes 4 u.length).length = startCode.length :=
        length_bigEndianBytes 4 u.length
      have hone := bigEndianBytes_eq_startCode_iff (hlt u (List.mem_cons_self ..))
      have hrest := ih (fun v hv => hlt v (List.mem_cons_of_mem u hv))
      rw [lengthPrefixed_cons, frameUnits_cons, List.append_assoc, List.forall_mem_cons]
      constructor
      · intro heq
        -- Both fields have four bytes, so they agree apart from the rest.
        rcases List.append_inj heq hfield with ⟨hhead, htail⟩
        exact ⟨hone.mp hhead, hrest.mp (List.append_cancel_left htail)⟩
      · rintro ⟨hu, hus⟩
        rw [hone.mpr hu, hrest.mpr hus]

/-- With parameter sets or shorter lengths the length-prefixed form is the shorter
    one, so only four bytes and no parameter sets leave room for equality. -/
theorem lengthPrefixed_eq_frameUnits_iff {size : Nat} (hsize : size ≤ 4) (sets units : List Bytes)
    (hne : units ≠ []) (hlt : ∀ u ∈ units, u.length < 256 ^ size) :
    lengthPrefixed size units = frameUnits sets ++ frameUnits units
      ↔ sets = [] ∧ size = 4 ∧ ∀ u ∈ units, u.length = 1 := by
  have hcount : 0 < units.length := List.length_pos_iff.mpr hne
  constructor
  · intro heq
    have hlen := congrArg List.length heq
    rw [List.length_append, length_lengthPrefixed, length_frameUnits, length_frameUnits] at hlen
    -- Counting bytes: every unit pays at most four for its length and four for its start code.
    have hmul : units.length * size ≤ units.length * 4 := Nat.mul_le_mul_left _ hsize
    have hsets : sets = [] := List.length_eq_zero_iff.mp (by omega)
    have hfour : size = 4 := Nat.eq_of_mul_eq_mul_left hcount (by omega)
    subst hsets hfour
    rw [frameUnits_nil, List.nil_append] at heq
    exact ⟨rfl, rfl, (lengthPrefixed_four_eq_frameUnits_iff units hlt).mp heq⟩
  · rintro ⟨rfl, rfl, hone⟩
    rw [frameUnits_nil, List.nil_append]
    exact (lengthPrefixed_four_eq_frameUnits_iff units hlt).mpr hone

namespace ConfigurationRecord

theorem lengthSizeOf_le (b : UInt8) : lengthSizeOf b ≤ 4 := by
  have hlow : b.toNat &&& 3 ≤ 3 := Nat.and_le_right
  rw [lengthSizeOf, UInt8.toNat_and]
  exact Nat.succ_le_succ hlow

theorem lengthSize_of_ofAvcc? {data : Bytes} {record : ConfigurationRecord}
    (h : ofAvcc? data = some record) : 0 < record.lengthSize ∧ record.lengthSize ≤ 4 := by
  simp only [ofAvcc?, Option.bind_eq_bind, Option.bind_eq_some_iff] at h
  rcases h with ⟨_, _, b, _, _, _, _, _, _, _, _, _, hrecord⟩
  rw [← Option.some.inj hrecord]
  exact ⟨Nat.succ_pos _, lengthSizeOf_le b⟩

theorem lengthSize_of_ofHvcc? {data : Bytes} {record : ConfigurationRecord}
    (h : ofHvcc? data = some record) : 0 < record.lengthSize ∧ record.lengthSize ≤ 4 := by
  simp only [ofHvcc?, Option.bind_eq_bind, Option.bind_eq_some_iff] at h
  rcases h with ⟨_, _, b, _, _, _, _, _, hrecord⟩
  rw [← Option.some.inj hrecord]
  exact ⟨Nat.succ_pos _, lengthSizeOf_le b⟩

end ConfigurationRecord

end Nal

namespace AnnexBFilter

open Nal

/-- Whatever the codec, a record that was taken has lengths of one to four bytes. -/
theorem lengthSize_of_ofExtraData {codec : Codec} {extraData : Option Bytes}
    {record : ConfigurationRecord} (h : (ofExtraData codec extraData).record = some record) :
    0 < record.lengthSize ∧ record.lengthSize ≤ 4 := by
  unfold ofExtraData at h
  split at h
  · exact absurd h (by simp only [reduceCtorEq, not_false_eq_true])
  · split at h
    · exact absurd h (by simp only [reduceCtorEq, not_false_eq_true])
    · -- Only pictures come with a record.
      cases codec with
      | h264 => exact ConfigurationRecord.lengthSize_of_ofAvcc? h
      | h265 => exact ConfigurationRecord.lengthSize_of_ofHvcc? h
      | aac | g711a | g711u | opus =>
          exact absurd h (by simp only [reduceCtorEq, not_false_eq_true])

/-- What a filter with a record makes of units behind their lengths: it reframes them
    exactly if they are not ambiguous. -/
theorem apply_lengthPrefixed {f : AnnexBFilter} {record : ConfigurationRecord}
    (hrecord : f.record = some record) (hpos : 0 < record.lengthSize)
    (hsize : record.lengthSize ≤ 4) (units : List Bytes) (hne : ∀ u ∈ units, u ≠ [])
    (hlt : ∀ u ∈ units, u.length < 256 ^ record.lengthSize) (key : Bool) :
    f.apply (lengthPrefixed record.lengthSize units) key
      = if Ambiguous record.lengthSize units then lengthPrefixed record.lengthSize units
        else (if key then frameUnits record.parameterSets else []) ++ frameUnits units := by
  simp only [apply, hrecord, isAnnexB_lengthPrefixed_iff hpos hsize units hne hlt,
    annexBOfLengthPrefixed, lengthPrefixedUnits_lengthPrefixed hpos (by omega) units hne hlt]

/-- The reframing of units behind their lengths, for every record and every access unit.
    An access unit that is not ambiguous is reframed and an ambiguous one passes as it
    is. That is the right answer only if nothing had to change: the lengths have four
    bytes, all units one, and no parameter sets are due. -/
theorem apply_lengthPrefixed_iff (codec : Codec) (extraData : Bytes) (record : ConfigurationRecord)
    (hrecord : (ofExtraData codec (some extraData)).record = some record) (units : List Bytes)
    (hne : ∀ u ∈ units, u ≠ []) (hlt : ∀ u ∈ units, u.length < 256 ^ record.lengthSize)
    (key : Bool) :
    let f := ofExtraData codec (some extraData)
    let stored := lengthPrefixed record.lengthSize units
    let sets := if key then record.parameterSets else []
    let reframed := frameUnits sets ++ frameUnits units
    (¬ Ambiguous record.lengthSize units → f.apply stored key = reframed)
      ∧ (Ambiguous record.lengthSize units → f.apply stored key = stored)
      ∧ (f.apply stored key = reframed ↔ ¬ Ambiguous record.lengthSize units
          ∨ sets = [] ∧ record.lengthSize = 4 ∧ ∀ u ∈ units, u.length = 1) := by
  intro f stored sets reframed
  rcases lengthSize_of_ofExtraData hrecord with ⟨hpos, hsize⟩
  have hsets : (if key then frameUnits record.parameterSets else []) = frameUnits sets := by
    cases key <;> rfl
  have happly := apply_lengthPrefixed hrecord hpos hsize units hne hlt key
  rw [hsets] at happly
  by_cases hamb : Ambiguous record.lengthSize units
  · -- There is a first unit, since its length is ambiguous.
    have hunits : units ≠ [] := by
      rintro rfl
      exact hamb
    rw [if_pos hamb] at happly
    refine ⟨fun h => absurd hamb h, fun _ => happly, ?_⟩
    rw [happly, lengthPrefixed_eq_frameUnits_iff hsize sets units hunits hlt]
    simp only [hamb, not_true_eq_false, false_or]
  · rw [if_neg hamb] at happly
    exact ⟨fun _ => happly, fun h => absurd h hamb, fun _ => Or.inl hamb, fun _ => happly⟩

/-- A record with lengths of four bytes and two parameter sets, and an access unit of
    two units. Both parameter sets come out in front of the key frame. -/
theorem apply_lengthPrefixed_iff_key_frame :
    let record : Bytes :=
      [1, 0x64, 0, 0x1f, 0xff, 0xe1, 0, 3, 0x67, 0x64, 0x1f, 1, 0, 2, 0x68, 0xeb]
    let units : List Bytes := [[0x06, 0x05], [0x65, 0x88, 0x81]]
    (ofExtraData .h264 (some record)).record = some ⟨4, [[0x67, 0x64, 0x1f], [0x68, 0xeb]]⟩
      ∧ (∀ u ∈ units, u ≠ []) ∧ (∀ u ∈ units, u.length < 256 ^ 4) ∧ ¬ Ambiguous 4 units
      ∧ (ofExtraData .h264 (some record)).apply (lengthPrefixed 4 units) true
        = [0, 0, 0, 1, 0x67, 0x64, 0x1f, 0, 0, 0, 1, 0x68, 0xeb, 0, 0, 0, 1, 0x06, 0x05,
            0, 0, 0, 1, 0x65, 0x88, 0x81] :=
  ⟨by decide, by decide, by decide, by decide,
    (apply_lengthPrefixed_iff .h264 _ ⟨4, [[0x67, 0x64, 0x1f], [0x68, 0xeb]]⟩ (by decide)
      [[0x06, 0x05], [0x65, 0x88, 0x81]] (by decide) (by decide) true).1 (by decide)⟩

/-- A unit of 300 bytes behind a length of four bytes passes as it is: its length
    begins with the short start code. -/
theorem apply_unit_of_three_hundred_bytes :
    let record : Bytes :=
      [1, 0x64, 0, 0x1f, 0xff, 0xe1, 0, 3, 0x67, 0x64, 0x1f, 1, 0, 2, 0x68, 0xeb]
    let units : List Bytes := [List.replicate 300 0x41]
    (ofExtraData .h264 (some record)).record = some ⟨4, [[0x67, 0x64, 0x1f], [0x68, 0xeb]]⟩
      ∧ (∀ u ∈ units, u ≠ []) ∧ (∀ u ∈ units, u.length < 256 ^ 4)
      ∧ (ofExtraData .h264 (some record)).apply (lengthPrefixed 4 units) false
        = lengthPrefixed 4 units
      ∧ (ofExtraData .h264 (some record)).apply (lengthPrefixed 4 units) false
        ≠ frameUnits units := by
  decide +kernel

end AnnexBFilter

end Recode

import Mathlib.Data.List.Induction
import Mathlib.Data.Option.Basic
import Recode.Nal.AnnexBFilter
import Recode.Proofs.Nal.LengthPrefix

/-!
# What counts as a configuration record

The two record layouts are written down here as grammars, without the readers:
fixed bytes, a number of units taken from one of them, the units behind 16-bit
lengths, and bytes at the end that nobody looks at. The readers then turn out to
accept exactly these byte strings and to take from them exactly what the grammar
names.

Both directions matter. That a well-formed record is read is what makes a stream
playable; that nothing else is read keeps a filter from cutting a stream at
lengths that are not there. The second is the one an off-by-one would break: the
smallest record of either layout has no unit at all and nothing behind the last
count, and a record that lacks its last byte is none.

The readers start from the number of units and the grammar starts from the units,
so each step of the proof is an equivalence: a reader answers with units and a
rest exactly if the bytes are these units, written, and then that rest.

## Main definitions

* `Nal.UnitArray`: A group of units in the H.265 layout.
* `Nal.IsAvcc`, `Nal.IsHvcc`: The two layouts.
* `Nal.IsRecordOf`: The layout that goes with a codec.

## Theorems

* `Nal.bigEndianBytes_bigEndian`: A row of bytes is the number it writes, written.
* `Nal.takeUnit?_eq_some_iff`, `Nal.takeUnits?_eq_some_iff`,
  `Nal.takeArrays?_eq_some_iff`: What the readers of units accept.
* `Nal.ConfigurationRecord.ofAvcc?_eq_some_iff`,
  `Nal.ConfigurationRecord.ofHvcc?_eq_some_iff`: What the readers of records accept.
* `AnnexBFilter.ofExtraData_layout`: Which extra data make an active filter, and
  what is in it.
-/

namespace Recode

namespace Nal

/-- A group of units in the H.265 layout: a byte that says what the units are,
    and the units. -/
structure UnitArray where
  /-- What the units are. Readers leave it alone. -/
  kind : UInt8
  /-- The units. -/
  units : List Bytes
  /-- There is room for the number of units. -/
  count_lt : units.length < 256 ^ 2
  /-- There is room for their lengths. -/
  length_lt : ∀ u ∈ units, u.length < 256 ^ 2

/-- A group as it stands in a record. -/
def UnitArray.bytes (group : UnitArray) : Bytes :=
  group.kind :: (bigEndianBytes 2 group.units.length ++ lengthPrefixed 2 group.units)

/-- The H.264 layout, and what it says: version one, three bytes about the profile,
    the length size, the number of sequence parameter sets in the low five bits of a
    byte, the sets, the number of picture parameter sets, the sets, and a tail. -/
inductive IsAvcc : Bytes → ConfigurationRecord → Prop
  | intro (profile compatibility level lengthByte sequenceByte pictureByte : UInt8)
      (sequenceSets pictureSets : List Bytes) (tail : Bytes)
      (hsequence : sequenceSets.length = sequenceByte.toNat % 32)
      (hpicture : pictureSets.length = pictureByte.toNat)
      (hlength : ∀ u ∈ sequenceSets ++ pictureSets, u.length < 256 ^ 2) :
      IsAvcc
        ([1, profile, compatibility, level, lengthByte, sequenceByte]
          ++ (lengthPrefixed 2 sequenceSets
            ++ pictureByte :: (lengthPrefixed 2 pictureSets ++ tail)))
        ⟨lengthByte.toNat % 4 + 1, sequenceSets ++ pictureSets⟩

/-- The H.265 layout, and what it says: a header of 23 bytes that begins with
    version one and ends in the length size and the number of groups, the groups,
    and a tail. -/
inductive IsHvcc : Bytes → ConfigurationRecord → Prop
  | intro (about : Bytes) (lengthByte countByte : UInt8) (groups : List UnitArray) (tail : Bytes)
      (habout : about.length = 20) (hcount : groups.length = countByte.toNat) :
      IsHvcc
        (1 :: (about ++ lengthByte :: countByte :: (groups.flatMap UnitArray.bytes ++ tail)))
        ⟨lengthByte.toNat % 4 + 1, groups.flatMap UnitArray.units⟩

/-- The byte string is a configuration record of a stream with this codec, and says
    what `record` holds. -/
def IsRecordOf : Codec → Bytes → ConfigurationRecord → Prop
  | .h264 => IsAvcc
  | .h265 => IsHvcc
  | _ => fun _ _ => False

/-! ## Numbers -/

/-- Bytes write a number that fits them. -/
theorem bigEndian_lt (bytes : Bytes) : bigEndian bytes < 256 ^ bytes.length := by
  -- From the back, since the last byte is the one that is not scaled.
  induction bytes using List.reverseRecOn with
  | nil => exact Nat.one_pos
  | append_singleton bytes b ih =>
      have hlast : bigEndian [b] < 256 := by
        simpa only [bigEndian, List.foldl_cons, List.foldl_nil, zero_mul, zero_add]
          using b.toNat_lt
      rw [bigEndian_append, List.length_append, List.length_singleton, pow_one, pow_succ]
      omega

/-- A row of bytes is the number it writes, written. -/
theorem bigEndianBytes_bigEndian (bytes : Bytes) :
    bigEndianBytes bytes.length (bigEndian bytes) = bytes := by
  -- From the back, as the number is written.
  induction bytes using List.reverseRecOn with
  | nil => rfl
  | append_singleton bytes b ih =>
      have hlast : bigEndian [b] = b.toNat := by
        simp only [bigEndian, List.foldl_cons, List.foldl_nil, zero_mul, zero_add]
      have hb : b.toNat < 256 := b.toNat_lt
      have hfront : (bigEndian bytes * 256 + b.toNat) / 256 = bigEndian bytes := by omega
      have hbyte : UInt8.ofNat (bigEndian bytes * 256 + b.toNat) = b := by
        rw [← UInt8.toNat_inj, UInt8.toNat_ofNat']
        omega
      rw [bigEndian_append, List.length_append, List.length_singleton, pow_one, hlast,
        bigEndianBytes, hfront, hbyte, ih]

/-- A number of two bytes is these two bytes, read and written again. -/
theorem bigEndian_pair_iff (high low : UInt8) (n : Nat) :
    bigEndian [high, low] = n ↔ n < 256 ^ 2 ∧ [high, low] = bigEndianBytes 2 n := by
  constructor
  · rintro rfl
    exact ⟨bigEndian_lt [high, low], (bigEndianBytes_bigEndian [high, low]).symm⟩
  · rintro ⟨hlt, heq⟩
    rw [heq, bigEndian_bigEndianBytes 2 n hlt]

/-! ## The readers of units -/

/-- A unit is taken exactly if its length is in front of it and all of it is there. -/
theorem takeUnit?_eq_some_iff (data unit rest : Bytes) :
    takeUnit? data = some (unit, rest)
      ↔ unit.length < 256 ^ 2 ∧ data = bigEndianBytes 2 unit.length ++ (unit ++ rest) := by
  constructor
  · intro h
    rcases data with _ | ⟨high, _ | ⟨low, behind⟩⟩
    · exact absurd h (by simp only [takeUnit?, reduceCtorEq, not_false_eq_true])
    · exact absurd h (by simp only [takeUnit?, reduceCtorEq, not_false_eq_true])
    · simp only [takeUnit?, Option.ite_none_right_eq_some, Option.some.injEq, Prod.mk.injEq] at h
      obtain ⟨hroom, rfl, rfl⟩ := h
      -- The reader has checked that the unit has the length it says.
      have hlen : bigEndian [high, low] = (behind.take (bigEndian [high, low])).length := by
        rw [List.length_take, Nat.min_eq_left hroom]
      obtain ⟨hlt, hfield⟩ := (bigEndian_pair_iff high low _).mp hlen
      refine ⟨hlt, ?_⟩
      rw [← hfield, List.take_append_drop]
      rfl
  · rintro ⟨hlt, rfl⟩
    have hfield : bigEndian (bigEndianBytes 2 unit.length) = unit.length :=
      bigEndian_bigEndianBytes 2 unit.length hlt
    simp only [bigEndianBytes, List.nil_append, List.cons_append] at hfield ⊢
    simp only [takeUnit?, hfield, List.length_append, Nat.le_add_right, if_true, List.take_left,
      List.drop_left]

/-- Units are taken exactly if they are behind their lengths and of the right number. -/
theorem takeUnits?_eq_some_iff (count : Nat) (data : Bytes) (units : List Bytes) (rest : Bytes) :
    takeUnits? count data = some (units, rest)
      ↔ units.length = count ∧ (∀ u ∈ units, u.length < 256 ^ 2)
        ∧ data = lengthPrefixed 2 units ++ rest := by
  induction count generalizing data units with
  | zero =>
      constructor
      · intro h
        simp only [takeUnits?, Option.some.injEq, Prod.mk.injEq] at h
        obtain ⟨rfl, rfl⟩ := h
        exact ⟨rfl, fun u hu => absurd hu List.not_mem_nil, rfl⟩
      · rintro ⟨hnone, -, rfl⟩
        rw [List.length_eq_zero_iff.mp hnone]
        rfl
  | succ count ih =>
      constructor
      · intro h
        simp only [takeUnits?, Option.bind_eq_bind, Option.bind_eq_some_iff, Option.pure_def,
          Option.some.injEq, Prod.exists, Prod.mk.injEq] at h
        obtain ⟨unit, behind, hunit, more, last, hmore, rfl, rfl⟩ := h
        -- The first unit is off, and the others are read from what is behind it.
        obtain ⟨hfirst, rfl⟩ := (takeUnit?_eq_some_iff data unit behind).mp hunit
        obtain ⟨hcount, hrest, rfl⟩ := (ih behind more).mp hmore
        refine ⟨by rw [List.length_cons, hcount], List.forall_mem_cons.mpr ⟨hfirst, hrest⟩, ?_⟩
        rw [lengthPrefixed_cons, List.append_assoc, List.append_assoc]
      · rintro ⟨hcount, hlength, rfl⟩
        rcases units with _ | ⟨unit, more⟩
        · exact absurd hcount (by simp only [List.length_nil, Nat.zero_ne_add_one,
            not_false_eq_true])
        · have hunit := (takeUnit?_eq_some_iff
            (lengthPrefixed 2 (unit :: more) ++ rest) unit (lengthPrefixed 2 more ++ rest)).mpr
            ⟨hlength unit (List.mem_cons_self ..),
              by rw [lengthPrefixed_cons, List.append_assoc, List.append_assoc]⟩
          have hmore := (ih (lengthPrefixed 2 more ++ rest) more).mpr
            ⟨Nat.succ.inj hcount, fun u hu => hlength u (List.mem_cons_of_mem unit hu), rfl⟩
          simp only [takeUnits?, hunit, hmore, Option.bind_eq_bind, Option.bind_some,
            Option.pure_def]

/-- A group begins with a byte about its units and two for their number. -/
theorem UnitArray.bytes_append (group : UnitArray) (rest : Bytes) :
    ∃ high low, bigEndian [high, low] = group.units.length
      ∧ group.bytes ++ rest
        = group.kind :: high :: low :: (lengthPrefixed 2 group.units ++ rest) := by
  refine ⟨_, _, ?_, rfl⟩
  exact bigEndian_bigEndianBytes 2 group.units.length group.count_lt

/-- Units are taken exactly if they are those of groups of the right number. -/
theorem takeArrays?_eq_some_iff (count : Nat) (data : Bytes) (units : List Bytes)
    (rest : Bytes) :
    takeArrays? count data = some (units, rest)
      ↔ ∃ groups : List UnitArray, groups.length = count
        ∧ units = groups.flatMap UnitArray.units
        ∧ data = groups.flatMap UnitArray.bytes ++ rest := by
  -- Along the groups as along the units, with a number of units read in front of each.
  induction count generalizing data units with
  | zero =>
      constructor
      · intro h
        simp only [takeArrays?, Option.some.injEq, Prod.mk.injEq] at h
        obtain ⟨rfl, rfl⟩ := h
        exact ⟨[], rfl, rfl, rfl⟩
      · rintro ⟨groups, hnone, rfl, rfl⟩
        rw [List.length_eq_zero_iff.mp hnone]
        rfl
  | succ count ih =>
      constructor
      · intro h
        rcases data with _ | ⟨kind, _ | ⟨high, _ | ⟨low, behind⟩⟩⟩
        · exact absurd h (by simp only [takeArrays?, reduceCtorEq, not_false_eq_true])
        · exact absurd h (by simp only [takeArrays?, reduceCtorEq, not_false_eq_true])
        · exact absurd h (by simp only [takeArrays?, reduceCtorEq, not_false_eq_true])
        · simp only [takeArrays?, Option.bind_eq_bind, Option.bind_eq_some_iff, Option.pure_def,
            Option.some.injEq, Prod.exists, Prod.mk.injEq] at h
          obtain ⟨first, next, hfirst, more, last, hmore, rfl, rfl⟩ := h
          obtain ⟨hcount, hlength, rfl⟩ := (takeUnits?_eq_some_iff _ behind first next).mp hfirst
          obtain ⟨groups, hgroups, rfl, rfl⟩ := (ih next more).mp hmore
          -- The two bytes make the group that they were read for.
          obtain ⟨hlt, hfield⟩ := (bigEndian_pair_iff high low first.length).mp hcount.symm
          refine ⟨⟨kind, first, hlt, hlength⟩ :: groups, ?_, ?_, ?_⟩
          · rw [List.length_cons, hgroups]
          · rw [List.flatMap_cons]
          · rw [List.flatMap_cons, UnitArray.bytes, ← hfield]
            simp only [List.cons_append, List.nil_append, List.append_assoc]
      · rintro ⟨groups, hcount, rfl, rfl⟩
        rcases groups with _ | ⟨group, more⟩
        · exact absurd hcount (by simp only [List.length_nil, Nat.zero_ne_add_one,
            not_false_eq_true])
        · obtain ⟨high, low, hfield, hbytes⟩ :=
            group.bytes_append (more.flatMap UnitArray.bytes ++ rest)
          have hunits := (takeUnits?_eq_some_iff group.units.length
            (lengthPrefixed 2 group.units ++ (more.flatMap UnitArray.bytes ++ rest)) group.units
            (more.flatMap UnitArray.bytes ++ rest)).mpr ⟨rfl, group.length_lt, rfl⟩
          have hmore := (ih (more.flatMap UnitArray.bytes ++ rest)
            (more.flatMap UnitArray.units)).mpr ⟨more, Nat.succ.inj hcount, rfl, rfl⟩
          rw [List.flatMap_cons, List.append_assoc, hbytes, List.flatMap_cons]
          simp only [takeArrays?, hfield, hunits, hmore, Option.bind_eq_bind, Option.bind_some,
            Option.pure_def]

/-! ## The readers of records -/

namespace ConfigurationRecord

theorem lengthSizeOf_eq (b : UInt8) : lengthSizeOf b = b.toNat % 4 + 1 := by
  have hmask : (b &&& 0x03).toNat = b.toNat % 4 := by
    rw [UInt8.toNat_and]
    exact Nat.and_two_pow_sub_one_eq_mod b.toNat 2
  rw [lengthSizeOf, hmask]

theorem toNat_and_31 (b : UInt8) : (b &&& 0x1f).toNat = b.toNat % 32 := by
  rw [UInt8.toNat_and]
  exact Nat.and_two_pow_sub_one_eq_mod b.toNat 5

/-- A record is read exactly if it has the H.264 layout. -/
theorem ofAvcc?_eq_some_iff (data : Bytes) (record : ConfigurationRecord) :
    ofAvcc? data = some record ↔ IsAvcc data record := by
  constructor
  · intro h
    simp only [ofAvcc?, Option.bind_eq_bind, Option.bind_eq_some_iff, Option.guard_eq_some',
      List.head?_eq_some_iff, Option.pure_def, Option.some.injEq, Prod.exists] at h
    obtain ⟨-, ⟨rest, rfl⟩, lengthByte, hlengthByte, sequenceByte, hsequenceByte, sequenceSets,
      -, hfirst, pictureByte, ⟨behind, rfl⟩, pictureSets, tail, hsecond, rfl⟩ := h
    -- The count in the sixth byte is only there if the five bytes before it are.
    rcases rest with _ | ⟨profile, _ | ⟨compatibility, _ | ⟨level, _ | ⟨b, _ | ⟨c, rest⟩⟩⟩⟩⟩ <;>
      simp only [List.getElem?_cons_succ, List.getElem?_cons_zero, List.getElem?_nil,
        Option.some.injEq, reduceCtorEq] at hlengthByte hsequenceByte
    obtain rfl := hlengthByte
    obtain rfl := hsequenceByte
    obtain ⟨hsequence, hfits, hrest⟩ := (takeUnits?_eq_some_iff _ _ _ _).mp hfirst
    obtain ⟨hpicture, hfits', hbehind⟩ := (takeUnits?_eq_some_iff _ _ _ _).mp hsecond
    have hlayout := IsAvcc.intro profile compatibility level b c pictureByte sequenceSets
      pictureSets tail
      (by rw [hsequence, toNat_and_31]) hpicture (List.forall_mem_append.mpr ⟨hfits, hfits'⟩)
    rw [List.tail_cons] at hbehind
    simp only [List.drop_succ_cons, List.drop_zero] at hrest
    rwa [← hbehind, ← hrest, ← lengthSizeOf_eq] at hlayout
  · rintro ⟨profile, compatibility, level, lengthByte, sequenceByte, pictureByte, sequenceSets,
      pictureSets, tail, hsequence, hpicture, hlength⟩
    -- What the layout names is put in, and every step of the reader succeeds.
    obtain ⟨hfits, hfits'⟩ := List.forall_mem_append.mp hlength
    have hfirst := (takeUnits?_eq_some_iff (sequenceByte &&& 0x1f).toNat
      (lengthPrefixed 2 sequenceSets ++ pictureByte :: (lengthPrefixed 2 pictureSets ++ tail))
      sequenceSets (pictureByte :: (lengthPrefixed 2 pictureSets ++ tail))).mpr
      ⟨by rw [hsequence, toNat_and_31], hfits, rfl⟩
    have hsecond := (takeUnits?_eq_some_iff pictureByte.toNat
      (lengthPrefixed 2 pictureSets ++ tail) pictureSets tail).mpr ⟨hpicture, hfits', rfl⟩
    simp only [ofAvcc?, List.cons_append, List.nil_append, List.head?_cons,
      List.getElem?_cons_succ, List.getElem?_cons_zero, List.drop_succ_cons, List.drop_zero,
      hfirst, hsecond, List.tail_cons, lengthSizeOf_eq, guard, if_true, Option.bind_eq_bind,
      Option.bind_some, Option.pure_def]

/-- The smallest record has no parameter sets and needs the second count all the same. -/
example :
    ofAvcc? [1, 0x64, 0, 0x1f, 0xff, 0xe0, 0] = some ⟨4, []⟩
      ∧ ofAvcc? [1, 0x64, 0, 0x1f, 0xff, 0xe0] = none := by
  decide

/-- Two neighbouring entries split a list at their place. -/
theorem eq_append_of_getElem? {data : Bytes} {n : Nat} {b c : UInt8} (hb : data[n]? = some b)
    (hc : data[n + 1]? = some c) : data = data.take n ++ b :: c :: data.drop (n + 2) := by
  obtain ⟨hn, rfl⟩ := List.getElem?_eq_some_iff.mp hb
  obtain ⟨hn', rfl⟩ := List.getElem?_eq_some_iff.mp hc
  rw [← List.drop_eq_getElem_cons hn', ← List.drop_eq_getElem_cons hn, List.take_append_drop]

/-- A record is read exactly if it has the H.265 layout. -/
theorem ofHvcc?_eq_some_iff (data : Bytes) (record : ConfigurationRecord) :
    ofHvcc? data = some record ↔ IsHvcc data record := by
  constructor
  · intro h
    simp only [ofHvcc?, Option.bind_eq_bind, Option.bind_eq_some_iff, Option.guard_eq_some',
      List.head?_eq_some_iff, Option.pure_def, Option.some.injEq, Prod.exists] at h
    obtain ⟨-, ⟨rest, rfl⟩, lengthByte, hlengthByte, countByte, hcountByte, sets, tail, hsets,
      rfl⟩ := h
    -- The two bytes that are read show that the twenty before them are there.
    rw [List.getElem?_cons_succ] at hlengthByte hcountByte
    have hrest := eq_append_of_getElem? hlengthByte hcountByte
    have habout : (rest.take 20).length = 20 := by
      obtain ⟨hroom, -⟩ := List.getElem?_eq_some_iff.mp hlengthByte
      rw [List.length_take, Nat.min_eq_left hroom.le]
    obtain ⟨groups, hgroups, rfl, hbehind⟩ := (takeArrays?_eq_some_iff _ _ _ _).mp hsets
    have hlayout := IsHvcc.intro (rest.take 20) lengthByte countByte groups tail habout hgroups
    rw [List.drop_succ_cons] at hbehind
    rwa [← hbehind, ← hrest, ← lengthSizeOf_eq] at hlayout
  · rintro ⟨about, lengthByte, countByte, groups, tail, habout, hcount⟩
    have hgroups := (takeArrays?_eq_some_iff countByte.toNat
      (groups.flatMap UnitArray.bytes ++ tail) (groups.flatMap UnitArray.units) tail).mpr
      ⟨groups, hcount, rfl, rfl⟩
    -- The bytes at fixed offsets are behind the twenty that say nothing here.
    have hlengthByte : (about ++ lengthByte :: countByte
        :: (groups.flatMap UnitArray.bytes ++ tail))[20]? = some lengthByte := by
      rw [← habout, List.getElem?_append_right (Nat.le_refl _), Nat.sub_self]
      rfl
    have hcountByte : (about ++ lengthByte :: countByte
        :: (groups.flatMap UnitArray.bytes ++ tail))[21]? = some countByte := by
      rw [List.getElem?_append_right (by omega), habout]
      rfl
    have hdrop : (about ++ lengthByte :: countByte
        :: (groups.flatMap UnitArray.bytes ++ tail)).drop 22
        = groups.flatMap UnitArray.bytes ++ tail := by
      rw [List.drop_append, habout, List.drop_of_length_le (by omega)]
      rfl
    simp only [ofHvcc?, List.head?_cons, List.getElem?_cons_succ, List.drop_succ_cons,
      hlengthByte, hcountByte, hdrop, hgroups, lengthSizeOf_eq, guard, if_true,
      Option.bind_eq_bind, Option.bind_some, Option.pure_def]

end ConfigurationRecord

/-- A record begins with its version, so it does not begin with a start code. -/
theorem IsRecordOf.not_isAnnexB {codec : Codec} {data : Bytes} {record : ConfigurationRecord}
    (h : IsRecordOf codec data record) : isAnnexB data = false := by
  have hversion : ∀ rest : Bytes, isAnnexB (1 :: rest) = false := by
    intro rest
    rfl
  cases codec with
  | h264 => cases h; exact hversion _
  | h265 => cases h; exact hversion _
  | _ => exact h.elim

end Nal

namespace AnnexBFilter

open Nal

/-- The filter of a stream holds a record exactly if the extra data are one. -/
theorem ofExtraData_record_iff (codec : Codec) (extraData : Option Bytes)
    (record : ConfigurationRecord) :
    (ofExtraData codec extraData).record = some record
      ↔ ∃ data, extraData = some data ∧ IsRecordOf codec data record := by
  rcases extraData with _ | data
  · simp only [ofExtraData, reduceCtorEq, false_and, exists_false]
  · simp only [Option.some.injEq, exists_eq_left']
    by_cases hannexB : isAnnexB data = true
    · -- What begins with a start code is passed over, and it is no record either.
      have hno : ¬ IsRecordOf codec data record := fun h => by
        rw [h.not_isAnnexB] at hannexB
        exact Bool.noConfusion hannexB
      simp only [ofExtraData, hannexB, if_true, hno, reduceCtorEq]
    · cases codec with
      | h264 =>
          rw [ofExtraData, if_neg hannexB]
          exact ConfigurationRecord.ofAvcc?_eq_some_iff data record
      | h265 =>
          rw [ofExtraData, if_neg hannexB]
          exact ConfigurationRecord.ofHvcc?_eq_some_iff data record
      | _ => simp only [ofExtraData, hannexB, if_false, IsRecordOf, reduceCtorEq]

/-- The filter of a stream is active exactly if the extra data are a configuration
    record of its codec; then it takes lengths and parameter sets from the record.
    Every other filter has no parameter sets and changes no packet. -/
theorem ofExtraData_layout (codec : Codec) (extraData : Option Bytes) :
    ((ofExtraData codec extraData).isActive = true
        ↔ ∃ data record, extraData = some data ∧ IsRecordOf codec data record)
      ∧ (∀ data record, extraData = some data → IsRecordOf codec data record →
          (ofExtraData codec extraData).record.map ConfigurationRecord.lengthSize
              = some record.lengthSize
            ∧ (ofExtraData codec extraData).parameterSets
              = some (frameUnits record.parameterSets))
      ∧ ((ofExtraData codec extraData).isActive = false →
          (ofExtraData codec extraData).parameterSets = none
            ∧ ∀ (packet : Bytes) (key : Bool),
              (ofExtraData codec extraData).apply packet key = packet) := by
  refine ⟨?_, ?_, ?_⟩
  · rw [isActive, Option.isSome_iff_exists]
    simp only [ofExtraData_record_iff]
    exact exists_comm
  · intro data record hdata hrecord
    have hholds := (ofExtraData_record_iff codec extraData record).mpr ⟨data, hdata, hrecord⟩
    rw [parameterSets, hholds]
    exact ⟨rfl, rfl⟩
  · intro hinactive
    -- Only a record makes a filter active, so an inactive one has none.
    have hnone : (ofExtraData codec extraData).record = none :=
      Option.not_isSome_iff_eq_none.mp (by rw [← isActive, hinactive]; exact Bool.false_ne_true)
    exact ⟨by rw [parameterSets, hnone]; rfl, apply_of_inactive hinactive⟩

/-- A record with a tail: a header that asks for lengths of four bytes, one group, and
    in it one unit. -/
theorem ofExtraData_layout_with_tail :
    IsRecordOf .h265
        (1 :: (List.replicate 20 0 ++ [3, 1, 0xa1, 0, 1, 0, 2, 0x44, 0x01, 9, 9]))
        ⟨4, [[0x44, 0x01]]⟩
      ∧ (ofExtraData .h265 (some
          (1 :: (List.replicate 20 0 ++ [3, 1, 0xa1, 0, 1, 0, 2, 0x44, 0x01, 9, 9])))).parameterSets
        = some [0, 0, 0, 1, 0x44, 0x01] := by
  have hrecord : IsRecordOf .h265
      (1 :: (List.replicate 20 0 ++ [3, 1, 0xa1, 0, 1, 0, 2, 0x44, 0x01, 9, 9]))
      ⟨4, [[0x44, 0x01]]⟩ := by
    have hlayout := IsHvcc.intro (List.replicate 20 0) 3 1
      [UnitArray.mk 0xa1 [[0x44, 0x01]] (by decide) (by decide)] [9, 9] List.length_replicate rfl
    exact hlayout
  exact ⟨hrecord, ((ofExtraData_layout .h265 _).2.1 _ _ rfl hrecord).2⟩

end AnnexBFilter

end Recode

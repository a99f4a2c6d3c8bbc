import Recode.Media.AccessUnit
import Recode.Proofs.Nal.Reframing

/-!
# Classifying access units in Annex B form

What a frame is, a key frame or parameter sets, is read off the header bytes that
the scanner finds. This module shows that the scanner finds the right ones: the
first byte of every unit that the access unit was put together from, once, in
order, and nothing else.

The units may stand behind start codes of either form, in any mix, and the only
thing asked of a unit is that the bytes of a start code do not occur inside it,
which is what emulation prevention is for. That leaves one place where the scanner
goes another way than the writer did. If a unit ends in a zero and the short form
follows, the two together are the long form, one byte early. The scanner takes it,
and since it looks for the header behind the start code rather than at a fixed
distance, it lands on the same byte. No other overlap is possible: a start code
that begins inside a unit and ends behind it would need its one among the zeros
that the next start code begins with.

## Main definitions

* `Nal.FramedUnit`: A unit and the form of the start code in front of it.
* `Nal.FramedUnit.join`: The units, each behind its start code.

## Theorems

* `Nal.headersAfterStartCodes_append`: One step of the scanner at a start code.
* `Nal.FramedUnit.code_across`: The one way a start code can begin inside a unit.
* `Nal.headersAfterStartCodes_join`: The scanner reports each unit's header.
* `Nal.unitHeaders_join`: The headers of an access unit are those of its units.
* `AccessUnit.traits_join`: What a frame of such units is classified as.
-/

namespace Recode

namespace Nal

/-- A NAL unit and the form of the start code in front of it. The unit has a header
    byte, and the bytes of a start code do not occur inside it. -/
structure FramedUnit where
  /-- The start code has the long form. -/
  long : Bool
  /-- The first byte of the unit. -/
  header : UInt8
  /-- The further bytes of the unit. -/
  payload : Bytes
  /-- No start code begins and ends inside the unit. -/
  no_code : ¬ shortStartCode <:+: header :: payload

namespace FramedUnit

/-- The bytes of the unit. -/
def bytes (u : FramedUnit) : Bytes := u.header :: u.payload

/-- The start code in front of the unit. -/
def code (u : FramedUnit) : Bytes := if u.long then startCode else shortStartCode

/-- The units in Annex B form, each behind its start code. -/
def join (units : List FramedUnit) : Bytes := units.flatMap fun u => u.code ++ u.bytes

theorem join_cons (u : FramedUnit) (us : List FramedUnit) :
    join (u :: us) = u.code ++ (u.bytes ++ join us) := by
  rw [join, List.flatMap_cons, List.append_assoc]
  rfl

/-- Units behind start codes of the long form are in the form this library writes. -/
theorem frameUnits_eq_join (units : List FramedUnit) (hlong : ∀ u ∈ units, u.long = true) :
    frameUnits (units.map bytes) = join units := by
  induction units with
  | nil => rfl
  | cons u us ih =>
      have hu : u.code = startCode := by
        rw [code, hlong u (List.mem_cons_self ..), if_pos rfl]
      rw [List.map_cons, frameUnits_cons, join_cons, hu, List.append_assoc,
        ih fun v hv => hlong v (List.mem_cons_of_mem u hv)]

end FramedUnit

/-! ## One step of the scanner -/

@[simp] theorem startCodeLength_shortStartCode_append (data : Bytes) :
    startCodeLength (shortStartCode ++ data) = 3 := by
  have hlong : startCode.isPrefixOf (shortStartCode ++ data) = false := rfl
  have hshort : shortStartCode.isPrefixOf (shortStartCode ++ data) = true :=
    List.isPrefixOf_iff_prefix.mpr (List.prefix_append _ _)
  rw [startCodeLength, hlong, hshort]
  rfl

theorem headersAfterStartCodes_of_not_isAnnexB {b : UInt8} {rest : Bytes}
    (h : ¬ isAnnexB (b :: rest) = true) :
    headersAfterStartCodes (b :: rest) = headersAfterStartCodes rest := by
  have hnone : startCodeLength (b :: rest) = 0 := by
    simpa only [isAnnexB, bne_iff_ne, ne_eq, not_not] using h
  rw [headersAfterStartCodes, hnone]

/-- Behind a start code comes a header byte, and scanning resumes on it. -/
theorem headersAfterStartCodes_append {code data : Bytes}
    (hlen : startCodeLength (code ++ data) = code.length) (hne : code ≠ []) :
    headersAfterStartCodes (code ++ data) = data.head?.toList ++ headersAfterStartCodes data := by
  rcases code with _ | ⟨b, rest⟩
  · exact absurd rfl hne
  · rw [List.cons_append] at hlen ⊢
    rw [headersAfterStartCodes, hlen, List.length_cons]
    simp only [List.drop_left]

namespace FramedUnit

theorem code_eq (u : FramedUnit) : u.code = startCode ∨ u.code = shortStartCode := by
  by_cases hlong : u.long = true
  · exact Or.inl (by rw [code, if_pos hlong])
  · exact Or.inr (by rw [code, if_neg hlong])

theorem startCodeLength_code_append (u : FramedUnit) (data : Bytes) :
    startCodeLength (u.code ++ data) = u.code.length := by
  rcases u.code_eq with hcode | hcode
  · rw [hcode, startCodeLength_startCode_append]
    rfl
  · rw [hcode, startCodeLength_shortStartCode_append]
    rfl

theorem code_ne_nil (u : FramedUnit) : u.code ≠ [] := by
  rcases u.code_eq with hcode | hcode <;> rw [hcode] <;> exact List.cons_ne_nil _ _

end FramedUnit

/-! ## The scanner on a row of units -/

/-- Behind a unit there is nothing, or a start code, which begins with two zeros. -/
theorem FramedUnit.not_one_prefix_join (units : List FramedUnit) :
    ¬ [1] <+: join units ∧ ¬ [0, 1] <+: join units := by
  rcases units with _ | ⟨u, us⟩
  · exact ⟨by decide, by decide⟩
  · have hzeros : ∃ data, u.code = 0 :: 0 :: data := by
      rcases u.code_eq with hcode | hcode <;> exact ⟨_, hcode⟩
    obtain ⟨data, hzeros⟩ := hzeros
    -- The third byte may be a one, but not the first or the second.
    have hone : (1 : UInt8) ≠ 0 := by decide
    rw [join_cons, hzeros]
    simp only [List.cons_append, List.cons_prefix_cons, hone, false_and, and_false,
      not_false_eq_true, and_self]

/-- A start code that begins inside a unit and not at its last byte would lie inside the
    unit, or have its one among the zeros of the next start code. -/
theorem FramedUnit.code_across {b : UInt8} {bytes : Bytes} {units : List FramedUnit}
    (hbytes : ¬ shortStartCode <:+: b :: bytes)
    (hcode : isAnnexB (b :: (bytes ++ join units)) = true) :
    b = 0 ∧ bytes = [] ∧ ∃ data, join units = shortStartCode ++ data := by
  obtain ⟨hone, hzero⟩ := not_one_prefix_join units
  simp only [isAnnexB_iff, startCode, shortStartCode, List.cons_prefix_cons] at hcode
  -- How much of the unit is left decides where the one of the start code would be.
  rcases bytes with _ | ⟨c, _ | ⟨d, more⟩⟩
  · -- The last byte: a zero in front of the short form. The short form at this byte would need a
    -- one as the second byte of the next start code.
    rcases hcode with ⟨hb, data, hshort⟩ | ⟨-, hcode⟩
    · exact ⟨hb.symm, rfl, data, hshort.symm⟩
    · exact absurd hcode hzero
  · simp only [List.cons_append, List.nil_append, List.cons_prefix_cons] at hcode
    rcases hcode with ⟨-, -, hcode⟩ | ⟨-, -, hcode⟩
    · exact absurd hcode hzero
    · exact absurd hcode hone
  · simp only [List.cons_append, List.cons_prefix_cons] at hcode
    rcases hcode with ⟨-, rfl, rfl, hcode⟩ | ⟨rfl, rfl, rfl, -⟩
    · -- The one of the long form stands behind the unit, or in it, and then the short form is
      -- inside as well.
      rcases more with _ | ⟨e, more⟩
      · exact absurd hcode hone
      · obtain ⟨rfl, -⟩ := List.cons_prefix_cons.mp hcode
        exact absurd ⟨[b], more, rfl⟩ hbytes
    · exact absurd ⟨[], more, rfl⟩ hbytes

/-- The bytes of a unit are passed over, down to a zero that the short form behind the
    unit makes into the long one. -/
theorem headersAfterStartCodes_append_join (bytes : Bytes) (hbytes : ¬ shortStartCode <:+: bytes)
    (units : List FramedUnit) :
    headersAfterStartCodes (bytes ++ FramedUnit.join units)
      = headersAfterStartCodes (FramedUnit.join units) := by
  induction bytes with
  | nil => rfl
  | cons b bytes ih =>
      by_cases hcode : isAnnexB (b :: (bytes ++ FramedUnit.join units)) = true
      · obtain ⟨rfl, rfl, data, hjoin⟩ := FramedUnit.code_across hbytes hcode
        -- Both forms leave the scanner on the same byte.
        have hshort := headersAfterStartCodes_append
          (startCodeLength_shortStartCode_append data) (List.cons_ne_nil _ _)
        have hlong := headersAfterStartCodes_append (startCodeLength_startCode_append data)
          (List.cons_ne_nil _ _)
        rw [hjoin, hshort]
        exact hlong
      · rw [List.cons_append, headersAfterStartCodes_of_not_isAnnexB hcode]
        exact ih fun h => hbytes (h.trans (List.suffix_cons b bytes).isInfix)

/-- The scanner reports the header of every unit, and nothing else. -/
theorem headersAfterStartCodes_join (units : List FramedUnit) :
    headersAfterStartCodes (FramedUnit.join units) = units.map FramedUnit.header := by
  induction units with
  | nil => rw [FramedUnit.join, List.flatMap_nil, headersAfterStartCodes, List.map_nil]
  | cons u us ih =>
      -- Over the start code, then over the unit, to the next start code.
      rw [FramedUnit.join_cons,
        headersAfterStartCodes_append (u.startCodeLength_code_append _) u.code_ne_nil,
        headersAfterStartCodes_append_join u.bytes u.no_code, ih]
      rfl

theorem unitHeaders_join (u : FramedUnit) (us : List FramedUnit) :
    unitHeaders (FramedUnit.join (u :: us)) = (u :: us).map FramedUnit.header := by
  have hcode : isAnnexB (FramedUnit.join (u :: us)) = true := by
    rw [isAnnexB, FramedUnit.join_cons, u.startCodeLength_code_append, bne_iff_ne]
    exact fun h => u.code_ne_nil (List.length_eq_zero_iff.mp h)
  rw [unitHeaders, if_pos hcode, headersAfterStartCodes_join]

/-! ## What the header says -/

theorem h264UnitType_toNat (header : UInt8) :
    (h264UnitType header).toNat = header.toNat % 32 := by
  rw [h264UnitType, UInt8.toNat_and]
  exact Nat.and_two_pow_sub_one_eq_mod header.toNat 5

/-- The six bits between the first and the last of the header. -/
theorem h265UnitType_toNat (header : UInt8) :
    (h265UnitType header).toNat = header.toNat / 2 % 64 := by
  rw [h265UnitType, UInt8.toNat_and, UInt8.toNat_shiftRight]
  have hmask : header.toNat >>> 1 &&& 63 = (header.toNat >>> 1) % 64 :=
    Nat.and_two_pow_sub_one_eq_mod (header.toNat >>> 1) 6
  rw [Nat.shiftRight_one] at hmask
  exact hmask

/-- Type 5 is a slice of a picture at which decoding can start. -/
theorem isH264Key_iff (header : UInt8) : isH264Key header = true ↔ header.toNat % 32 = 5 := by
  rw [isH264Key, beq_iff_eq, ← UInt8.toNat_inj, h264UnitType_toNat]
  rfl

/-- Types 7 and 8 are the parameter sets of a sequence and of a picture. -/
theorem isH264ParameterSet_iff (header : UInt8) :
    isH264ParameterSet header = true ↔ header.toNat % 32 = 7 ∨ header.toNat % 32 = 8 := by
  rw [isH264ParameterSet, Bool.or_eq_true, beq_iff_eq, beq_iff_eq, ← UInt8.toNat_inj,
    ← UInt8.toNat_inj, h264UnitType_toNat]
  rfl

/-- Types 16 to 21 are pictures at which decoding can start. -/
theorem isH265Key_iff (header : UInt8) :
    isH265Key header = true ↔ 16 ≤ header.toNat / 2 % 64 ∧ header.toNat / 2 % 64 ≤ 21 := by
  rw [isH265Key, Bool.and_eq_true, decide_eq_true_iff, decide_eq_true_iff, UInt8.le_iff_toNat_le,
    UInt8.le_iff_toNat_le, h265UnitType_toNat]
  rfl

/-- Types 32 to 34 are the parameter sets. -/
theorem isH265ParameterSet_iff (header : UInt8) :
    isH265ParameterSet header = true
      ↔ 32 ≤ header.toNat / 2 % 64 ∧ header.toNat / 2 % 64 ≤ 34 := by
  rw [isH265ParameterSet, Bool.and_eq_true, decide_eq_true_iff, decide_eq_true_iff,
    UInt8.le_iff_toNat_le, UInt8.le_iff_toNat_le, h265UnitType_toNat]
  rfl

/-- The traits of a row of units, by the rules of either codec. -/
theorem classify_join (isParameterSet isKey : UInt8 → Bool) (u : FramedUnit)
    (us : List FramedUnit) :
    classify isParameterSet isKey (FramedUnit.join (u :: us))
      = { prefixSize := u.code.length
          key := (u :: us).any fun v => isKey v.header
          config := isParameterSet u.header } := by
  have hprefix : startCodeLength (FramedUnit.join (u :: us)) = u.code.length := by
    rw [FramedUnit.join_cons, u.startCodeLength_code_append]
  rw [classify, hprefix, unitHeaders_join, List.any_map, List.map_cons, List.head?_cons,
    Option.any_some]
  rfl

end Nal

open Nal

/-- How a frame of units is classified: key frames by any of the units, parameter sets
    by the first, and the prefix is the first start code. The scanner finds exactly the
    headers of the units, whatever the form of the start codes and whatever zeros a unit
    ends in. What comes out of reframing length-prefixed units is such a frame. -/
theorem AccessUnit.traits_join (first : FramedUnit) (more : List FramedUnit) (dts pts : Int64) :
    let units := first :: more
    let data := FramedUnit.join units
    let h264 := (AccessUnit.mk .h264 dts pts data).traits
    let h265 := (AccessUnit.mk .h265 dts pts data).traits
    (h264.key = true ↔ ∃ u ∈ units, u.header.toNat % 32 = 5)
      ∧ (h264.config = true ↔ first.header.toNat % 32 = 7 ∨ first.header.toNat % 32 = 8)
      ∧ h264.prefixSize = first.code.length
      ∧ (h265.key = true
          ↔ ∃ u ∈ units, 16 ≤ u.header.toNat / 2 % 64 ∧ u.header.toNat / 2 % 64 ≤ 21)
      ∧ (h265.config = true
          ↔ 32 ≤ first.header.toNat / 2 % 64 ∧ first.header.toNat / 2 % 64 ≤ 34)
      ∧ h265.prefixSize = first.code.length
      ∧ unitHeaders data = units.map FramedUnit.header
      ∧ ∀ (size : Nat) (stored : Bytes),
          lengthPrefixedUnits size stored = units.map FramedUnit.bytes →
            (∀ u ∈ units, u.long = true) → annexBOfLengthPrefixed size stored = data := by
  intro units data h264 h265
  -- Both codecs classify by the headers of the units, only by other rules.
  have h264_eq : h264 = _ := classify_join isH264ParameterSet isH264Key first more
  have h265_eq : h265 = _ := classify_join isH265ParameterSet isH265Key first more
  refine ⟨?_, ?_, by rw [h264_eq], ?_, ?_, by rw [h265_eq], unitHeaders_join first more, ?_⟩
  · rw [h264_eq, List.any_eq_true]
    simp only [isH264Key_iff, units]
  · rw [h264_eq, isH264ParameterSet_iff]
  · rw [h265_eq, List.any_eq_true]
    simp only [isH265Key_iff, units]
  · rw [h265_eq, isH265ParameterSet_iff]
  · intro size stored hstored hlong
    rw [annexBOfLengthPrefixed, hstored, FramedUnit.frameUnits_eq_join units hlong]

/-- Parameter sets that end in a zero, a short start code, and a random-access picture:
    the second unit is found although its start code seems to begin one byte early. -/
theorem AccessUnit.traits_join_of_trailing_zero :
    (AccessUnit.mk .h264 0 0 [0, 0, 0, 1, 0x67, 0x64, 0, 0, 0, 1, 0x65, 0x88]).traits
      = { prefixSize := 4, key := true, config := true } := by
  have hsets : ¬ shortStartCode <:+: [0x67, 0x64, 0] := by decide
  have hpicture : ¬ shortStartCode <:+: [0x65, 0x88] := by decide
  obtain ⟨hkey, hconfig, hprefix, -⟩ := traits_join ⟨true, 0x67, [0x64, 0], hsets⟩
    [⟨false, 0x65, [0x88], hpicture⟩] 0 0
  have hone := hkey.mpr ⟨⟨false, 0x65, [0x88], hpicture⟩, List.mem_cons_of_mem _
    (List.mem_cons_self ..), show (0x65 : UInt8).toNat % 32 = 5 from rfl⟩
  have htwo := hconfig.mpr (Or.inl (show (0x67 : UInt8).toNat % 32 = 7 from rfl))
  exact congr (congr (congrArg Traits.mk hprefix) hone) htwo

end Recode

import Recode.Proofs.Nal.Classification

/-!
# What stands in front of a frame

Two questions about the first bytes of a payload. Both are answered by the same few
bytes that the classification looks at, and both have an answer that its users would
not expect.

Zeros may be put in front of a stream in Annex B form without changing what it says.
The scanner does not see it like this. It asks once, at the first byte, whether there
is a start code, and if there is none it takes everything for a single unit. A run of
zeros and a one is a start code with two or three zeros, so a short start code bears
one more zero and a long one bears none. Behind any more zeros all units are lost, and
the frame counts as one with the header byte zero, which is no key frame and no
parameter set.

A prefix is meant to be cut off, so it has to be there. It is, with one exception. The
header of an AAC frame takes seven bytes, or nine with a checksum, and only seven are
asked for before the bit is read that tells which.

## Main definitions

* `Codec.Leads`: What may be in front of a payload.
* `AccessUnit.CutShort`: A header with a checksum of which only seven or eight bytes
  are left.

## Theorems

* `Nal.exists_zeros_of_isAnnexB`: A start code is a run of zeros and a one.
* `Nal.unitHeaders_zeros`, `Nal.unitHeaders_many_zeros`: What the scanner makes of
  such a run.
* `AccessUnit.traits_zeros_append`: What zeros in front of a frame change.
* `adtsHeaderLength_eq_iff`: Where an ADTS header is seen, and how long it is.
* `AccessUnit.prefix_fits_iff`: A prefix lies in the payload and is what its codec
  puts there, unless the header was cut short.
-/

namespace Recode

/-! ## Leading zeros -/

namespace Nal

/-- A start code is two or three zeros and a one. -/
theorem exists_zeros_of_isAnnexB {data : Bytes} (h : isAnnexB data = true) :
    ∃ (zeros : Nat) (rest : Bytes), (zeros = 2 ∨ zeros = 3) ∧ startCodeLength data = zeros + 1
      ∧ data = List.replicate zeros 0 ++ 1 :: rest := by
  rcases (isAnnexB_iff data).mp h with ⟨rest, rfl⟩ | ⟨rest, rfl⟩
  · exact ⟨3, rest, .inr rfl, startCodeLength_startCode_append rest, rfl⟩
  · exact ⟨2, rest, .inl rfl, startCodeLength_shortStartCode_append rest, rfl⟩

/-- Two or three zeros and a one are a start code. The header is the byte behind it, and
    nothing tells any more how many zeros there were. -/
theorem unitHeaders_zeros {zeros : Nat} (hzeros : zeros = 2 ∨ zeros = 3) (rest : Bytes) :
    unitHeaders (List.replicate zeros 0 ++ 1 :: rest)
      = rest.head?.toList ++ headersAfterStartCodes rest := by
  -- These are the two forms of a start code.
  rcases hzeros with rfl | rfl
  · have hcode := startCodeLength_shortStartCode_append rest
    have hannexB : isAnnexB (shortStartCode ++ rest) = true := by rw [isAnnexB, hcode]; rfl
    have hheaders := headersAfterStartCodes_append hcode (List.cons_ne_nil _ _)
    rw [← hheaders]
    exact if_pos hannexB
  · have hcode := startCodeLength_startCode_append rest
    have hannexB : isAnnexB (startCode ++ rest) = true := by rw [isAnnexB, hcode]; rfl
    have hheaders := headersAfterStartCodes_append hcode (List.cons_ne_nil _ _)
    rw [← hheaders]
    exact if_pos hannexB

theorem unitHeaders_of_not_isAnnexB {first : UInt8} {rest : Bytes}
    (h : isAnnexB (first :: rest) = false) : unitHeaders (first :: rest) = [first] := by
  rw [unitHeaders, h]
  rfl

/-- Four zeros begin no start code, so the first of them is taken for a header. -/
theorem unitHeaders_many_zeros {zeros : Nat} (hzeros : 4 ≤ zeros) (rest : Bytes) :
    unitHeaders (List.replicate zeros 0 ++ rest) = [0] := by
  obtain ⟨more, rfl⟩ := Nat.exists_eq_add_of_le' hzeros
  exact unitHeaders_of_not_isAnnexB rfl

end Nal

open Nal

namespace AccessUnit

/-- The frames of both video codecs are classified by the headers of their units, and a
    header byte of zero belongs neither to a key frame nor to a parameter set. -/
theorem traits_of_units {codec : Codec} (hcodec : codec = .h264 ∨ codec = .h265) :
    ∃ isParameterSet isKey : UInt8 → Bool, isParameterSet 0 = false ∧ isKey 0 = false
      ∧ ∀ (dts pts : Int64) (data : Bytes),
        (AccessUnit.mk codec dts pts data).traits = classify isParameterSet isKey data := by
  rcases hcodec with rfl | rfl
  · exact ⟨isH264ParameterSet, isH264Key, rfl, rfl, fun _ _ _ => rfl⟩
  · exact ⟨isH265ParameterSet, isH265Key, rfl, rfl, fun _ _ _ => rfl⟩

/-- What zeros do in front of a frame in Annex B form. As long as they and the first start
    code have no more than four bytes together, all units are found and the frame is
    classified as before. Behind more zeros it counts as a single unit with the header byte
    zero, which changes the classification of every key frame and of all parameter sets.
    That is so for anything in front of a start code. -/
theorem traits_zeros_append {codec : Codec} (hcodec : codec = .h264 ∨ codec = .h265)
    {data : Bytes} (h : isAnnexB data = true) (n : Nat) (dts pts : Int64) :
    let zeros : Bytes := List.replicate n 0
    let bare := (AccessUnit.mk codec dts pts data).traits
    let padded := (AccessUnit.mk codec dts pts (zeros ++ data)).traits
    (n + startCodeLength data ≤ 4 → unitHeaders (zeros ++ data) = unitHeaders data)
      ∧ (4 < n + startCodeLength data → unitHeaders (zeros ++ data) = [0])
      ∧ (padded.key = bare.key ∧ padded.config = bare.config
          ↔ n + startCodeLength data ≤ 4 ∨ bare.key = false ∧ bare.config = false)
      ∧ ∀ (first : UInt8) (before behind : Bytes),
          isAnnexB (first :: (before ++ (shortStartCode ++ behind))) = false →
            unitHeaders (first :: (before ++ (shortStartCode ++ behind))) = [first] := by
  intro zeros bare padded
  obtain ⟨own, rest, hown, hlength, hdata⟩ := exists_zeros_of_isAnnexB h
  have hjoined : zeros ++ data = List.replicate (n + own) 0 ++ 1 :: rest := by
    rw [hdata, ← List.append_assoc, List.replicate_append_replicate]
  -- The zeros in front and those of the start code are one run, and only its length matters.
  have hfew (hn : n + startCodeLength data ≤ 4) :
      unitHeaders (zeros ++ data) = unitHeaders data := by
    rw [hjoined, unitHeaders_zeros (by omega) rest]
    rw [hdata, unitHeaders_zeros hown rest]
  have hmany (hn : 4 < n + startCodeLength data) : unitHeaders (zeros ++ data) = [0] := by
    rw [hjoined, unitHeaders_many_zeros (by omega)]
  refine ⟨hfew, hmany, ?_, fun first before behind => unitHeaders_of_not_isAnnexB⟩
  obtain ⟨isParameterSet, isKey, hset, hkey, htraits⟩ := traits_of_units hcodec
  have hbare : bare = classify isParameterSet isKey data := htraits dts pts data
  have hpadded : padded = classify isParameterSet isKey (zeros ++ data) := htraits dts pts _
  by_cases hn : n + startCodeLength data ≤ 4
  · simp only [hbare, hpadded, classify, hfew hn, and_self, hn, true_or]
  · have hhidden := hmany (by omega)
    -- Behind too many zeros the only header is zero, which is nothing special.
    have hnokey : padded.key = false := by
      rw [hpadded, classify, hhidden, List.any_cons, hkey, List.any_nil, Bool.or_false]
    have hnoconfig : padded.config = false := by
      rw [hpadded, classify, hhidden, List.head?_cons, Option.any_some, hset]
    rw [hnokey, hnoconfig]
    simp only [hn, false_or, eq_comm]

/-- A key frame behind a short start code bears one zero in front and not two. -/
theorem traits_zeros_append_key_frame :
    let data : Bytes := [0, 0, 1, 0x65, 0x88]
    isAnnexB data = true ∧ unitHeaders ([0] ++ data) = [0x65]
      ∧ unitHeaders ([0, 0] ++ data) = [0]
      ∧ ¬ ((AccessUnit.mk .h264 0 0 ([0, 0] ++ data)).traits.key
            = (AccessUnit.mk .h264 0 0 data).traits.key
          ∧ (AccessUnit.mk .h264 0 0 ([0, 0] ++ data)).traits.config
            = (AccessUnit.mk .h264 0 0 data).traits.config) := by
  intro data
  have hcodec : Codec.h264 = .h264 ∨ Codec.h264 = .h265 := .inl rfl
  have hannexB : isAnnexB data = true := by decide
  have hkey : (AccessUnit.mk .h264 0 0 data).traits.key = true := by decide +kernel
  obtain ⟨hone, -, -, -⟩ := traits_zeros_append hcodec hannexB 1 0 0
  obtain ⟨-, htwo, hsame, -⟩ := traits_zeros_append hcodec hannexB 2 0 0
  refine ⟨hannexB, (hone (by decide)).trans (by decide +kernel), htwo (by decide), fun h => ?_⟩
  -- There are too many zeros, and the frame is a key frame.
  rcases hsame.mp h with hfew | ⟨hno, -⟩
  · exact absurd hfew (by decide)
  · rw [hkey] at hno
    exact Bool.noConfusion hno

/-- One zero in front of a long start code hides a key frame, in either codec. -/
theorem key_frame_behind_zero :
    let h264 (data : Bytes) := (AccessUnit.mk .h264 0 0 data).traits
    let h265 (data : Bytes) := (AccessUnit.mk .h265 0 0 data).traits
    isAnnexB [0, 0, 0, 1, 0x65] = true ∧ (h264 [0, 0, 0, 1, 0x65]).key = true
      ∧ (h264 (List.replicate 1 0 ++ [0, 0, 0, 1, 0x65])).key = false
      ∧ (h265 [0, 0, 0, 1, 0x26]).key = true
      ∧ (h265 (List.replicate 1 0 ++ [0, 0, 0, 1, 0x26])).key = false := by
  decide +kernel

end AccessUnit

/-! ## Prefixes -/

/-- The bytes may be in front of a payload of the codec: nothing, or a start code in front
    of pictures, or an ADTS header in front of AAC. The header begins with twelve set bits,
    and the last bit of its second byte is clear if it ends in a checksum. -/
inductive Codec.Leads : Codec → Bytes → Prop
  | nothing (codec : Codec) : Leads codec []
  | startCode {codec : Codec} (hvideo : codec.isVideo = true) : Leads codec startCode
  | shortStartCode {codec : Codec} (hvideo : codec.isVideo = true) : Leads codec shortStartCode
  | adts (second : UInt8) (more : Bytes) (hsync : 240 ≤ second.toNat)
      (hlength : more.length + 2 = if second.toNat % 2 = 0 then 9 else 7) :
      Leads .aac (0xff :: second :: more)

/-- An AAC payload of seven or eight bytes that begins like a header of nine. -/
def AccessUnit.CutShort (unit : AccessUnit) : Prop :=
  unit.codec = .aac ∧ (unit.size = 7 ∨ unit.size = 8)
    ∧ ∃ second more, unit.data = 0xff :: second :: more ∧ 240 ≤ second.toNat
      ∧ second.toNat % 2 = 0

theorem and_0xf0_eq_iff (b : UInt8) : b &&& 0xf0 = 0xf0 ↔ 240 ≤ b.toNat := by
  -- There are only 256 bytes to look at.
  have hbytes : ∀ n : Fin 256, n.val &&& 240 = 240 ↔ 240 ≤ n.val := by decide +kernel
  rw [← UInt8.toNat_inj, UInt8.toNat_and]
  exact hbytes ⟨b.toNat, b.toNat_lt⟩

theorem and_0x01_eq_zero_iff (b : UInt8) : b &&& 0x01 = 0 ↔ b.toNat % 2 = 0 := by
  rw [← UInt8.toNat_inj, UInt8.toNat_and]
  exact Eq.congr_left (Nat.and_two_pow_sub_one_eq_mod b.toNat 1)

/-- A header is seen if the payload has seven bytes and begins with twelve set bits. How
    long it is said to be depends on the checksum and not on what there is. -/
theorem adtsHeaderLength_eq_iff {size : Nat} (hsize : size ≠ 0) (data : Bytes) :
    adtsHeaderLength data = size
      ↔ 7 ≤ data.length ∧ ∃ second more, data = 0xff :: second :: more ∧ 240 ≤ second.toNat
        ∧ size = if second.toNat % 2 = 0 then 9 else 7 := by
  rcases data with _ | ⟨first, _ | ⟨second, more⟩⟩
  · simp only [adtsHeaderLength, List.length_nil, reduceCtorEq, false_and, exists_false,
      and_false, iff_false]
    exact Ne.symm hsize
  · simp only [adtsHeaderLength, List.cons.injEq, reduceCtorEq, and_false, false_and,
      exists_false, iff_false]
    exact Ne.symm hsize
  · simp only [adtsHeaderLength, and_0xf0_eq_iff, and_0x01_eq_zero_iff, List.cons.injEq]
    -- A header that is seen has a length other than zero, and one that is not has length zero.
    by_cases hseen : 7 ≤ (first :: second :: more).length ∧ first = 0xff ∧ 240 ≤ second.toNat
    · obtain ⟨hlong, rfl, hsync⟩ := hseen
      rw [if_pos ⟨hlong, rfl, hsync⟩]
      constructor
      · rintro rfl
        exact ⟨hlong, second, more, ⟨rfl, rfl, rfl⟩, hsync, rfl⟩
      · rintro ⟨-, _, _, ⟨-, rfl, rfl⟩, -, rfl⟩
        rfl
    · rw [if_neg hseen]
      constructor
      · exact fun hzero => absurd hzero.symm hsize
      · rintro ⟨hlong, _, _, ⟨hfirst, rfl, rfl⟩, hsync, -⟩
        exact absurd ⟨hlong, hfirst, hsync⟩ hseen

namespace AccessUnit

variable {codec : Codec} {front : Bytes}

/-- What the scanner cuts off in front of pictures may be there. -/
theorem leads_take_startCodeLength (hvideo : codec.isVideo = true) (data : Bytes) :
    codec.Leads (data.take (startCodeLength data)) := by
  cases h : isAnnexB data with
  | true =>
      rcases (isAnnexB_iff data).mp h with ⟨rest, rfl⟩ | ⟨rest, rfl⟩
      · rw [startCodeLength_startCode_append]
        exact .startCode hvideo
      · rw [startCodeLength_shortStartCode_append]
        exact .shortStartCode hvideo
  | false =>
      -- Nothing is cut off where no start code stands.
      have hnone : startCodeLength data = 0 := by
        simpa only [isAnnexB, bne_eq_false_iff_eq] using h
      rw [hnone, List.take_zero]
      exact .nothing codec

theorem length_le_startCodeLength (hvideo : codec.isVideo = true) (hfront : codec.Leads front)
    (rest : Bytes) : front.length ≤ startCodeLength (front ++ rest) := by
  cases hfront with
  | nothing => exact Nat.zero_le _
  | startCode => exact (startCodeLength_startCode_append rest).ge
  | shortStartCode => exact (startCodeLength_shortStartCode_append rest).ge
  | adts => cases hvideo

/-- No less is cut off than the header that is in front of AAC. -/
theorem length_le_adtsHeaderLength (hfront : Codec.aac.Leads front) (rest : Bytes) :
    front.length ≤ adtsHeaderLength (front ++ rest) := by
  cases hfront with
  | nothing => exact Nat.zero_le _
  | startCode hvideo | shortStartCode hvideo => cases hvideo
  | adts second more hsync hlength =>
      have hsize : (if second.toNat % 2 = 0 then 9 else 7) ≠ 0 := by split <;> decide
      -- The header itself makes up the seven bytes that are asked for.
      have hroom : 7 ≤ (0xff :: second :: more ++ rest).length := by
        rw [List.length_append, List.length_cons, List.length_cons, hlength]
        split <;> omega
      have hseen := (adtsHeaderLength_eq_iff hsize _).mpr
        ⟨hroom, second, more ++ rest, rfl, hsync, rfl⟩
      rw [hseen, ← hlength]
      exact le_refl _

/-- A header is cut short if it is said to take nine bytes and they are not there. -/
theorem cutShort_iff (dts pts : Int64) (data : Bytes) :
    CutShort ⟨.aac, dts, pts, data⟩ ↔ data.length < 9 ∧ adtsHeaderLength data = 9 := by
  have hnine : ∀ n : Nat, (9 = if n % 2 = 0 then 9 else 7) ↔ n % 2 = 0 := by
    intro n
    split <;> omega
  simp only [CutShort, size, true_and, adtsHeaderLength_eq_iff (by decide : 9 ≠ 0), hnine]
  constructor
  · rintro ⟨hlength, hheader⟩
    exact ⟨by omega, by omega, hheader⟩
  · rintro ⟨hshort, hlong, hheader⟩
    exact ⟨by omega, hheader⟩

theorem leads_take_adtsHeaderLength {data : Bytes} (hfits : adtsHeaderLength data ≤ data.length) :
    Codec.aac.Leads (data.take (adtsHeaderLength data)) := by
  by_cases hzero : adtsHeaderLength data = 0
  · rw [hzero, List.take_zero]
    exact .nothing _
  · obtain ⟨hlong, second, more, hdata, hsync, hsize⟩ :=
      (adtsHeaderLength_eq_iff hzero data).mp rfl
    -- Two bytes are looked at, and the others may be anything.
    obtain ⟨rest, hrest⟩ : ∃ rest, adtsHeaderLength data = rest + 2 :=
      Nat.exists_eq_add_of_le' (by rw [hsize]; split <;> decide)
    have htaken : (more.take rest).length = rest := by
      rw [hrest, hdata, List.length_cons, List.length_cons] at hfits
      exact List.length_take_of_le (by omega)
    rw [hrest, hdata, List.take_succ_cons, List.take_succ_cons]
    exact .adts second _ hsync (by rw [htaken, ← hrest, hsize])

/-- The prefix of a frame can be cut off, and what is cut off is nothing, a start code or a
    whole ADTS header, as the codec has it, and the longest of these that is there. The one
    exception is a header that was cut short, whose length goes beyond the payload. -/
theorem prefix_fits_iff (unit : AccessUnit) :
    let size := unit.traits.prefixSize
    (size ≤ unit.size ↔ ¬ unit.CutShort)
      ∧ (size ≤ unit.size → unit.codec.Leads (unit.data.take size))
      ∧ ∀ front, unit.codec.Leads front → front <+: unit.data → front.length ≤ size := by
  obtain ⟨codec, dts, pts, data⟩ := unit
  -- Pictures, AAC, and the codecs that put nothing in front.
  cases codec with
  | h264 | h265 =>
      refine ⟨iff_of_true (startCodeLength_le data) (by rintro ⟨⟨⟩, -⟩), ?_, ?_⟩
      · exact fun _ => leads_take_startCodeLength rfl data
      · rintro front hfront ⟨rest, rfl⟩
        exact length_le_startCodeLength rfl hfront rest
  | aac =>
      refine ⟨?_, leads_take_adtsHeaderLength, ?_⟩
      · rw [cutShort_iff]
        -- Seven bytes are there if a header is seen, so only one of nine can be too long.
        by_cases hzero : adtsHeaderLength data = 0
        · have hsmall : adtsHeaderLength data ≤ data.length := hzero.symm ▸ Nat.zero_le _
          exact iff_of_true hsmall fun h => absurd (hzero.symm.trans h.2) (by decide)
        · obtain ⟨hlong, second, -, -, -, hsize⟩ :=
            (adtsHeaderLength_eq_iff hzero data).mp rfl
          show adtsHeaderLength data ≤ data.length ↔ _
          split at hsize <;> omega
      · rintro front hfront ⟨rest, rfl⟩
        exact length_le_adtsHeaderLength hfront rest
  | g711a | g711u | opus =>
      refine ⟨iff_of_true (Nat.zero_le _) (by rintro ⟨⟨⟩, -⟩), fun _ => .nothing _, ?_⟩
      rintro front hfront -
      cases hfront with
      | nothing => exact le_refl 0
      | startCode hvideo | shortStartCode hvideo => cases hvideo

/-- A header with a checksum fits a payload of exactly nine bytes, and a start code is taken
    in its long form. -/
theorem prefix_fits_iff_exactly :
    let header : Bytes := [0xff, 0xf0, 0x50, 0x80, 0x02, 0x1f, 0xfc, 0x12, 0x34]
    let picture : Bytes := [0, 0, 0, 1, 0x65]
    ¬ CutShort ⟨.aac, 0, 0, header⟩ ∧ Codec.aac.Leads header
      ∧ Codec.h264.Leads startCode ∧ startCode <+: picture
      ∧ 4 ≤ (AccessUnit.mk .h264 0 0 picture).traits.prefixSize := by
  intro header picture
  obtain ⟨hfits, hleads, -⟩ := prefix_fits_iff ⟨.aac, 0, 0, header⟩
  obtain ⟨-, -, hlongest⟩ := prefix_fits_iff ⟨.h264, 0, 0, picture⟩
  have hcode : Codec.h264.Leads startCode := .startCode rfl
  exact ⟨hfits.mp (by decide), hleads (by decide), hcode, by decide,
    hlongest startCode hcode (by decide)⟩

/-- A payload of seven bytes with a header of nine: its prefix cannot be cut off. -/
theorem prefix_beyond_payload :
    let unit : AccessUnit := ⟨.aac, 0, 0, [0xff, 0xf0, 0x50, 0x80, 0x02, 0x1f, 0xfc]⟩
    unit.traits.prefixSize = 9 ∧ unit.size = 7 ∧ ¬ unit.traits.prefixSize ≤ unit.size := by
  decide

end AccessUnit

end Recode

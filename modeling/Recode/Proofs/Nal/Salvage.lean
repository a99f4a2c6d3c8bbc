import Recode.Media.AccessUnit
import Recode.Proofs.Nal.Record
import Recode.Proofs.Nal.Reframing

/-!
# What a filter saves of any bytes

Containers break off, and what stands behind a length need not be what it promises.
Here nothing is assumed about an access unit. Whatever its bytes, it begins with
some complete units and goes on with a rest that no complete unit begins. There is
one way only to divide it like this, since a length says where its unit ends and
the rest has no unit to give to the others. The reader keeps the units and leaves
out the rest.

Reframing yields Annex B form or nothing, again for any bytes. So it is done after
the first time: a filter lets pass what it has made before. This covers the access
unit that comes to nothing. If it was a key frame, the record has no parameter sets
to put in front of it, and the second time there are none either.

## Main definitions

* `Nal.Stuck`: No complete unit stands at the front.
* `Nal.Divides`: Complete units, and a rest that begins with none.

## Theorems

* `Nal.Divides.units_eq`: The reader finds the units, however the bytes were divided.
* `Nal.divides_lengthPrefixedUnits`: What the reader finds divides the bytes.
* `Nal.annexBOfLengthPrefixed_divides`: The one division, and what is kept of it.
* `AnnexBFilter.apply_apply`: Reframing yields Annex B form, and is done after the
  first time.
-/

namespace Recode

namespace Nal

/-- No complete unit stands at the front: there is no room for a length, or the length
    is zero, or it is larger than what follows it. -/
def Stuck (size : Nat) (rest : Bytes) : Prop :=
  rest.length < size ∨ ∃ field tail, rest = field ++ tail ∧ field.length = size
    ∧ (bigEndian field = 0 ∨ tail.length < bigEndian field)

/-- The bytes are these units, each behind its length, and then a rest that no complete
    unit begins. -/
structure Divides (size : Nat) (data : Bytes) (units : List Bytes) (rest : Bytes) : Prop where
  joined : data = lengthPrefixed size units ++ rest
  nonempty : ∀ u ∈ units, u ≠ []
  /-- Every length fits its field. -/
  fits : ∀ u ∈ units, u.length < 256 ^ size
  stuck : Stuck size rest

/-- Up to eight bytes, a length fits the word in which it is counted. -/
theorem unitLength_of_length_le {field : Bytes} (h : field.length ≤ 8) :
    unitLength field = bigEndian field := by
  have hfield := unitLength_bigEndianBytes h (bigEndian_lt field)
  rwa [bigEndianBytes_bigEndian] at hfield

/-- The length that the reader sees is the one that is written there. -/
theorem unitLength_field {size : Nat} (hsize : size ≤ 8) {field : Bytes}
    (hfield : field.length = size) :
    unitLength field < 256 ^ size ∧ bigEndianBytes size (unitLength field) = field := by
  subst hfield
  rw [unitLength_of_length_le hsize]
  exact ⟨bigEndian_lt field, bigEndianBytes_bigEndian field⟩

theorem lengthPrefixedUnits_of_stuck {size : Nat} (hsize : size ≤ 8) {rest : Bytes}
    (h : Stuck size rest) : lengthPrefixedUnits size rest = [] := by
  rcases h with hshort | ⟨field, tail, rfl, rfl, hfield⟩
  · exact lengthPrefixedUnits_of_short hshort
  · rw [lengthPrefixedUnits, if_neg (by simp only [List.length_append]; omega)]
    simp only [List.take_left, List.drop_left, unitLength_of_length_le hsize]
    rw [if_pos hfield]

namespace Divides

variable {size : Nat} {data u rest : Bytes} {units : List Bytes}

theorem cons (h : Divides size data units rest) (hne : u ≠ []) (hlt : u.length < 256 ^ size) :
    Divides size (bigEndianBytes size u.length ++ (u ++ data)) (u :: units) rest where
  joined := by rw [h.joined, lengthPrefixed_cons, List.append_assoc, List.append_assoc]
  nonempty := List.forall_mem_cons.mpr ⟨hne, h.nonempty⟩
  fits := List.forall_mem_cons.mpr ⟨hlt, h.fits⟩
  stuck := h.stuck

/-- However the bytes were divided, the reader finds the units. -/
theorem units_eq (hsize : size ≤ 8) (h : Divides size data units rest) :
    lengthPrefixedUnits size data = units := by
  rcases h with ⟨rfl, hne, hlt, hstuck⟩
  -- One unit after the other is read off the front, until the rest stops the reader.
  induction units with
  | nil => exact lengthPrefixedUnits_of_stuck hsize hstuck
  | cons u units ih =>
      rcases List.forall_mem_cons.mp hne with ⟨hu, hne⟩
      rcases List.forall_mem_cons.mp hlt with ⟨hfits, hlt⟩
      have hcons := lengthPrefixedUnits_cons (bigEndianBytes size u.length) u
        (lengthPrefixed size units ++ rest) (unitLength_bigEndianBytes hsize hfits) hu
      rw [length_bigEndianBytes] at hcons
      rw [lengthPrefixed_cons, List.append_assoc, List.append_assoc, hcons, ih hne hlt]

end Divides

/-- What the reader finds divides the bytes, whatever they are. -/
theorem divides_lengthPrefixedUnits {size : Nat} (hsize : size ≤ 8) (data : Bytes) :
    ∃ rest, Divides size data (lengthPrefixedUnits size data) rest := by
  -- The induction follows the reader, which stops in two of three cases.
  induction data using lengthPrefixedUnits.induct size with
  | case1 data hshort =>
      rw [lengthPrefixedUnits_of_short hshort]
      exact ⟨data, rfl, nofun, nofun, .inl hshort⟩
  | case2 data hlong n tail hstop =>
      have hfield : (data.take size).length = size := List.length_take_of_le (by omega)
      have hn : n = bigEndian (data.take size) := unitLength_of_length_le (by omega)
      have hstuck : Stuck size data :=
        .inr ⟨_, tail, (List.take_append_drop size data).symm, hfield, hn ▸ hstop⟩
      rw [lengthPrefixedUnits_of_stuck hsize hstuck]
      exact ⟨data, rfl, nofun, nofun, hstuck⟩
  | case3 data hlong n tail hgo ih =>
      -- A complete unit: its field is the one that would be written for it.
      have hread : lengthPrefixedUnits size data
          = tail.take n :: lengthPrefixedUnits size (tail.drop n) := by
        rw [lengthPrefixedUnits, if_neg hlong]
        exact if_neg hgo
      have hfield : (data.take size).length = size := List.length_take_of_le (by omega)
      rcases unitLength_field hsize hfield with ⟨hlt, hwritten⟩
      have hunit : (tail.take n).length = n := List.length_take_of_le (by omega)
      have hne : tail.take n ≠ [] := by
        intro hnil
        rw [hnil, List.length_nil] at hunit
        omega
      rcases ih with ⟨rest, hrest⟩
      have hdivides := hrest.cons hne (hunit.symm ▸ hlt)
      rw [hunit, hwritten, List.take_append_drop, List.take_append_drop] at hdivides
      exact ⟨rest, hread ▸ hdivides⟩

/-- Any bytes can be divided in one way only into complete units and a rest that begins with
    none, and exactly the units are kept. Lengths take one to four bytes. -/
theorem annexBOfLengthPrefixed_divides (size : Nat) (hsize : size ≤ 4) (data : Bytes) :
    (∃! division : List Bytes × Bytes, Divides size data division.1 division.2)
      ∧ ∀ units rest, Divides size data units rest →
          annexBOfLengthPrefixed size data = frameUnits units := by
  have hword : size ≤ 8 := by omega
  rcases divides_lengthPrefixedUnits hword data with ⟨rest, hrest⟩
  refine ⟨⟨(lengthPrefixedUnits size data, rest), hrest, ?_⟩, ?_⟩
  · rintro ⟨units', rest'⟩ hdivides
    -- The units are what the reader finds, so the same bytes stand in front of both rests.
    have hunits : lengthPrefixedUnits size data = units' := hdivides.units_eq hword
    subst hunits
    have hrests := hdivides.joined.symm.trans hrest.joined
    exact congrArg _ (List.append_cancel_left hrests)
  · intro units rest' hdivides
    rw [annexBOfLengthPrefixed, hdivides.units_eq hword]

/-- A unit, a second one that ends with the bytes, and nothing else: both are kept. With a
    third length that promises nine bytes and has one, that rest is left out. -/
theorem annexBOfLengthPrefixed_divides_broken_off :
    let units : List Bytes := [[0x67, 0x64], [0x41, 0x9a, 0x24]]
    let stored : Bytes := [0, 2, 0x67, 0x64, 0, 3, 0x41, 0x9a, 0x24]
    let rest : Bytes := [0, 9, 0x41]
    Divides 2 stored units [] ∧ Divides 2 (stored ++ rest) units rest
      ∧ annexBOfLengthPrefixed 2 stored = frameUnits units
      ∧ annexBOfLengthPrefixed 2 (stored ++ rest)
        = [0, 0, 0, 1, 0x67, 0x64, 0, 0, 0, 1, 0x41, 0x9a, 0x24] := by
  intro units stored rest
  -- Both are divided by hand, and the theorem says that there is no other way.
  have hwhole : Divides 2 stored units [] := ⟨rfl, by decide, by decide, .inl (by decide)⟩
  have hbroken : Divides 2 (stored ++ rest) units rest :=
    ⟨rfl, by decide, by decide, .inr ⟨[0, 9], [0x41], rfl, rfl, .inr (by decide)⟩⟩
  exact ⟨hwhole, hbroken, (annexBOfLengthPrefixed_divides 2 (by decide) _).2 units [] hwhole,
    (annexBOfLengthPrefixed_divides 2 (by decide) _).2 units rest hbroken⟩

/-- Units in Annex B form begin with a start code, unless there are none. -/
theorem frameUnits_begins (units : List Bytes) :
    frameUnits units = [] ∧ units = [] ∨ isAnnexB (frameUnits units) = true := by
  -- With a unit there is its start code.
  cases units with
  | nil => exact .inl ⟨rfl, rfl⟩
  | cons u units =>
      right
      rw [isAnnexB, frameUnits_cons, List.append_assoc, startCodeLength_startCode_append]
      rfl

/-- A start code has three or four bytes. -/
theorem startCodeLength_of_isAnnexB {data : Bytes} (h : isAnnexB data = true) :
    startCodeLength data = 3 ∨ startCodeLength data = 4 := by
  simp only [isAnnexB, startCodeLength, bne_iff_ne, ne_eq] at h ⊢
  by_cases hlong : startCode.isPrefixOf data = true
  · exact .inr (if_pos hlong)
  · rw [if_neg hlong] at h ⊢
    by_cases hshort : shortStartCode.isPrefixOf data = true
    · exact .inl (if_pos hshort)
    · exact absurd (if_neg hshort) h

end Nal

open Nal

/-- A frame of an H.264 or H.265 stream in Annex B form has a start code in front. -/
theorem AccessUnit.prefixSize_of_isAnnexB {unit : AccessUnit}
    (hcodec : unit.codec = .h264 ∨ unit.codec = .h265) (h : isAnnexB unit.data = true) :
    unit.traits.prefixSize = 3 ∨ unit.traits.prefixSize = 4 := by
  have hlength : unit.traits.prefixSize = startCodeLength unit.data := by
    rcases hcodec with hcodec | hcodec <;> rw [traits, hcodec] <;> rfl
  rw [hlength]
  exact startCodeLength_of_isAnnexB h

namespace AnnexBFilter

variable {f : AnnexBFilter} {record : ConfigurationRecord} {data : Bytes}

/-- What is not in Annex B form is reframed: first the parameter sets, if it is a key frame,
    and then the units that could be read. -/
theorem apply_of_not_isAnnexB (hrecord : f.record = some record) (h : isAnnexB data = false)
    (key : Bool) :
    f.apply data key = frameUnits ((if key then record.parameterSets else [])
      ++ lengthPrefixedUnits record.lengthSize data) := by
  rw [frameUnits_append]
  simp only [apply, hrecord, h, Bool.false_eq_true, if_false, annexBOfLengthPrefixed]
  cases key <;> rfl

/-- What comes to nothing comes to nothing again: neither parameter sets were due nor was
    there a unit to be read. -/
theorem apply_nil_of_apply_eq_nil (hrecord : f.record = some record)
    (hpos : 0 < record.lengthSize) (h : isAnnexB data = false) {key : Bool}
    (hnothing : f.apply data key = []) : f.apply [] key = [] := by
  rw [apply_of_not_isAnnexB hrecord h] at hnothing
  -- The result was empty, so there was nothing to frame.
  rcases frameUnits_begins ((if key then record.parameterSets else [])
    ++ lengthPrefixedUnits record.lengthSize data) with ⟨-, hunits⟩ | hcode
  · rw [apply_of_not_isAnnexB hrecord rfl, (List.append_eq_nil_iff.mp hunits).1,
      lengthPrefixedUnits_of_short hpos]
    rfl
  · rw [hnothing] at hcode
    cases hcode

/-- What an active filter makes is empty or in Annex B form. -/
theorem apply_begins (hactive : f.isActive = true) (data : Bytes) (key : Bool) :
    f.apply data key = [] ∨ isAnnexB (f.apply data key) = true := by
  rcases Option.isSome_iff_exists.mp hactive with ⟨record, hrecord⟩
  cases h : isAnnexB data with
  | true =>
      rw [apply_of_isAnnexB f h]
      exact .inr h
  | false =>
      rw [apply_of_not_isAnnexB hrecord h]
      exact (frameUnits_begins _).imp And.left id

/-- Reframing yields Annex B form or nothing, and a second time changes nothing. Take the
    filter of any stream and any access unit. If the filter is active, what it makes of the
    access unit is empty or begins with a start code, so that a frame of H.264 or H.265 with
    these bytes has a start code as its prefix. Whether active or not, the filter leaves what
    it has made as it is, so parameter sets are put in front only once. -/
theorem apply_apply (codec : Codec) (extraData : Option Bytes) (data : Bytes) (key : Bool) :
    let f := ofExtraData codec extraData
    let made := f.apply data key
    (f.isActive = true → made = [] ∨ startCode <+: made ∨ shortStartCode <+: made)
      ∧ (f.isActive = true → made ≠ [] → ∀ unit : AccessUnit, unit.data = made →
          unit.codec = .h264 ∨ unit.codec = .h265 →
          unit.traits.prefixSize = 3 ∨ unit.traits.prefixSize = 4)
      ∧ f.apply made key = made := by
  intro f made
  have hbegins (hactive : f.isActive = true) : made = [] ∨ isAnnexB made = true :=
    apply_begins hactive data key
  refine ⟨fun hactive => ?_, fun hactive hne unit hdata hcodec => ?_, ?_⟩
  · exact (hbegins hactive).imp_right (isAnnexB_iff made).mp
  · have hcode := (hbegins hactive).resolve_left hne
    exact AccessUnit.prefixSize_of_isAnnexB hcodec (hdata ▸ hcode)
  · cases hactive : f.isActive with
    | false => exact apply_of_inactive hactive made key
    | true =>
        rcases hbegins hactive with hnothing | hcode
        · -- An empty result is no longer in Annex B form, so it is reframed once more.
          rcases Option.isSome_iff_exists.mp hactive with ⟨record, hrecord⟩
          cases h : isAnnexB data with
          | true =>
              have hsame : made = data := apply_of_isAnnexB f h key
              rw [hnothing] at hsame
              rw [← hsame] at h
              cases h
          | false =>
              rw [hnothing]
              exact apply_nil_of_apply_eq_nil hrecord (lengthSize_of_ofExtraData hrecord).1 h
                hnothing
        · exact apply_of_isAnnexB f hcode key

/-- A key frame that breaks off in its only unit. The parameter sets come out alone, and
    they do so once. -/
theorem apply_apply_broken_off :
    let f := ofExtraData .h264
      (some [1, 0x64, 0, 0x1f, 0xff, 0xe1, 0, 3, 0x67, 0x64, 0x1f, 1, 0, 2, 0x68, 0xeb])
    let sets : Bytes := [0, 0, 0, 1, 0x67, 0x64, 0x1f, 0, 0, 0, 1, 0x68, 0xeb]
    f.isActive = true ∧ f.apply [0, 0, 0, 9, 0x65] true = sets ∧ startCode <+: sets
      ∧ (AccessUnit.mk .h264 0 0 sets).traits.prefixSize = 4 ∧ f.apply sets true = sets := by
  intro f sets
  have hmade : f.apply [0, 0, 0, 9, 0x65] true = sets := by decide +kernel
  rcases apply_apply .h264 _ [0, 0, 0, 9, 0x65] true with ⟨-, hprefix, hagain⟩
  rw [hmade] at hprefix hagain
  have hsize := hprefix (by decide +kernel) (by decide) ⟨.h264, 0, 0, sets⟩ rfl (.inl rfl)
  exact ⟨by decide +kernel, hmade, by decide, hsize.resolve_left (by decide), hagain⟩

end AnnexBFilter

end Recode

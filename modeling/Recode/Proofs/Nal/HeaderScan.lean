import Recode.Proofs.Nal.Classification

/-!
# The scan for header bytes

The header bytes of a byte string in Annex B form are the bytes behind its start codes, one for
each start code, in their order. Which start codes there are is a question about offsets and has
nothing to do with how they are looked for: `codeOffsets` lists every offset at which the bytes
`00 00 01` stand in front of another byte. A start code of the long form is among them once, by
its last three bytes.

The definition that runs looks for them from the front and goes on with the rest. At a start
code it leaves out three or four bytes at a time, and it must not leave out another start code
with them. It does not: no start code begins at the later bytes of a short one, and of a long
one only the short code at its end, as which it is counted. The search goes on with the byte
that it reports, for if the unit is empty, this byte is the first zero of the next start code.

A machine does the same round by round, with an offset that it moves on and a flag that says
whether it has found anything yet. The invariant is about what is still to be reported. Before a
round this is what the round reports, followed by what is to be reported afterwards. The offset
grows with every round, so the rounds come to an end, and then everything has been reported.

## Main definitions

* `Nal.codeOffsets`: The offsets of the start codes that a byte follows.
* `Nal.bytesBehindCodes`: The bytes that follow them.
* `Nal.HeaderScan`, `Nal.HeaderScan.round`: A scan by offsets, and one round of it.
* `Nal.HeaderScan.Reports`: A scan ends and has reported these bytes.
* `Nal.HeaderScan.remaining`: What a scan has still to report.

## Theorems

* `Nal.codeOffsets_cons`: The offsets in a byte string and in what is behind its first byte.
* `Nal.bytesBehindCodes_of_code`: A start code can be left out as a whole.
* `Nal.map_headersAfterStartCodes`: The search finds the bytes behind the start codes.
* `Nal.HeaderScan.round_keeps`: One round reports the first of what remains, or nothing.
* `Nal.HeaderScan.reports_iff`: A scan ends and reports what remained.
* `Nal.unitHeaders_codeOffsets`: What the header bytes of a byte string are.
-/

namespace Recode

namespace Nal

/-! ## Start codes by their offsets -/

/-- The offsets of the start codes that a byte follows, from the front. -/
def codeOffsets (data : Bytes) : List Nat :=
  (List.range data.length).filter fun p => p + 3 < data.length ∧ shortStartCode <+: data.drop p

theorem mem_codeOffsets (data : Bytes) (p : Nat) :
    p ∈ codeOffsets data ↔ p + 3 < data.length ∧ shortStartCode <+: data.drop p := by
  rw [codeOffsets, List.mem_filter, List.mem_range, decide_eq_true_iff]
  exact and_iff_right_of_imp fun h => by omega

theorem codeOffsets_pairwise (data : Bytes) : (codeOffsets data).Pairwise (· < ·) :=
  List.pairwise_lt_range.filter _

/-- Behind the first byte all offsets are smaller by one. -/
theorem codeOffsets_cons (b : UInt8) (rest : Bytes) :
    codeOffsets (b :: rest)
      = (if 2 < rest.length ∧ shortStartCode <+: b :: rest then [0] else [])
        ++ (codeOffsets rest).map Nat.succ := by
  have hlater : (fun p => decide (p + 3 < (b :: rest).length
        ∧ shortStartCode <+: (b :: rest).drop p)) ∘ Nat.succ
      = fun p => decide (p + 3 < rest.length ∧ shortStartCode <+: rest.drop p) := by
    funext p
    have hbound : p + 1 + 3 < rest.length + 1 ↔ p + 3 < rest.length := by omega
    simp only [Function.comp_apply, List.length_cons, List.drop_succ_cons, Nat.succ_eq_add_one,
      hbound]
  have hfirst : 0 + 3 < (b :: rest).length ↔ 2 < rest.length := by
    rw [List.length_cons]
    omega
  -- The first offset is split off, and all others are those of the rest moved by one.
  have hrange : List.range (b :: rest).length = 0 :: (List.range rest.length).map Nat.succ := by
    rw [List.length_cons, List.range_succ_eq_map]
  rw [codeOffsets, hrange, List.filter_cons, List.filter_map, hlater, ← codeOffsets]
  simp only [hfirst, List.drop_zero, decide_eq_true_iff]
  split <;> rfl

/-- The bytes behind the start codes, read by their offsets. -/
def bytesBehindCodes (data : Bytes) : List (Option UInt8) :=
  (codeOffsets data).map fun p => data[p + 3]?

/-- What is behind the first byte, with one more byte if a start code begins at it. -/
theorem bytesBehindCodes_cons (b : UInt8) (rest : Bytes) :
    bytesBehindCodes (b :: rest)
      = (if 2 < rest.length ∧ shortStartCode <+: b :: rest then [rest[2]?] else [])
        ++ bytesBehindCodes rest := by
  rw [bytesBehindCodes, codeOffsets_cons, List.map_append, List.map_map]
  congr 1
  split <;> rfl

/-- Where no short start code begins there is no byte to report. -/
theorem bytesBehindCodes_of_not {b : UInt8} {rest : Bytes} (h : ¬ shortStartCode <+: b :: rest) :
    bytesBehindCodes (b :: rest) = bytesBehindCodes rest := by
  rw [bytesBehindCodes_cons, if_neg fun hboth => h hboth.2, List.nil_append]

/-- Behind a short start code comes a byte, and the next start code may begin with it. -/
theorem bytesBehindCodes_shortStartCode_append (data : Bytes) :
    bytesBehindCodes (shortStartCode ++ data)
      = data.head?.toList.map some ++ bytesBehindCodes data := by
  -- No start code begins at the second zero or at the one.
  have hbits : ¬ (0 : UInt8) = 1 := by decide
  have hzero : ¬ shortStartCode <+: 0 :: 1 :: data := by
    simp only [shortStartCode, List.cons_prefix_cons, hbits, false_and, and_false,
      not_false_eq_true]
  have hone : ¬ shortStartCode <+: 1 :: data := by
    simp only [shortStartCode, List.cons_prefix_cons, hbits, false_and, not_false_eq_true]
  have hrest : bytesBehindCodes (0 :: 1 :: data) = bytesBehindCodes data := by
    rw [bytesBehindCodes_of_not hzero, bytesBehindCodes_of_not hone]
  have hcode : shortStartCode <+: 0 :: 0 :: 1 :: data := List.prefix_append shortStartCode data
  show bytesBehindCodes (0 :: 0 :: 1 :: data) = _
  rw [bytesBehindCodes_cons, hrest]
  congr 1
  -- The byte is there unless the start code is at the end.
  cases data with
  | nil => rfl
  | cons d more =>
      rw [if_pos ⟨by simp only [List.length_cons]; omega, hcode⟩]
      rfl

/-- A long start code is a zero and a short one, and only the latter is counted. -/
theorem bytesBehindCodes_startCode_append (data : Bytes) :
    bytesBehindCodes (startCode ++ data)
      = data.head?.toList.map some ++ bytesBehindCodes data := by
  have hbits : ¬ (1 : UInt8) = 0 := by decide
  have hzero : ¬ shortStartCode <+: 0 :: (shortStartCode ++ data) := by
    simp only [shortStartCode, List.cons_append, List.cons_prefix_cons, hbits, false_and,
      and_false, not_false_eq_true]
  rw [← bytesBehindCodes_shortStartCode_append]
  exact bytesBehindCodes_of_not hzero

theorem isAnnexB_of_startCodeLength {data : Bytes} {n : Nat} (h : startCodeLength data = n + 1) :
    isAnnexB data = true := by
  rw [isAnnexB, h]
  rfl

/-- Whatever the form of a start code, leaving it out leaves out no other one. -/
theorem bytesBehindCodes_of_code {data : Bytes} {n : Nat} (h : startCodeLength data = n + 1) :
    bytesBehindCodes data
      = (data.drop (n + 1)).head?.toList.map some ++ bytesBehindCodes (data.drop (n + 1)) := by
  rcases (isAnnexB_iff data).mp (isAnnexB_of_startCodeLength h) with ⟨more, rfl⟩ | ⟨more, rfl⟩
  · -- The length says which of the two forms was met.
    rw [startCodeLength_startCode_append] at h
    rw [← h]
    exact bytesBehindCodes_startCode_append more
  · rw [startCodeLength_shortStartCode_append] at h
    rw [← h]
    exact bytesBehindCodes_shortStartCode_append more

/-- The search from the front finds the bytes behind the start codes, each once and in order. -/
theorem map_headersAfterStartCodes (data : Bytes) :
    (headersAfterStartCodes data).map some = bytesBehindCodes data := by
  -- The induction follows the search, which moves on by one byte or by a start code.
  fun_induction headersAfterStartCodes data with
  | case1 => rfl
  | case2 b rest hnone ih =>
      have hshort : ¬ shortStartCode <+: b :: rest := by
        intro hshort
        have hcode := (isAnnexB_iff (b :: rest)).mpr (Or.inr hshort)
        rw [isAnnexB, hnone] at hcode
        exact Bool.noConfusion hcode
      rw [ih, bytesBehindCodes_of_not hshort]
  | case3 b rest n hcode ih =>
      rw [List.map_append, ih, bytesBehindCodes_of_code hcode, List.drop_succ_cons]

/-! ## A scan by offsets -/

/-- One step of the search at a start code, whatever its form. -/
theorem headersAfterStartCodes_of_code {data : Bytes} {n : Nat}
    (h : startCodeLength data = n + 1) :
    headersAfterStartCodes data
      = (data.drop (n + 1)).head?.toList ++ headersAfterStartCodes (data.drop (n + 1)) := by
  cases data with
  | nil => exact absurd h.symm (Nat.succ_ne_zero n)
  | cons b rest =>
      rw [headersAfterStartCodes, h]
      rfl

/-- Where a scan stands. -/
structure HeaderScan where
  /-- The offset of the byte that it looks at next. -/
  offset : Nat
  /-- It has found nothing yet. -/
  fresh : Bool

/-- What one round of a scan comes to. -/
inductive ScanRound where
  /-- There are no more bytes. -/
  | ended
  /-- There was nothing to report. -/
  | passed (next : HeaderScan)
  /-- A byte is reported. -/
  | reported (header : UInt8) (next : HeaderScan)

namespace HeaderScan

/-- One round of a scan. At a start code it moves on behind it and reports the byte that it
    stands on then, if there is one. Anywhere else it moves on by one byte, but if it has found
    nothing yet, it reports that byte and has done with all of them. -/
def round (data : Bytes) (s : HeaderScan) : ScanRound :=
  match data[s.offset]? with
  | none => .ended
  | some b =>
    match startCodeLength (data.drop s.offset) with
    | 0 =>
      if s.fresh then .reported b ⟨data.length, false⟩ else .passed ⟨s.offset + 1, false⟩
    | n + 1 =>
      match data[s.offset + (n + 1)]? with
      | none => .passed ⟨s.offset + (n + 1), false⟩
      | some header => .reported header ⟨s.offset + (n + 1), false⟩

/-- The scan comes to its end, and these are the bytes that it reports until then. -/
inductive Reports (data : Bytes) : HeaderScan → Bytes → Prop
  | ended {s : HeaderScan} (hround : s.round data = .ended) : Reports data s []
  | passed {s next : HeaderScan} {headers : Bytes} (hround : s.round data = .passed next)
      (hmore : Reports data next headers) : Reports data s headers
  | reported {s next : HeaderScan} {header : UInt8} {headers : Bytes}
      (hround : s.round data = .reported header next) (hmore : Reports data next headers) :
      Reports data s (header :: headers)

/-- What a scan has still to report. -/
def remaining (data : Bytes) (s : HeaderScan) : Bytes :=
  if s.fresh then unitHeaders (data.drop s.offset)
  else headersAfterStartCodes (data.drop s.offset)

end HeaderScan

/-- The round moves the scan on, inside of the bytes, and what was to be reported is what it
    reports and what is to be reported then. -/
def ScanRound.Keeps (data : Bytes) (s : HeaderScan) : ScanRound → Prop
  | .ended => s.remaining data = []
  | .passed next =>
    s.offset < next.offset ∧ s.offset < data.length ∧ s.remaining data = next.remaining data
  | .reported header next =>
    s.offset < next.offset ∧ s.offset < data.length
      ∧ s.remaining data = header :: next.remaining data

namespace HeaderScan

/-- Once a scan has found something, only start codes matter. -/
@[simp] theorem remaining_searching (data : Bytes) (offset : Nat) :
    remaining data ⟨offset, false⟩ = headersAfterStartCodes (data.drop offset) := rfl

/-- At a start code it does not matter whether anything has been found before. -/
theorem remaining_of_code {data : Bytes} {s : HeaderScan} {n : Nat}
    (h : startCodeLength (data.drop s.offset) = n + 1) :
    s.remaining data = data[s.offset + (n + 1)]?.toList
      ++ remaining data ⟨s.offset + (n + 1), false⟩ := by
  have hsearch : s.remaining data = headersAfterStartCodes (data.drop s.offset) := by
    rw [remaining, unitHeaders, if_pos (isAnnexB_of_startCodeLength h), ite_self]
  rw [hsearch, headersAfterStartCodes_of_code h, List.head?_drop, List.drop_drop,
    List.getElem?_drop, remaining_searching]

/-- Where no start code begins, a scan that has found nothing takes the first byte for the
    header of the only unit, and any other passes it over. -/
theorem remaining_of_no_code {data : Bytes} {s : HeaderScan} {b : UInt8}
    (hbyte : data[s.offset]? = some b) (h : startCodeLength (data.drop s.offset) = 0) :
    s.remaining data
      = if s.fresh then [b] else remaining data ⟨s.offset + 1, false⟩ := by
  obtain ⟨hinside, hb⟩ := List.getElem?_eq_some_iff.mp hbyte
  have hdrop : data.drop s.offset = b :: data.drop (s.offset + 1) := by
    rw [List.drop_eq_getElem_cons hinside, hb]
  have hcode : ¬ isAnnexB (b :: data.drop (s.offset + 1)) = true := by
    rw [isAnnexB, ← hdrop, h]
    decide
  rw [remaining, hdrop, unitHeaders, if_neg hcode, headersAfterStartCodes_of_not_isAnnexB hcode,
    remaining_searching]
  rfl

/-- A round reports the first of what remains, or nothing, and moves on. -/
theorem round_keeps {data : Bytes} {s : HeaderScan} {outcome : ScanRound}
    (h : s.round data = outcome) : outcome.Keeps data s := by
  rw [← h]
  -- The cases are those of the round: the byte, the start code, and what is behind it.
  cases hbyte : data[s.offset]? with
  | none =>
      have hend : data.drop s.offset = [] :=
        List.drop_eq_nil_of_le (List.getElem?_eq_none_iff.mp hbyte)
      simp only [round, hbyte, ScanRound.Keeps, remaining, hend]
      rw [headersAfterStartCodes]
      exact ite_self []
  | some b =>
      have hinside : s.offset < data.length := (List.getElem?_eq_some_iff.mp hbyte).1
      cases hcode : startCodeLength (data.drop s.offset) with
      | zero =>
          have hremaining := remaining_of_no_code hbyte hcode
          by_cases hfresh : s.fresh = true
          · -- Behind the last byte there is nothing to report.
            have hend : remaining data ⟨data.length, false⟩ = [] := by
              rw [remaining_searching, List.drop_length, headersAfterStartCodes]
            rw [if_pos hfresh] at hremaining
            simp only [round, hbyte, hcode, hfresh, if_true, ScanRound.Keeps]
            exact ⟨hinside, hinside, by rw [hremaining, hend]⟩
          · rw [if_neg hfresh] at hremaining
            simp only [round, hbyte, hcode, hfresh, Bool.false_eq_true, if_false,
              ScanRound.Keeps]
            exact ⟨Nat.lt_succ_self _, hinside, hremaining⟩
      | succ n =>
          have hremaining := remaining_of_code hcode
          have hmove : s.offset < s.offset + (n + 1) := by omega
          cases hheader : data[s.offset + (n + 1)]? with
          | none =>
              rw [hheader] at hremaining
              simp only [round, hbyte, hcode, hheader, ScanRound.Keeps]
              exact ⟨hmove, hinside, hremaining⟩
          | some header =>
              rw [hheader] at hremaining
              simp only [round, hbyte, hcode, hheader, ScanRound.Keeps]
              exact ⟨hmove, hinside, hremaining⟩

/-- Since every round moves the scan on, it comes to the end. -/
theorem reports_remaining (data : Bytes) (s : HeaderScan) :
    Reports data s (s.remaining data) := by
  -- The induction is on the bytes that are left, which every round makes fewer.
  induction hleft : data.length - s.offset using Nat.strong_induction_on generalizing s with
  | _ left ih =>
      cases hround : s.round data with
      | ended =>
          have hremaining : s.remaining data = [] := round_keeps hround
          rw [hremaining]
          exact .ended hround
      | passed next =>
          obtain ⟨hmove, hinside, hremaining⟩ := round_keeps hround
          rw [hremaining]
          exact .passed hround (ih _ (by omega) next rfl)
      | reported header next =>
          obtain ⟨hmove, hinside, hremaining⟩ := round_keeps hround
          rw [hremaining]
          exact .reported hround (ih _ (by omega) next rfl)

/-- A scan comes to its end, and reports what remained and nothing else. -/
theorem reports_iff (data : Bytes) (s : HeaderScan) (headers : Bytes) :
    Reports data s headers ↔ headers = s.remaining data := by
  constructor
  · intro h
    -- A round that reports nothing keeps what remains, and one that reports a byte takes it off.
    induction h with
    | ended hround =>
        exact (round_keeps hround).symm
    | passed hround _ ih =>
        rw [ih]
        exact (round_keeps hround).2.2.symm
    | reported hround _ ih =>
        rw [ih]
        exact (round_keeps hround).2.2.symm
  · intro h
    rw [h]
    exact reports_remaining data s

end HeaderScan

/-- A scan from the first byte comes to its end and reports the header bytes. If the bytes begin
    with a start code, these are the bytes behind all start codes that a byte follows, in the
    order of their offsets and each once. If there is no start code, it is the first byte, and
    nothing if there is none. -/
theorem unitHeaders_codeOffsets (data : Bytes) :
    (∀ headers, HeaderScan.Reports data ⟨0, true⟩ headers ↔ headers = unitHeaders data)
      ∧ (isAnnexB data = true →
        (codeOffsets data).Pairwise (· < ·)
          ∧ (∀ p, p ∈ codeOffsets data ↔ p + 3 < data.length ∧ shortStartCode <+: data.drop p)
          ∧ (unitHeaders data).map some = (codeOffsets data).map fun p => data[p + 3]?)
      ∧ (¬ shortStartCode <:+: data → unitHeaders data = data.head?.toList) := by
  refine ⟨fun headers => HeaderScan.reports_iff data ⟨0, true⟩ headers, ?_, ?_⟩
  · intro hcode
    refine ⟨codeOffsets_pairwise data, mem_codeOffsets data, ?_⟩
    rw [unitHeaders, if_pos hcode, map_headersAfterStartCodes, bytesBehindCodes]
  · intro hnone
    have hcode : ¬ isAnnexB data = true := by
      intro hcode
      rcases (isAnnexB_iff data).mp hcode with hlong | hshort
      · -- The last three bytes of a long start code are a short one.
        have hsuffix : shortStartCode <:+ startCode := List.suffix_cons 0 shortStartCode
        exact hnone (hsuffix.isInfix.trans hlong.isInfix)
      · exact hnone hshort.isInfix
    rw [unitHeaders, if_neg hcode]

/-- An empty unit, a unit behind three zeros that are no part of it, and a start code at the
    very end, which no byte follows. -/
theorem unitHeaders_codeOffsets_empty_unit :
    let data : Bytes := [0, 0, 0, 1, 0, 0, 1, 0x65, 0, 0, 0, 0, 1, 0x41, 0, 0, 1]
    isAnnexB data = true ∧ unitHeaders data = [0, 0x65, 0x41]
      ∧ HeaderScan.Reports data ⟨0, true⟩ [0, 0x65, 0x41]
      ∧ ¬ shortStartCode <:+: [0x65, 0, 0] ∧ unitHeaders [0x65, 0, 0] = [0x65] := by
  intro data
  have hcode : isAnnexB data = true := by decide
  have hnone : ¬ shortStartCode <:+: [0x65, 0, 0] := by decide
  have hoffsets : codeOffsets data = [1, 4, 10] := by decide
  obtain ⟨hreports, hbehind, -⟩ := unitHeaders_codeOffsets data
  have hheaders : unitHeaders data = [0, 0x65, 0x41] := by
    have hsome : (unitHeaders data).map some = [0, 0x65, 0x41].map some := by
      rw [(hbehind hcode).2.2, hoffsets]
      rfl
    exact (List.map_inj_right fun _ _ => Option.some.inj).mp hsome
  exact ⟨hcode, hheaders, (hreports _).mpr hheaders.symm, hnone,
    (unitHeaders_codeOffsets [0x65, 0, 0]).2.2 hnone⟩

end Nal

end Recode

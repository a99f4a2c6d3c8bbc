import Recode.Json.Names
import Recode.Json.Writer
import Recode.Proofs.Json.Scanning

/-!
# Reading scalars

Strings, integers and named values are read for what their text stands for. For
strings that is shown of every spelling: escapes by letter or by number, surrogates in
pairs, or the plain character. Integers are read back as they are written, over the
whole range of their words.

A reader's answer contains a proof that tokens were used up, and two answers with the
same value and rest are the same. `Yields` leaves the proof unnamed, and `Reader.Takes`
goes on to leave the tokens unnamed: what is taken is a piece of text.

## Main definitions

* `Yields`: A reader takes a value off a list of tokens.
* `Reader.Takes`: A reader takes a piece of text for a value.

## Theorems

* `Reader.Takes.parse`: A text that is one value is read as that value.
* `Denotes.fragmentsValue_eq`: A string has the characters that it denotes.
* `writeString_isName`: What is written for a string is a spelling of it.
* `readText_takes`, `readVariant_takes`: Strings are read.
* `readOptional_yields_some`: What may be `null` is read like the value itself.
* `Numeral.value_ofInt`: The value of the digits of an integer.
* `readUInt32_takes`, `readUInt64_takes`, `readInt32_yields`: Integers are read back.
* `readUInt64_takes_digits`: A word is read from the digits that write it.
* `readCodec_takes`, `readPixelFormat_takes`, `readSampleFormat_takes`: Named values are
  read back.
* `readCodec_takes_name`: A codec is read from every spelling of its name.
-/

namespace Recode

namespace Json

variable {α β : Type}

/-- The reader takes `a` off the front of `tokens` and leaves `rest`. -/
def Yields (r : Reader α) (tokens : List Token) (a : α) (rest : List Token) : Prop :=
  ∃ h, r tokens = .ok ⟨a, rest, h⟩

/-- The reader takes the text for `a`, whatever follows it. -/
def Reader.Takes (r : Reader α) (text : List Char) (a : α) : Prop :=
  ∃ tokens, Scans text tokens ∧ ∀ rest, Yields r (tokens ++ rest) a rest

theorem Yields.map {r : Reader α} {tokens rest : List Token} {a : α} (f : α → β)
    (h : Yields r tokens a rest) : Yields (r.map f) tokens (f a) rest := by
  obtain ⟨hshorter, heq⟩ := h
  exact ⟨hshorter, by rw [Reader.map, heq]; rfl⟩

namespace Reader

theorem Takes.map {r : Reader α} {text : List Char} {a : α} (f : α → β) (h : r.Takes text a) :
    (r.map f).Takes text (f a) := by
  obtain ⟨tokens, hscan, hyields⟩ := h
  exact ⟨tokens, hscan, fun rest => (hyields rest).map f⟩

theorem Takes.padded {r : Reader α} {item text : List Char} {a : α} (h : r.Takes item a)
    (hpadded : Padded item text) : r.Takes text a := by
  obtain ⟨tokens, hscan, hyields⟩ := h
  exact ⟨tokens, hscan.padded hpadded, hyields⟩

/-- A text that is a value and nothing else is read as that value. -/
theorem Takes.parse {r : Reader α} {text : List Char} {a : α} (h : r.Takes text a) :
    r.parse (String.ofList text) = .ok a := by
  obtain ⟨tokens, hscan, hyields⟩ := h
  have hall := hscan [] EndsNumber.nil
  obtain ⟨hshorter, heq⟩ := hyields (scan [])
  rw [List.append_nil] at hall
  rw [Reader.parse, String.toList_ofList, hall]
  simp only [heq, bind, Except.bind]
  rw [scan]
  rfl

end Reader

/-! ## Strings -/

theorem isLeadingSurrogate_iff (u : Nat) :
    isLeadingSurrogate u = true ↔ 0xd800 ≤ u ∧ u ≤ 0xdbff := by
  simp only [isLeadingSurrogate, Bool.and_eq_true, decide_eq_true_eq]

theorem isTrailingSurrogate_iff (u : Nat) :
    isTrailingSurrogate u = true ↔ 0xdc00 ≤ u ∧ u ≤ 0xdfff := by
  simp only [isTrailingSurrogate, Bool.and_eq_true, decide_eq_true_eq]

/-- The value of a string is computed to the characters that its fragments denote. -/
theorem Denotes.fragmentsValue_eq {fragments : List Fragment} {cs : List Char}
    (h : Denotes fragments cs) : fragmentsValue .closed fragments = .ok cs := by
  induction h with
  | nil => rfl
  | char _ ih => rw [fragmentsValue, ih]; rfl
  | @unit u fragments cs hunit _ ih =>
      -- Outside the surrogates a unit is no half of a pair.
      have hleading : ¬isLeadingSurrogate u = true := by
        rw [isLeadingSurrogate_iff]
        omega
      have htrailing : ¬isTrailingSurrogate u = true := by
        rw [isTrailingSurrogate_iff]
        omega
      rw [fragmentsValue.eq_def]
      simp only [hleading, htrailing, ih]
      rfl
  | @pair u v fragments cs hu hv _ ih =>
      have hleading : isLeadingSurrogate u = true := (isLeadingSurrogate_iff u).mpr hu
      have htrailing : isTrailingSurrogate v = true := (isTrailingSurrogate_iff v).mpr hv
      -- The leading half is no trailing one, so it is not taken for a lone surrogate.
      have hfirst : ¬isTrailingSurrogate u = true := by
        rw [isTrailingSurrogate_iff]
        omega
      rw [fragmentsValue.eq_def]
      simp only [hleading, hfirst, htrailing, if_true, ih]
      rfl

/-- A name is one token, and its value is the name. -/
theorem IsName.scans {name : String} {text : List Char} (h : IsName name text) :
    ∃ body : StringBody, Scans text [.text body] ∧ body.value = .ok name := by
  obtain ⟨fragments, hstring, hdenotes⟩ := h
  refine ⟨⟨fragments, .closed⟩, hstring.scans, ?_⟩
  rw [StringBody.value, hdenotes.fragmentsValue_eq]
  simp only [Except.map, String.ofList_toList]

theorem readText_takes {name : String} {text : List Char} (h : IsName name text)
    (expected : String) : (readText expected).Takes text name := by
  obtain ⟨body, hscan, hvalue⟩ := h.scans
  refine ⟨_, hscan, fun rest => ⟨Nat.lt_succ_self _, ?_⟩⟩
  simp only [List.singleton_append, readText, hvalue, bind, Except.bind]
  rfl

/-- A variant is read from its name, wherever its name stands in the list. -/
theorem readVariant_takes {variants : List (String × α)} {name : String} {a : α}
    {text : List Char} (h : IsName name text) (hlookup : variants.lookup name = some a) :
    (readVariant variants).Takes text a := by
  obtain ⟨body, hscan, hvalue⟩ := h.scans
  refine ⟨_, hscan, fun rest => ⟨Nat.lt_succ_self _, ?_⟩⟩
  simp only [List.singleton_append, readVariant, variantNamed, hvalue, hlookup, bind, Except.bind]
  rfl

theorem escapeLetter?_mem {c letter : Char} (h : escapeLetter? c = some letter) :
    (letter, c) ∈ escapes := by
  unfold escapeLetter? at h
  split at h
  all_goals first
    | exact absurd h (by simp only [reduceCtorEq, not_false_eq_true])
    | rw [← Option.some.inj h]; decide

theorem hexDigit_mem {n : Nat} (h : n < 16) : (hexDigit n, n) ∈ hexDigits := by
  have hall : ∀ n < 16, (hexDigit n, n) ∈ hexDigits := by decide
  exact hall n h

/-- However a character is written, it is one fragment and stands for itself. -/
theorem escapeChar_spells (c : Char) :
    ∃ fragment, (∀ fragments cs, IsContents fragments cs →
          IsContents (fragment :: fragments) (escapeChar c ++ cs))
      ∧ ∀ fragments cs, Denotes fragments cs → Denotes (fragment :: fragments) (c :: cs) := by
  cases hletter : escapeLetter? c with
  | some letter =>
      refine ⟨.char c, fun fragments cs h => ?_, fun fragments cs h => .char h⟩
      simp only [escapeChar, hletter, List.cons_append, List.nil_append]
      exact .letter (escapeLetter?_mem hletter) h
  | none =>
      by_cases hspace : c < ' '
      · -- Below the space a character is written by number, and the first two digits are zero.
        have hsmall : c.toNat < 32 := hspace
        have hhigh : c.toNat / 16 < 16 := by omega
        have hlow : c.toNat % 16 < 16 := Nat.mod_lt _ (by omega)
        have hnumber : fourDigits 0 0 (c.toNat / 16) (c.toNat % 16) = c.toNat := by
          rw [fourDigits]
          omega
        refine ⟨.unit c.toNat, fun fragments cs h => ?_, fun fragments cs h => ?_⟩
        · have hzero : ('0', 0) ∈ hexDigits := List.mem_cons_self ..
          have hunit := IsContents.unit hzero hzero (hexDigit_mem hhigh) (hexDigit_mem hlow) h
          rw [hnumber] at hunit
          simp only [escapeChar, hletter, hspace, if_true, List.cons_append, List.nil_append]
          exact hunit
        · have hunit := Denotes.unit (u := c.toNat) (Or.inl (by omega)) h
          rwa [Char.ofNat_toNat] at hunit
      · -- Any other character is written as it is. The two that would end or escape the string
        -- are not among them.
        have hquote : c ≠ '"' := by
          rintro rfl
          exact absurd hletter (by decide)
        have hbackslash : c ≠ '\\' := by
          rintro rfl
          exact absurd hletter (by decide)
        refine ⟨.char c, fun fragments cs h => ?_, fun fragments cs h => .char h⟩
        simp only [escapeChar, hletter, hspace, if_false, List.cons_append, List.nil_append]
        exact .plain hquote hbackslash hspace h

/-- What is written for a string is a spelling of it. -/
theorem writeString_isName (s : String) : IsName s (writeString s) := by
  have hspells : ∀ cs : List Char, ∃ fragments,
      IsContents fragments (cs.flatMap escapeChar) ∧ Denotes fragments cs := by
    intro cs
    induction cs with
    | nil => exact ⟨[], .nil, .nil⟩
    | cons c cs ih =>
        obtain ⟨fragments, hcontents, hdenotes⟩ := ih
        obtain ⟨fragment, hwritten, hstands⟩ := escapeChar_spells c
        refine ⟨fragment :: fragments, ?_, hstands _ _ hdenotes⟩
        rw [List.flatMap_cons]
        exact hwritten _ _ hcontents
  obtain ⟨fragments, hcontents, hdenotes⟩ := hspells s.toList
  exact ⟨fragments, ⟨_, hcontents, rfl⟩, hdenotes⟩

/-! ## Integers -/

/-- The digits of a number have no zero in front, unless it is zero. -/
theorem toDigits_isWhole (n : Nat) : IsWhole (Nat.toDigits 10 n) := by
  have hdigits : ∀ n, IsDigits (Nat.toDigits 10 n) := fun n =>
    ⟨Nat.toDigits_ne_nil, fun d hd => Nat.isDigit_of_mem_toDigits (by decide) (by decide) hd⟩
  by_cases hzero : n = 0
  · exact Or.inl (by rw [hzero, Nat.toDigits_zero])
  · refine Or.inr ⟨hdigits n, ?_⟩
    -- The first digit is that of a number below ten, which is not zero either.
    induction n using Nat.strongRecOn with
    | ind n ih =>
        by_cases hsmall : n < 10
        · have hall : ∀ k < 10, k ≠ 0 → Nat.digitChar k ≠ '0' := by decide
          rw [Nat.toDigits_of_lt_base hsmall, List.head?_cons]
          exact fun h => hall n hsmall hzero (Option.some.inj h)
        · -- A number of more digits begins like its tenth.
          have hfirst := ih (n / 10) (by omega) (by omega)
          obtain ⟨d, more, hcons⟩ :=
            List.exists_cons_of_ne_nil (Nat.toDigits_ne_nil (n := n / 10) (b := 10))
          rw [hcons] at hfirst
          rw [Nat.toDigits_of_base_le (by decide) (by omega), hcons]
          exact hfirst

/-- The digits of an integer, as they are written. -/
def Numeral.ofInt (n : Int) : Numeral := ⟨decide (n < 0), Nat.toDigits 10 n.natAbs, none, none⟩

theorem writeInteger_isNumber (n : Int) : IsNumber (.ofInt n) (writeInteger n) := by
  have hnumber := IsNumber.intro (n := .ofInt n) (toDigits_isWhole n.natAbs) .none .none
  simpa only [Numeral.ofInt, writeInteger, decide_eq_true_eq, List.append_nil] using hnumber

/-- More digits never make a number smaller. -/
theorem le_ofDigitChars (digits : List Char) (n : Nat) : n ≤ Nat.ofDigitChars 10 digits n := by
  induction digits generalizing n with
  | nil => exact Nat.le_of_eq Nat.ofDigitChars_nil.symm
  | cons c digits ih =>
      have hrest := ih (10 * n + (c.toNat - '0'.toNat))
      rw [Nat.ofDigitChars_cons]
      omega

/-- Digits whose number fits 64 bits are all taken up. -/
theorem appendDigits_of_lt {digits : List Char} {n : Nat}
    (h : Nat.ofDigitChars 10 digits n < UInt64.size) :
    appendDigits n digits = (Nat.ofDigitChars 10 digits n, 0) := by
  induction digits generalizing n with
  | nil => rw [appendDigits, Nat.ofDigitChars_nil]
  | cons c digits ih =>
      rw [Nat.ofDigitChars_cons] at h ⊢
      have hnext : n * 10 + digitValue c = 10 * n + (c.toNat - '0'.toNat) := by
        rw [digitValue, Nat.mul_comm]
      -- The number only grows, so it fits here if it does at the end.
      have hfits := Nat.lt_of_le_of_lt (le_ofDigitChars digits _) h
      simp only [appendDigits, hnext, hfits, if_true]
      exact ih h

/-- Digits that are written for an integer have that integer for their value, if a word of 64 bits
    holds it. -/
theorem Numeral.value_ofInt {n : Int} (hlow : Int64.minValue.toInt ≤ n)
    (hhigh : n < UInt64.size) : (ofInt n).value = .ok (.integer n) := by
  have hsize : n.natAbs < UInt64.size := by
    have hmin : Int64.minValue.toInt = -9223372036854775808 := rfl
    have hmax : UInt64.size = 18446744073709551616 := rfl
    omega
  have hdigits : appendDigits 0 (Nat.toDigits 10 n.natAbs) = (n.natAbs, 0) := by
    rw [appendDigits_of_lt (by rwa [Nat.ofDigitChars_ten_toDigits]),
      Nat.ofDigitChars_ten_toDigits]
  simp only [value, ofInt, hdigits, Option.isNone_none, and_self, if_true, wholeValue]
  -- With a sign the digits are those of the opposite number.
  by_cases hneg : n < 0
  · have habs : (n.natAbs : Int) = -n := by omega
    have hpos : 0 < n.natAbs := by omega
    simp only [hneg, decide_true, Bool.not_true, Bool.false_eq_true, if_false, habs, Int.neg_neg,
      hpos, hlow, and_self, if_true]
  · have habs : (n.natAbs : Int) = n := by omega
    simp only [hneg, decide_false, Bool.not_false, if_true, habs]

/-- Without a sign, a point and an exponent the value is the number that the digits write. -/
theorem Numeral.value_of_digits {digits : List Char} {n : Nat}
    (hvalue : Nat.ofDigitChars 10 digits 0 = n) (hsize : n < UInt64.size) :
    (Numeral.mk false digits none none).value = .ok (.integer n) := by
  have hdigits : appendDigits 0 digits = (n, 0) := by
    rw [appendDigits_of_lt (by rwa [hvalue]), hvalue]
  simp only [value, hdigits, Option.isNone_none, and_self, if_true, wholeValue, Bool.not_false]

/-- A number in the range of the reader is read as its value. -/
theorem readInteger_yields_of_value {low high n : Int} {numeral : Numeral}
    (hvalue : numeral.value = .ok (.integer n)) (hrange : low ≤ n ∧ n ≤ high) (expected : String)
    (rest : List Token) :
    Yields (readInteger low high expected) (.number numeral :: rest) n rest := by
  refine ⟨Nat.lt_succ_self _, ?_⟩
  simp only [readInteger, hvalue, bind, Except.bind, hrange, and_self, if_true]
  rfl

/-- Integers are read back, if words of 64 bits hold the range of the reader. -/
theorem readInteger_yields {low high n : Int} (hrange : low ≤ n ∧ n ≤ high)
    (hwords : Int64.minValue.toInt ≤ low ∧ high < UInt64.size) (expected : String)
    (rest : List Token) :
    Yields (readInteger low high expected) (.number (.ofInt n) :: rest) n rest :=
  readInteger_yields_of_value (Numeral.value_ofInt (Int.le_trans hwords.1 hrange.1)
    (Int.lt_of_le_of_lt hrange.2 hwords.2)) hrange expected rest

theorem readUInt32_takes (n : UInt32) : readUInt32.Takes (writeInteger n.toNat) n := by
  refine ⟨_, (writeInteger_isNumber n.toNat).scans, fun rest => ?_⟩
  have hrange : (0 : Int) ≤ n.toNat ∧ (n.toNat : Int) ≤ UInt32.size - 1 := by
    have hlt : n.toNat < UInt32.size := n.toNat_lt
    omega
  -- The word is read as an integer, and that goes back to the word.
  have hyields := (readInteger_yields hrange (by decide) "u32" rest).map
    fun i => UInt32.ofNat i.toNat
  rwa [Int.toNat_natCast, UInt32.ofNat_toNat] at hyields

/-- Digits are read as the word that they write. -/
theorem readUInt64_takes_digits {digits : List Char} {n : UInt64} (hwhole : IsWhole digits)
    (hvalue : Nat.ofDigitChars 10 digits 0 = n.toNat) : readUInt64.Takes digits n := by
  have hnumber : IsNumber ⟨false, digits, none, none⟩ digits := by
    have hnumber := IsNumber.intro (n := ⟨false, digits, none, none⟩) hwhole .none .none
    simpa only [Bool.false_eq_true, if_false, List.nil_append, List.append_nil] using hnumber
  refine ⟨_, hnumber.scans, fun rest => ?_⟩
  have hlt : n.toNat < UInt64.size := n.toNat_lt
  have hrange : (0 : Int) ≤ n.toNat ∧ (n.toNat : Int) ≤ UInt64.size - 1 := by omega
  have hyields := (readInteger_yields_of_value (Numeral.value_of_digits hvalue hlt) hrange "usize"
    rest).map fun i => UInt64.ofNat i.toNat
  rwa [Int.toNat_natCast, UInt64.ofNat_toNat] at hyields

theorem writeInteger_ofNat (n : Nat) : writeInteger n = Nat.toDigits 10 n := by
  rw [writeInteger, if_neg (Int.not_lt.mpr (Int.natCast_nonneg n)), List.nil_append,
    Int.natAbs_natCast]

theorem readUInt64_takes (n : UInt64) : readUInt64.Takes (writeInteger n.toNat) n := by
  rw [writeInteger_ofNat]
  exact readUInt64_takes_digits (toDigits_isWhole n.toNat) Nat.ofDigitChars_ten_toDigits

theorem readInt32_yields (n : Int32) (rest : List Token) :
    Yields readInt32 (.number (.ofInt n.toInt) :: rest) n rest := by
  have hrange : Int32.minValue.toInt ≤ n.toInt ∧ n.toInt ≤ Int32.maxValue.toInt :=
    ⟨n.minValue_le_toInt, n.toInt_le⟩
  have hyields := (readInteger_yields hrange (by decide) "i32" rest).map Int32.ofInt
  rwa [Int32.ofInt_toInt] at hyields

/-! ## Optional strings -/

theorem readOptional_takes_null (r : Reader α) : (readOptional r).Takes writeNull none :=
  ⟨_, Word.null.scans, fun _ => ⟨Nat.lt_succ_self _, rfl⟩⟩

/-- What may be `null` is read like the value itself, by a reader that refuses `null`. -/
theorem readOptional_yields_some {r : Reader α} {tokens rest : List Token} {a : α}
    (hrefused : ∀ rest, ∃ failure, r (.word .null :: rest) = .error failure)
    (h : Yields r tokens a rest) : Yields (readOptional r) tokens (some a) rest := by
  -- Tokens that begin with `null` are no tokens of which the reader yields something.
  have hvalue : ∀ tail, tokens = .word .null :: tail → False := by
    rintro tail rfl
    obtain ⟨failure, hfailure⟩ := hrefused tail
    obtain ⟨hshorter, heq⟩ := h
    rw [hfailure] at heq
    cases heq
  rw [Yields, readOptional.eq_2 r tokens hvalue]
  exact h.map some

theorem Reader.Takes.readOptional {r : Reader α} {text : List Char} {a : α}
    (h : r.Takes text a) (hrefused : ∀ rest, ∃ failure, r (.word .null :: rest) = .error failure) :
    (readOptional r).Takes text (some a) := by
  obtain ⟨tokens, hscan, hyields⟩ := h
  exact ⟨tokens, hscan, fun rest => readOptional_yields_some hrefused (hyields rest)⟩

theorem readOptional_takes_text {name : String} {text : List Char} (h : IsName name text)
    (expected : String) : (readOptional (readText expected)).Takes text (some name) :=
  (readText_takes h expected).readOptional fun _ => ⟨_, rfl⟩

/-! ## Named values -/

/-- A codec is read from every spelling of its name. -/
theorem readCodec_takes_name {c : Codec} {text : List Char} (h : IsName c.name text) :
    readCodec.Takes text c := by
  refine readVariant_takes h ?_
  cases c <;> rfl

theorem readCodec_takes (c : Codec) : readCodec.Takes (writeString c.name) c :=
  readCodec_takes_name (writeString_isName c.name)

theorem readPixelFormat_takes (f : PixelFormat) :
    readPixelFormat.Takes (writeString f.name) f := by
  refine readVariant_takes (writeString_isName f.name) ?_
  cases f <;> rfl

theorem readSampleFormat_takes (f : SampleFormat) :
    readSampleFormat.Takes (writeString f.name) f := by
  refine readVariant_takes (writeString_isName f.name) ?_
  cases f <;> rfl

end Json

end Recode

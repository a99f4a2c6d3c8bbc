import Mathlib.Algebra.Group.Nat.Defs
import Mathlib.Order.Lattice
import Mathlib.Tactic.ByContra
import Recode.Number.Binary32

/-!
# Whole numbers in single precision

A rate is rounded to a word, and a word is turned back into a rate. In general the
second step loses something, since a word has 32 bits and a significand 24. It loses
nothing for a word that a rate was rounded to. Below 2 ^ 24 every whole number is a
number of the format. Above, a number of the format has no fraction, so rounding it
is no change. And where rounding stops at the largest word, the word goes up to
2 ^ 32 on the way back and comes down to the same end again.

What can be lost is the zero. A rate that is greater than zero and less than one half
rounds to it, and then nothing tells it from a rate that was never known. These rates
are an interval of bit patterns, because numbers without a sign are in the order of
their bits.

## Main definitions

* `Number.Normal`: A whole number in the form in which the format keeps it.
* `Binary32.Survives`: A word that is a normal number or the largest word.

## Theorems

* `Number.round_of_normal`: A number of the format is not changed by rounding.
* `Number.exists_normal`: Whole numbers of no more than 24 bits are in the format.
* `Binary32.kind_cases`: What bits stand for, by their exponent field.
* `Binary32.kind_of_normal`: A number of the format is read back from its bits.
* `Binary32.survives_toWord`: Rounding ends in zero or in a word that survives.
* `Binary32.toWord_ofWord`, `Binary32.isPositive_ofWord`: What survives comes back.
* `Binary32.rounds_to_zero_iff`: Which positive numbers round to zero.
-/

namespace Recode

namespace Number

/-- The whole number `n`, written with all 24 bits of a significand. -/
structure Normal (n : Nat) (d : Magnitude) : Prop where
  low : 2 ^ 23 ≤ d.significand
  high : d.significand < 2 ^ 24
  least_le : single.least ≤ d.exponent
  le_greatest : d.exponent ≤ single.greatest
  value : n * d.denominator = d.numerator

theorem Magnitude.numerator_eq (d : Magnitude) :
    d.numerator = d.significand * 2 ^ d.exponent.toNat := Nat.shiftLeft_eq _ _

theorem Magnitude.denominator_eq (d : Magnitude) : d.denominator = 2 ^ (-d.exponent).toNat := by
  rw [denominator, Nat.one_shiftLeft]

theorem roundHalfEven_mul (n : Nat) {den : Nat} (hden : 0 < den) :
    roundHalfEven (n * den) den = n := by
  have hquotient : n * den / den = n := Nat.mul_div_cancel n hden
  have hremainder : n * den % den = 0 := Nat.mul_mod_left n den
  simp only [roundHalfEven, hquotient, hremainder]
  exact if_neg (by omega)

namespace Normal

variable {n : Nat} {d : Magnitude}

theorem pos (h : Normal n d) : 0 < n := by
  rcases Nat.eq_zero_or_pos n with rfl | hpos
  · have hvalue := h.value
    have hlow := h.low
    rw [Nat.zero_mul, d.numerator_eq, eq_comm, Nat.mul_eq_zero] at hvalue
    have hpow := Nat.two_pow_pos d.exponent.toNat
    omega
  · exact hpos

/-- A significand of 24 bits tells where the first bit of the number is. -/
theorem log2_eq (h : Normal n d) : (Nat.log2 n : Int) = d.exponent + 23 := by
  have hn : n ≠ 0 := h.pos.ne'
  have hbelow : 2 ^ Nat.log2 n ≤ n := Nat.log2_self_le hn
  have habove : n < 2 ^ (Nat.log2 n + 1) := Nat.lt_log2_self
  have hvalue := h.value
  rw [d.numerator_eq, d.denominator_eq] at hvalue
  have hdown := Nat.two_pow_pos (-d.exponent).toNat
  have hup := Nat.two_pow_pos d.exponent.toNat
  -- Both bounds on the number become bounds on the exponents of powers of two.
  have hle : Nat.log2 n + (-d.exponent).toNat < 24 + d.exponent.toNat := by
    refine (Nat.pow_lt_pow_iff_right (a := 2) (by decide)).mp ?_
    rw [Nat.pow_add, Nat.pow_add]
    calc 2 ^ Nat.log2 n * 2 ^ (-d.exponent).toNat
        ≤ n * 2 ^ (-d.exponent).toNat := Nat.mul_le_mul_right _ hbelow
      _ = d.significand * 2 ^ d.exponent.toNat := hvalue
      _ < 2 ^ 24 * 2 ^ d.exponent.toNat := Nat.mul_lt_mul_of_pos_right h.high hup
  have hge : 23 + d.exponent.toNat < Nat.log2 n + 1 + (-d.exponent).toNat := by
    refine (Nat.pow_lt_pow_iff_right (a := 2) (by decide)).mp ?_
    rw [Nat.pow_add, Nat.pow_add]
    calc 2 ^ 23 * 2 ^ d.exponent.toNat
        ≤ d.significand * 2 ^ d.exponent.toNat := Nat.mul_le_mul_right _ h.low
      _ = n * 2 ^ (-d.exponent).toNat := hvalue.symm
      _ < 2 ^ (Nat.log2 n + 1) * 2 ^ (-d.exponent).toNat := Nat.mul_lt_mul_of_pos_right habove hdown
  omega

/-- Rounding takes the unit in which the number is kept. -/
theorem unitExponent_eq (h : Normal n d) : single.unitExponent n 1 = d.exponent := by
  have hguess : (Nat.log2 n : Int) - Nat.log2 1 - ((single.precision : Int) - 1) = d.exponent := by
    rw [h.log2_eq, show Nat.log2 1 = 0 from rfl, show single.precision = 24 from rfl]
    omega
  -- The first guess is right, as the number has all 24 bits over this unit.
  have hlong : ¬ n <<< (-d.exponent).toNat < 1 <<< d.exponent.toNat <<< (single.precision - 1) := by
    have hvalue := h.value
    rw [d.numerator_eq, d.denominator_eq] at hvalue
    rw [Nat.shiftLeft_eq, hvalue, Nat.one_shiftLeft, Nat.shiftLeft_eq, Nat.mul_comm, Nat.not_lt]
    exact Nat.mul_le_mul_left _ h.low
  simp only [BinaryFormat.unitExponent, hguess]
  rw [if_neg hlong]
  exact max_eq_right h.least_le

end Normal

/-- A number of the format is not changed by rounding. -/
theorem round_of_normal {n : Nat} {d : Magnitude} (h : Normal n d) : single.round n 1 = d := by
  have hvalue := h.value
  rw [d.numerator_eq, d.denominator_eq] at hvalue
  -- The number is a whole multiple of its unit, so nothing is left to be rounded.
  have hunits : BinaryFormat.unitsOf n 1 d.exponent = d.significand := by
    rw [BinaryFormat.unitsOf, Nat.shiftLeft_eq, hvalue, Nat.one_shiftLeft]
    exact roundHalfEven_mul _ (Nat.two_pow_pos _)
  have hbits : ¬ d.significand = 1 <<< single.precision := by
    have hhigh := h.high
    rw [show 1 <<< single.precision = 2 ^ 24 from rfl]
    omega
  simp only [BinaryFormat.round, h.unitExponent_eq, hunits]
  rw [if_neg h.pos.ne', if_neg hbits]

/-- All whole numbers of no more than 24 bits are numbers of the format. -/
theorem exists_normal {n : Nat} (hpos : 0 < n) (hlt : n < 2 ^ 24) : ∃ d, Normal n d := by
  have hbelow : 2 ^ Nat.log2 n ≤ n := Nat.log2_self_le hpos.ne'
  have habove : n < 2 ^ (Nat.log2 n + 1) := Nat.lt_log2_self
  have hbits : Nat.log2 n < 24 :=
    (Nat.pow_lt_pow_iff_right (a := 2) (by decide)).mp (hbelow.trans_lt hlt)
  -- The number is moved up until it has all 24 bits.
  obtain ⟨free, hfree⟩ : ∃ free, Nat.log2 n + free = 23 := ⟨23 - Nat.log2 n, by omega⟩
  have hpow : 2 ^ Nat.log2 n * 2 ^ free = 2 ^ 23 := by rw [← Nat.pow_add, hfree]
  refine ⟨⟨n * 2 ^ free, -free⟩, ?_, ?_, ?_, ?_, ?_⟩
  · rw [← hpow]
    exact Nat.mul_le_mul_right _ hbelow
  · calc n * 2 ^ free < 2 ^ (Nat.log2 n + 1) * 2 ^ free :=
          Nat.mul_lt_mul_of_pos_right habove (Nat.two_pow_pos free)
      _ = 2 ^ 24 := by rw [← Nat.pow_add]; congr 1; omega
  · show (-149 : Int) ≤ -free
    omega
  · show -(free : Int) ≤ 104
    omega
  · rw [Magnitude.denominator_eq, Magnitude.numerator_eq, Int.neg_neg, Int.toNat_natCast,
      show (-(free : Int)).toNat = 0 by omega, Nat.pow_zero, Nat.mul_one]

end Number

namespace Binary32

open Number

/-! ## Bits and numbers -/

/-- What bits stand for is a matter of the exponent field. -/
theorem kind_cases (x : Binary32) {field fraction : Nat}
    (hfield : x.bits.toNat / 0x800000 % 0x100 = field)
    (hfraction : x.bits.toNat % 0x800000 = fraction) :
    field = 0xff ∧ (x.kind = .infinite ∨ x.kind = .notANumber)
      ∨ field = 0 ∧ x.kind = .finite ⟨fraction, single.least⟩
      ∨ 0 < field ∧ field < 0xff
        ∧ x.kind = .finite ⟨0x800000 + fraction, single.least + (field - 1)⟩ := by
  simp only [kind, hfield, hfraction]
  -- The largest field is for what is no finite number, and the smallest for the least unit.
  by_cases hspecial : field = 0xff
  · rw [if_pos hspecial]
    by_cases hinfinite : fraction = 0
    · exact .inl ⟨hspecial, .inl (if_pos hinfinite)⟩
    · exact .inl ⟨hspecial, .inr (if_neg hinfinite)⟩
  · rw [if_neg hspecial]
    by_cases hleast : field = 0
    · exact .inr (.inl ⟨hleast, if_pos hleast⟩)
    · exact .inr (.inr ⟨by omega, by omega, if_neg hleast⟩)

/-- Exponent field and fraction, put together and taken apart again. -/
theorem kind_ofNat {field fraction : Nat} (hpos : 0 < field) (hfield : field < 0xff)
    (hfraction : fraction < 0x800000) :
    (Binary32.mk (UInt32.ofNat (field * 0x800000 + fraction))).kind
        = .finite ⟨0x800000 + fraction, single.least + (field - 1)⟩
      ∧ (Binary32.mk (UInt32.ofNat (field * 0x800000 + fraction))).isNegative = false := by
  have hbits : (UInt32.ofNat (field * 0x800000 + fraction)).toNat
      = field * 0x800000 + fraction := by
    rw [UInt32.toNat_ofNat']
    omega
  -- Division by the place of the field takes the two apart.
  have hhigh : (field * 0x800000 + fraction) / 0x800000 % 0x100 = field := by omega
  have hlow : (field * 0x800000 + fraction) % 0x800000 = fraction := by omega
  constructor
  · rcases kind_cases ⟨UInt32.ofNat (field * 0x800000 + fraction)⟩ (by rw [hbits, hhigh])
      (by rw [hbits, hlow]) with ⟨hspecial, -⟩ | ⟨hleast, -⟩ | ⟨-, -, hkind⟩
    · omega
    · omega
    · exact hkind
  · rw [isNegative, decide_eq_false_iff_not, UInt32.le_iff_toNat_le, hbits]
    show ¬ 0x80000000 ≤ field * 0x800000 + fraction
    omega

/-- A number of the format is read back from its bits. -/
theorem kind_of_normal {n : Nat} {d : Magnitude} (h : Normal n d) :
    (ofMagnitude d).kind = .finite d ∧ (ofMagnitude d).isNegative = false := by
  obtain ⟨significand, exponent⟩ := d
  obtain ⟨hlow, hhigh, hleast, hgreatest, -⟩ := h
  simp only [single] at hlow hhigh hleast hgreatest
  -- The exponent is counted from the least one, and the first bit is not written down.
  obtain ⟨field, hfield⟩ : ∃ field : Nat, exponent = single.least + (field - 1) :=
    ⟨(exponent + 150).toNat, by simp only [single]; omega⟩
  obtain ⟨fraction, rfl⟩ : ∃ fraction, significand = 0x800000 + fraction :=
    ⟨significand - 0x800000, by omega⟩
  simp only [single] at hfield
  have hnat : (exponent - single.least + 1).toNat = field := by simp only [single]; omega
  have hpos : 0 < field := by omega
  have hlt : field < 0xff := by omega
  have hfraction : fraction < 0x800000 := by omega
  rw [ofMagnitude, if_neg (by simp only; omega)]
  simp only [hnat, Nat.add_sub_cancel_left]
  rw [hfield]
  exact kind_ofNat hpos hlt hfraction

/-- A whole number is not changed by rounding to one. -/
theorem roundHalfUp_of_value {n : Nat} {d : Magnitude} (h : n * d.denominator = d.numerator) :
    roundHalfUp d = n := by
  have hden : 0 < d.denominator := by rw [d.denominator_eq]; exact Nat.two_pow_pos _
  have htwice : n * (2 * d.denominator) = 2 * d.numerator := by rw [← h, Nat.mul_left_comm]
  refine Nat.div_eq_of_lt_le ?_ ?_
  · omega
  · rw [Nat.add_mul, Nat.one_mul]
    omega

/-! ## There and back -/

/-- A word other than zero that comes back from the format as it was. -/
def Survives (n : UInt32) : Prop := (∃ d, Normal n.toNat d) ∨ n.toNat = UInt32.size - 1

/-- Words of 24 bits survive, apart from zero. -/
theorem survives_of_lt {n : UInt32} (hpos : 0 < n) (hlt : n.toNat < 2 ^ 24) : Survives n :=
  .inl (exists_normal (UInt32.lt_iff_toNat_lt.mp hpos) hlt)

/-- What bits can stand for. Only the numbers with the least unit may be short. -/
theorem bounds_of_kind {x : Binary32} {d : Magnitude} (h : x.kind = .finite d) :
    d.significand < 2 ^ 24 ∧ single.least ≤ d.exponent ∧ d.exponent ≤ single.greatest
      ∧ (single.least < d.exponent → 2 ^ 23 ≤ d.significand) := by
  rcases kind_cases x rfl rfl with ⟨-, hkind | hkind⟩ | ⟨-, hkind⟩ | ⟨hpos, hlt, hkind⟩
  · cases hkind.symm.trans h
  · cases hkind.symm.trans h
  · cases hkind.symm.trans h
    exact ⟨by simp only; omega, le_refl _, (by decide : single.least ≤ single.greatest),
      fun hlt => absurd hlt (lt_irrefl _)⟩
  · cases hkind.symm.trans h
    simp only [single]
    exact ⟨by omega, by omega, by omega, fun _ => by omega⟩

/-- A number whose unit is less than one has few bits before the point, and any other is
    whole already. -/
theorem survives_roundHalfUp {x : Binary32} {d : Magnitude} (hkind : x.kind = .finite d)
    (hpos : 0 < roundHalfUp d) (hlt : roundHalfUp d < UInt32.size) :
    Survives (UInt32.ofNat (roundHalfUp d)) := by
  obtain ⟨hhigh, hleast, hgreatest, hlow⟩ := bounds_of_kind hkind
  have hnat : (UInt32.ofNat (roundHalfUp d)).toNat = roundHalfUp d := by
    rw [UInt32.toNat_ofNat']
    exact Nat.mod_eq_of_lt hlt
  refine .inl ?_
  rw [hnat]
  -- The unit of the number decides whether there is anything to round.
  by_cases hwhole : 0 ≤ d.exponent
  · have hden : d.denominator = 1 := by
      rw [d.denominator_eq, show (-d.exponent).toNat = 0 by omega, Nat.pow_zero]
    have hvalue : roundHalfUp d = d.numerator :=
      roundHalfUp_of_value (by rw [hden, Nat.mul_one])
    have hunit : single.least < d.exponent := by
      simp only [single]
      omega
    exact ⟨d, hlow hunit, hhigh, hleast, hgreatest, by rw [hvalue, hden, Nat.mul_one]⟩
  · have hnum : d.numerator = d.significand := by
      rw [d.numerator_eq, show d.exponent.toNat = 0 by omega, Nat.pow_zero, Nat.mul_one]
    have hden : 2 ≤ d.denominator := by
      rw [d.denominator_eq]
      exact Nat.le_self_pow (by omega) 2
    refine exists_normal hpos ?_
    rw [roundHalfUp, hnum]
    exact Nat.div_lt_of_lt_mul (by omega)

/-- Rounding ends in zero or in a word that survives. -/
theorem survives_toWord (x : Binary32) : x.toWord = 0 ∨ Survives x.toWord := by
  rw [toWord]
  -- What is no number and what is below zero ends at zero. What is too large ends at the largest
  -- word.
  cases hkind : x.kind with
  | notANumber => exact .inl rfl
  | infinite =>
      cases x.isNegative with
      | true => exact .inl rfl
      | false => exact .inr (.inr rfl)
  | finite d =>
      cases x.isNegative with
      | true => exact .inl rfl
      | false =>
          simp only [Bool.false_eq_true, if_false]
          rcases Nat.lt_or_ge (roundHalfUp d) UInt32.size with hlt | hlarge
          · rw [Nat.min_eq_left (Nat.le_sub_one_of_lt hlt)]
            rcases Nat.eq_zero_or_pos (roundHalfUp d) with hzero | hpos
            · rw [hzero]
              exact .inl rfl
            · exact .inr (survives_roundHalfUp hkind hpos hlt)
          · rw [Nat.min_eq_right ((Nat.sub_le _ _).trans hlarge)]
            exact .inr (.inr rfl)

/-- The number nearest to the largest word is one more than it. -/
theorem ofWord_largest : ofWord (UInt32.ofNat (UInt32.size - 1)) = ⟨0x4f800000⟩ := by
  decide +kernel

/-- A word that survives comes back. -/
theorem toWord_ofWord {n : UInt32} (h : Survives n) : (ofWord n).toWord = n := by
  -- A number of the format is kept, and the largest word is cut down to itself.
  rcases h with ⟨d, hd⟩ | hlargest
  · obtain ⟨hkind, hsign⟩ := kind_of_normal hd
    rw [ofWord, round_of_normal hd, toWord, hkind, hsign]
    simp only [Bool.false_eq_true, if_false, roundHalfUp_of_value hd.value]
    rw [Nat.min_eq_left (Nat.le_sub_one_of_lt n.toNat_lt), UInt32.ofNat_toNat]
  · have hn : n = UInt32.ofNat (UInt32.size - 1) := UInt32.toNat_inj.mp hlargest
    rw [hn, ofWord_largest]
    decide +kernel

theorem isPositive_ofWord {n : UInt32} (h : Survives n) : (ofWord n).isPositive = true := by
  rcases h with ⟨d, hd⟩ | hlargest
  · obtain ⟨hkind, hsign⟩ := kind_of_normal hd
    have hsignificand : d.significand ≠ 0 := (Nat.lt_of_lt_of_le (by decide) hd.low).ne'
    rw [ofWord, round_of_normal hd, isPositive, hkind, hsign]
    simp only [Bool.not_false, Bool.true_and, bne_iff_ne, ne_eq, hsignificand, not_false_eq_true]
  · have hn : n = UInt32.ofNat (UInt32.size - 1) := UInt32.toNat_inj.mp hlargest
    rw [hn, ofWord_largest]
    decide

/-! ## What is lost -/

/-- Less than one half is rounded to zero, and nothing else. -/
theorem roundHalfUp_eq_zero_iff (d : Magnitude) :
    roundHalfUp d = 0 ↔ 2 * d.numerator < d.denominator := by
  have hden : 0 < d.denominator := by rw [d.denominator_eq]; exact Nat.two_pow_pos _
  rw [roundHalfUp, Nat.div_eq_zero_iff]
  omega

/-- With a full significand, a number is less than one half if its unit is small enough. -/
theorem lt_half_iff {d : Magnitude} (hlow : 2 ^ 23 ≤ d.significand)
    (hhigh : d.significand < 2 ^ 24) : 2 * d.numerator < d.denominator ↔ d.exponent ≤ -25 := by
  rw [d.numerator_eq, d.denominator_eq]
  constructor
  · intro hlt
    -- With a larger unit the full significand makes up one half at least.
    by_contra hlarge
    have hden : 2 ^ (-d.exponent).toNat ≤ 2 ^ 24 := Nat.pow_le_pow_right (by decide) (by omega)
    have hnum : d.significand * 1 ≤ d.significand * 2 ^ d.exponent.toNat :=
      Nat.mul_le_mul_left _ (Nat.two_pow_pos _)
    omega
  · intro hsmall
    have hden : 2 ^ 25 ≤ 2 ^ (-d.exponent).toNat := Nat.pow_le_pow_right (by decide) (by omega)
    rw [show d.exponent.toNat = 0 by omega, Nat.pow_zero, Nat.mul_one]
    omega

/-- Among finite numbers, those above zero and below one half are lost. -/
theorem rounds_to_zero_iff_of_finite {x : Binary32} {d : Magnitude} (hkind : x.kind = .finite d)
    (hsign : x.isNegative = false) :
    x.isPositive = true ∧ x.toWord = 0
      ↔ d.significand ≠ 0 ∧ 2 * d.numerator < d.denominator := by
  have hmin : (UInt32.ofNat (min (roundHalfUp d) (UInt32.size - 1))).toNat
      = min (roundHalfUp d) (UInt32.size - 1) := by
    rw [UInt32.toNat_ofNat']
    exact Nat.mod_eq_of_lt ((Nat.min_le_right _ _).trans_lt (by decide))
  have hzero : min (roundHalfUp d) (UInt32.size - 1) = 0 ↔ roundHalfUp d = 0 := by
    rw [show UInt32.size - 1 = 4294967295 from rfl]
    omega
  simp only [isPositive, toWord, hkind, hsign, Bool.not_false, Bool.true_and, bne_iff_ne, ne_eq,
    Bool.false_eq_true, if_false, ← UInt32.toNat_inj, hmin, UInt32.toNat_zero, hzero,
    roundHalfUp_eq_zero_iff]

theorem lt_half_of_least {significand : Nat} (h : significand < 2 ^ 24) :
    2 * (Magnitude.mk significand single.least).numerator
      < (Magnitude.mk significand single.least).denominator := by
  have hnum : (Magnitude.mk significand single.least).numerator = significand := rfl
  have hden : 2 ^ 25 ≤ 2 ^ (-single.least).toNat := Nat.pow_le_pow_right (by decide) (by decide)
  rw [hnum, Magnitude.denominator_eq]
  exact lt_of_lt_of_le (by omega) hden

theorem isPositive_of_isNegative {x : Binary32} (h : x.isNegative = true) :
    x.isPositive = false := by
  rw [isPositive, h]
  cases x.kind <;> rfl

/-- A positive number rounds to zero if it is less than one half, whose bits are
    `0x3f000000`. -/
theorem rounds_to_zero_iff (x : Binary32) :
    x.isPositive = true ∧ x.toWord = 0 ↔ 0 < x.bits ∧ x.bits < 0x3f000000 := by
  have hbits : 0 < x.bits ∧ x.bits < 0x3f000000
      ↔ 0 < x.bits.toNat ∧ x.bits.toNat < 126 * 0x800000 := Iff.rfl
  have hnegative : x.isNegative = true ↔ 0x80000000 ≤ x.bits.toNat := by
    rw [isNegative, decide_eq_true_iff]
    rfl
  rw [hbits]
  cases hsign : x.isNegative with
  | true =>
      have hlarge := hnegative.mp hsign
      rw [isPositive_of_isNegative hsign]
      exact iff_of_false (fun h => Bool.false_ne_true h.1) (by omega)
  | false =>
      have hsmall : x.bits.toNat < 0x80000000 := by
        rw [← Nat.not_le, ← hnegative, hsign]
        exact Bool.false_ne_true
      -- By the exponent field: infinity, no number, the least unit, and all others.
      rcases kind_cases x rfl rfl with ⟨hfield, hkind | hkind⟩ | ⟨hfield, hkind⟩
        | ⟨hpos, hlt, hkind⟩
      · rw [toWord, hkind, hsign]
        exact iff_of_false (fun h => absurd h.2 (by decide)) (by omega)
      · rw [isPositive, hkind]
        exact iff_of_false (fun h => Bool.false_ne_true h.1) (by omega)
      · rw [rounds_to_zero_iff_of_finite hkind hsign, and_iff_left (lt_half_of_least (by omega))]
        show x.bits.toNat % 0x800000 ≠ 0 ↔ _
        omega
      · rw [rounds_to_zero_iff_of_finite hkind hsign,
          lt_half_iff (by simp only; omega) (by simp only; omega)]
        simp only [single]
        omega

end Binary32

end Recode

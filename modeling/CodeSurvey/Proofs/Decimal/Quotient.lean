import CodeSurvey.Proofs.Decimal.Rounding
import Mathlib

set_option autoImplicit false

namespace CodeSurvey.Double

open Float.Model Float.Model.UnpackedFloat

/-! Packing into 64 bits and unpacking. The lemma on the packed sign is in no single module of
Mathlib, only in the whole library. -/

theorem unpack_packComponents (exponent : BitVec 11) (mantissa : BitVec 52) :
    UnpackedFloat.unpack .binary64 (packComponents .binary64 .positive exponent mantissa) =
      if exponent = -1#11 then
        if mantissa = 0#52 then .infinity .positive else .notANumber
      else if exponent = 0#11 then
        if nonzero : mantissa = 0#52 then .zero .positive
        else .finite .positive mantissa.toNat (-1074)
          (Nat.pos_of_ne_zero fun zero => nonzero (BitVec.eq_of_toNat_eq zero))
      else .finite .positive (2 ^ 52 + mantissa.toNat) (exponent.toNat - 1075)
        (Nat.lt_of_lt_of_le (by decide) (Nat.le_add_right _ _)) := by
  have sign : Sign.ofBitVec (unpackSign (packComponents .binary64 .positive exponent mantissa)) =
      .positive := by
    rw [unpackSign_packComponents]
    rfl
  have implicit : (1#1 ++ mantissa).toNat = 2 ^ 52 + mantissa.toNat := by
    rw [BitVec.toNat_append, ← Nat.shiftLeft_add_eq_or_of_lt mantissa.isLt]
    rfl
  have bias : (Format.binary64.exponentBias : Int) + (52 : Nat) = 1075 := rfl
  simp only [UnpackedFloat.unpack, unpackMantissa_packComponents, unpackExponent_packComponents,
    sign, implicit, bias]
  split
  · rfl
  · split
    · next zero =>
        subst zero
        rfl
    · rfl

theorem pack_finite (mantissa : Nat) (exponent : Int) (positive : 0 < mantissa) :
    UnpackedFloat.pack .binary64 (.finite .positive mantissa exponent positive) =
      if 971 < exponent then packedInfinity .binary64 .positive
      else if mantissa.log2 = 52 then
        packComponents .binary64 .positive (BitVec.ofNat 11 (exponent + 1075).toNat)
          (BitVec.ofNat 52 mantissa)
      else packComponents .binary64 .positive 0#11 (BitVec.ofNat 52 mantissa) := by
  have bias : exponent + (Format.binary64.exponentBias : Int) + (52 : Nat) = exponent + 1075 := by
    change exponent + 1023 + 52 = _
    omega
  have overflows : 2 ^ 11 ≤ (exponent + 1075).toNat + 1 ↔ 971 < exponent := by omega
  have full : mantissa.log2 + 1 = Format.binary64.mantissaBits ↔ mantissa.log2 = 52 := by
    change mantissa.log2 + 1 = 53 ↔ _
    omega
  simp only [UnpackedFloat.pack, bias, overflows, full]

theorem unpack_pack (u : UnpackedFloat) : (Float.Model.pack u).unpack =
    UnpackedFloat.unpack .binary64 (UnpackedFloat.pack .binary64 u) := rfl

theorem Normal.unpack_pack {mantissa : Nat} {exponent : Int} (normal : Normal mantissa exponent) :
    (Float.Model.pack (.finite .positive mantissa exponent normal.pos)).unpack =
      if 971 < exponent then .infinity .positive
      else .finite .positive mantissa exponent normal.pos := by
  rw [Double.unpack_pack, pack_finite]
  by_cases large : 971 < exponent
  · rw [if_pos large, if_pos large]
    rfl
  · rw [if_neg large, if_neg large, if_pos normal.log2_eq, unpack_packComponents]
    obtain ⟨lower, upper, least⟩ := normal
    have biased : (BitVec.ofNat 11 (exponent + 1075).toNat).toNat = (exponent + 1075).toNat := by
      rw [BitVec.toNat_ofNat, Nat.mod_eq_of_lt (by omega)]
    have fraction : (BitVec.ofNat 52 mantissa).toNat = mantissa - 2 ^ 52 := by
      rw [BitVec.toNat_ofNat]
      omega
    have notOnes : BitVec.ofNat 11 (exponent + 1075).toNat ≠ -1#11 := by
      intro ones
      have value : (-1#11).toNat = 2047 := rfl
      rw [ones, value] at biased
      omega
    have notZero : BitVec.ofNat 11 (exponent + 1075).toNat ≠ 0#11 := by
      intro zero
      have value : (0#11).toNat = 0 := rfl
      rw [zero, value] at biased
      omega
    rw [if_neg notOnes, if_neg notZero]
    simp only [biased, fraction, UnpackedFloat.finite.injEq, true_and]
    omega

/-- Zero, one, or positive with an exponent that leaves the value below one. -/
def AtMostOne : UnpackedFloat → Prop
  | .zero .positive => True
  | .finite .positive mantissa exponent _ =>
      exponent ≤ -53 ∨ exponent = -52 ∧ mantissa = 2 ^ 52
  | _ => False

theorem unpack_atMostOne {exponent : BitVec 11} (mantissa : BitVec 52)
    (small : exponent.toNat ≤ 1022) :
    AtMostOne (UnpackedFloat.unpack .binary64
      (packComponents .binary64 .positive exponent mantissa)) := by
  have notOnes : exponent ≠ -1#11 := by
    rintro rfl
    exact absurd small (by decide)
  rw [unpack_packComponents, if_neg notOnes]
  split
  · split
    · trivial
    · exact .inl (by decide)
  · refine .inl ?_
    omega

namespace AtMostOne

variable {u : UnpackedFloat}

theorem unpack_pack (small : AtMostOne u) : AtMostOne (Float.Model.pack u).unpack := by
  match u, small with
  | .zero .positive, _ => exact unpack_atMostOne 0#52 (by decide)
  | .finite .positive mantissa exponent positive, .inr ⟨place, full⟩ =>
      subst place full
      have normal : Normal (2 ^ 52) (-52) := ⟨by decide, by decide, by decide⟩
      rw [normal.unpack_pack]
      exact .inr ⟨rfl, rfl⟩
  | .finite .positive mantissa exponent positive, .inl below =>
      rw [Double.unpack_pack, pack_finite, if_neg (by omega)]
      split
      · refine unpack_atMostOne _ ?_
        rw [BitVec.toNat_ofNat]
        omega
      · exact unpack_atMostOne _ (by decide)

theorem zero_le (small : AtMostOne u) : (UnpackedFloat.zero .positive).le u = true := by
  match u, small with
  | .zero .positive, _ => rfl
  | .finite .positive mantissa exponent positive, _ => rfl

theorem le_one (small : AtMostOne u) :
    u.le (.finite .positive (2 ^ 52) (-52) (by decide)) = true := by
  match u, small with
  | .zero .positive, _ => rfl
  | .finite .positive mantissa exponent positive, .inr ⟨place, full⟩ =>
      subst place full
      rfl
  | .finite .positive mantissa exponent positive, .inl below =>
      have ordered : compare exponent (-52) = .lt := Int.compare_eq_lt.2 (by omega)
      simp [UnpackedFloat.le, UnpackedFloat.compare, ordered]

end AtMostOne

/-! Division of numbers of full length. -/

theorem roundWithAccuracy_atMostOne {mantissa : Nat} {exponent : Int} (accuracy : Accuracy)
    (low : exponent ≤ -53) (below : totalExponent mantissa exponent ≤ 0) :
    AtMostOne (roundWithAccuracy .binary64 .positive mantissa exponent accuracy) := by
  obtain ⟨⟨em, place⟩, first⟩ : ∃ first,
    shiftToTargetExponent .binary64 mantissa exponent accuracy = first := ⟨_, rfl⟩
  have placed : place ≤ -53 := by
    have second := congrArg Prod.snd first
    simp only [shiftToTargetExponent, shiftToExponent, targetExponent_eq] at second
    omega
  rw [roundWithAccuracy_eq .positive first]
  split
  · split
    · rcases Int.lt_or_eq_of_le placed with lower | same
      · refine .inl ?_
        omega
      · refine .inr ⟨?_, rfl⟩
        omega
    · exact .inl placed
  · trivial

theorem divCore_eq {a b : Nat} {d e : Int} {shift : Nat} (bitsA : a.log2 = 52)
    (bitsB : b.log2 = 52) (shifted : d - e - shift = max (d - e - 53) (-1074)) :
    divCore .binary64 a d b e =
      (a <<< shift / b, d - e - shift, accuracyOfFraction (a <<< shift % b) b) := by
  have target : min (d - e) (Format.binary64.targetExponent
      (totalExponent a d - totalExponent b e)) = d - e - shift := by
    rw [targetExponent_eq, totalExponent, totalExponent, bitsA, bitsB]
    omega
  have amount : (d - e - (d - e - shift)).toNat = shift := by omega
  simp only [divCore, target, amount]

theorem Normal.div_atMostOne {a b : Nat} {d e : Int} (left : Normal a d) (right : Normal b e)
    (near : e - d ≤ 1023) (le : d < e ∨ d = e ∧ a ≤ b) :
    AtMostOne (UnpackedFloat.div .binary64 (.finite .positive a d left.pos)
      (.finite .positive b e right.pos)) := by
  obtain ⟨gap, apart⟩ : ∃ gap : Nat, e - d = gap := ⟨(e - d).toNat, by omega⟩
  obtain ⟨shift, shifted⟩ : ∃ shift : Nat, d - e - shift = max (d - e - 53) (-1074) :=
    ⟨(d - e - max (d - e - 53) (-1074)).toNat, by omega⟩
  simp only [UnpackedFloat.div, divCore_eq left.log2_eq right.log2_eq shifted]
  change AtMostOne (roundWithAccuracy .binary64 .positive _ _ _)
  by_cases same : d = e ∧ a = b
  · -- Equal numbers leave no remainder, and their quotient is rounded to exactly one.
    obtain ⟨rfl, rfl⟩ := same
    obtain rfl : shift = 53 := by omega
    have whole : a <<< 53 / a = 2 ^ 53 := by
      rw [Nat.shiftLeft_eq, Nat.mul_div_cancel_left _ left.pos]
    have rest : a <<< 53 % a = 0 := by
      rw [Nat.shiftLeft_eq, Nat.mul_mod_right]
    have one : roundWithAccuracy .binary64 .positive (2 ^ 53) (0 - (53 : Nat)) .exact =
        .finite .positive (2 ^ 52) (-52) (by decide) := rfl
    rw [whole, rest, Int.sub_self, accuracyOfFraction, if_pos rfl, one]
    exact .inr ⟨rfl, rfl⟩
  · -- Otherwise the whole part of the quotient has no digit at the place of one.
    obtain ⟨lower, _, _⟩ := right
    obtain ⟨_, upper, _⟩ := left
    have less : a < b * 2 ^ gap := by
      rcases Nat.eq_zero_or_pos gap with rfl | positive
      · omega
      · have two : 2 ^ 1 ≤ 2 ^ gap := Nat.pow_le_pow_right (by decide) positive
        calc a < 2 ^ 52 * 2 ^ 1 := upper
          _ ≤ b * 2 ^ gap := Nat.mul_le_mul lower two
    have quotient : a <<< shift / b < 2 ^ (gap + shift) := by
      refine Nat.div_lt_of_lt_mul ?_
      rw [Nat.shiftLeft_eq, Nat.pow_add, ← Nat.mul_assoc]
      exact Nat.mul_lt_mul_of_pos_right less (Nat.two_pow_pos shift)
    have bits : (a <<< shift / b).log2 < gap + shift := by
      rcases Nat.eq_zero_or_pos (a <<< shift / b) with zero | positive
      · rw [zero, Nat.log2_zero]
        omega
      · exact (Nat.log2_lt (Nat.ne_of_gt positive)).2 quotient
    refine roundWithAccuracy_atMostOne _ (by omega) ?_
    unfold totalExponent
    omega

/-! Natural numbers as doubles. -/

theorem Normal.mul_one {mantissa : Nat} {exponent : Int} (normal : Normal mantissa exponent) :
    UnpackedFloat.mul .binary64 (.finite .positive mantissa exponent normal.pos)
        (.finite .positive (2 ^ 52) (-52) (by decide)) =
      .finite .positive mantissa exponent normal.pos := by
  change roundWithAccuracy .binary64 .positive (mantissa * 2 ^ 52) (exponent - (52 : Nat)) .exact = _
  rw [← Nat.shiftLeft_eq, roundWithAccuracy_shiftLeft _ normal.pos normal.full,
    normal.roundWithAccuracy_eq]

theorem ofNat_eq_rounded {n : Nat} (positive : 0 < n) (short : n < 2 ^ 53) :
    UnpackedFloat.ofNat .binary64 n = rounded n := by
  have bits : n.log2 < 53 := (Nat.log2_lt (Nat.ne_of_gt positive)).2 short
  obtain ⟨left, length⟩ : ∃ left, left + n.log2 = 52 := ⟨52 - n.log2, by omega⟩
  have sign : compare (n : Int) 0 = .gt := Int.compare_eq_gt.2 (by omega)
  have target : Format.binary64.targetExponent (totalExponent n 0) = -(left : Int) := by
    rw [targetExponent_eq, totalExponent]
    omega
  have amount : (0 - -(left : Int)).toNat = left := by omega
  have opened : UnpackedFloat.ofNat .binary64 n =
      roundWithAccuracy .binary64 .positive (n <<< left) (0 - left) .exact := by
    simp only [UnpackedFloat.ofNat, UnpackedFloat.ofInt, UnpackedFloat.normalize, sign,
      Int.toNat_natCast, UnpackedFloat.round, decreaseExponent, target, amount]
  have full : 0 - (left : Int) ≤
      Format.binary64.targetExponent (totalExponent (n <<< left) (0 - left)) := by
    rw [targetExponent_eq, totalExponent, log2_shiftLeft positive]
    omega
  have mantissas : left + (53 - left) = 53 := by omega
  have exponents : 0 - (left : Int) - (53 - left : Nat) = -53 := by omega
  rw [opened, rounded, ← roundWithAccuracy_shiftLeft _ (shiftLeft_pos positive left) full (53 - left),
    ← Nat.shiftLeft_add, mantissas, exponents]

theorem unpack_pack_rounded {n : Nat} (positive : 0 < n) :
    (Float.Model.pack (rounded n)).unpack =
      if 971 < (scaled n).2 then .infinity .positive else rounded n := by
  rw [rounded_eq positive, (scaled_normal positive).unpack_pack]

theorem unpack_zero : (0 : Float).toModel.unpack = .zero .positive := rfl

theorem unpack_one :
    (1 : Float).toModel.unpack = .finite .positive (2 ^ 52) (-52) (by decide) := rfl

theorem toModel_ofNat {n : Nat} (positive : 0 < n) :
    (Float.ofNat n).toModel = Float.Model.pack (rounded n) := by
  rw [Float.ofNat]
  change (Float.ofScientific n false 0).toModel = _
  by_cases short : n < 2 ^ 53
  · -- A short number is converted as a word and multiplied by one.
    have bits : n.log2 < 53 := (Nat.log2_lt (Nat.ne_of_gt positive)).2 short
    have place := scaled_place n
    have whole : n.toUInt64.toNat = n := by
      rw [Nat.toUInt64, UInt64.toNat_ofNat']
      exact Nat.mod_eq_of_lt (by omega)
    have one : (Float.ofBits 0x3FF0000000000000).toModel.unpack =
        .finite .positive (2 ^ 52) (-52) (by decide) := rfl
    rw [Float.ofScientific, dif_pos ⟨short, by decide⟩]
    change Float.Model.pack (UnpackedFloat.mul .binary64
      (Float.Model.pack (UnpackedFloat.ofNat .binary64 n.toUInt64.toNat)).unpack
      (Float.ofBits 0x3FF0000000000000).toModel.unpack) = _
    rw [whole, ofNat_eq_rounded positive short, unpack_pack_rounded positive, if_neg (by omega), one,
      rounded_eq positive, (scaled_normal positive).mul_one]
  · have safe : ¬ (0 : Int) < -((2 ^ Format.binary64.exponentBits : Int) + n.log2) := by
      change ¬ (0 : Int) < -(2048 + (n.log2 : Int))
      omega
    rw [Float.ofScientific, dif_neg (by omega)]
    change Float.Model.pack (UnpackedFloat.ofScientific .binary64 n 0) = _
    rw [UnpackedFloat.ofScientific, dif_neg (Nat.ne_of_gt positive), if_neg (by decide),
      if_neg safe, if_pos (by decide)]
    change Float.Model.pack (roundWithAccuracy .binary64 .positive (n <<< 53 * 1) (-53) .exact) = _
    rw [Nat.mul_one, rounded]

theorem unpack_ofNat {n : Nat} (positive : 0 < n) :
    (Float.ofNat n).toModel.unpack =
      if 971 < (scaled n).2 then .infinity .positive else rounded n := by
  rw [toModel_ofNat positive, unpack_pack_rounded positive]

theorem div_ofNat_cases {a b : Nat} (le : a ≤ b) (positive : 0 < b) :
    UnpackedFloat.div .binary64 (Float.ofNat a).toModel.unpack (Float.ofNat b).toModel.unpack =
        .notANumber ∨
      AtMostOne (UnpackedFloat.div .binary64 (Float.ofNat a).toModel.unpack
        (Float.ofNat b).toModel.unpack) := by
  rw [unpack_ofNat positive]
  rcases Nat.eq_zero_or_pos a with rfl | some
  · right
    have zero : (Float.ofNat 0).toModel.unpack = .zero .positive := unpack_zero
    rw [zero]
    split
    · trivial
    · rw [rounded_eq positive]
      trivial
  · have placeA := scaled_place a
    have ordered := scaled_mono some le
    rw [unpack_ofNat some]
    by_cases large : 971 < (scaled b).2
    · rw [if_pos large]
      split
      · exact .inl rfl
      · rw [rounded_eq some]
        exact .inr trivial
    · rw [if_neg large, if_neg (by omega), rounded_eq some, rounded_eq positive]
      exact .inr ((scaled_normal some).div_atMostOne (scaled_normal positive) (by omega) ordered)

theorem unpack_div (x y : Float) : (x / y).toModel.unpack =
    (Float.Model.pack (UnpackedFloat.div .binary64 x.toModel.unpack y.toModel.unpack)).unpack := rfl

theorem lt_iff (x y : Float) : x < y ↔ x.toModel.unpack.lt y.toModel.unpack = true :=
  decide_eq_true_iff

theorem le_iff (x y : Float) : x ≤ y ↔ x.toModel.unpack.le y.toModel.unpack = true :=
  decide_eq_true_iff

/-- A share that exceeds anything is between zero and one: what exceeds something is a number. -/
theorem div_ofNat_in_unit {a b : Nat} (le : a ≤ b) (positive : 0 < b) {bound : Float}
    (above : bound < Float.ofNat a / Float.ofNat b) :
    0 ≤ Float.ofNat a / Float.ofNat b ∧ Float.ofNat a / Float.ofNat b ≤ 1 := by
  rw [lt_iff, unpack_div] at above
  rw [le_iff, le_iff, unpack_zero, unpack_one, unpack_div]
  rcases div_ofNat_cases le positive with nan | small
  · have packed : (Float.Model.pack .notANumber).unpack = .notANumber := rfl
    have never : bound.toModel.unpack.lt .notANumber = false := by
      cases bound.toModel.unpack <;> rfl
    rw [nan, packed] at above
    exact absurd (never.symm.trans above) (by decide)
  · exact ⟨small.unpack_pack.zero_le, small.unpack_pack.le_one⟩

end CodeSurvey.Double

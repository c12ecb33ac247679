import Mathlib.Algebra.GroupWithZero.Nat

/-!
Rounding to doubles. A mantissa with a round bit and a sticky bit has a rank, and both a shift to the
right and rounding keep the order of ranks; so the double nearest to a natural number grows with the
number.
-/

set_option autoImplicit false

namespace CodeSurvey.Double

open Float.Model Float.Model.UnpackedFloat

theorem targetExponent_eq (total : Int) :
    Format.binary64.targetExponent total = max (total - 53) (-1074) := rfl

/-- The place of an extended mantissa among all: the bits behind the mantissa come last. -/
def rank (em : ExtendedMantissa) : Nat :=
  4 * em.mantissa + 2 * em.roundBit.toNat + em.stickyBit.toNat

theorem rank_shiftRightOne (em : ExtendedMantissa) :
    rank em.shiftRightOne = 2 * em.mantissa + (em.roundBit || em.stickyBit).toNat := by
  rcases em with ⟨mantissa, round, sticky⟩
  rcases Nat.mod_two_eq_zero_or_one mantissa with even | odd
  · simp only [rank, ExtendedMantissa.shiftRightOne, even, bne_self_eq_false, Bool.toNat_false]
    omega
  · simp only [rank, ExtendedMantissa.shiftRightOne, odd, Nat.reduceBneDiff, Bool.toNat_true]
    omega

theorem rank_shiftRightOne_mono {em other : ExtendedMantissa} (le : rank em ≤ rank other) :
    rank em.shiftRightOne ≤ rank other.shiftRightOne := by
  rw [rank_shiftRightOne, rank_shiftRightOne]
  rcases em with ⟨mantissa, round, sticky⟩
  rcases other with ⟨mantissa', round', sticky'⟩
  cases round <;> cases sticky <;> cases round' <;> cases sticky' <;>
    simp only [rank, Bool.or_true, Bool.or_false, Bool.toNat_true, Bool.toNat_false] at le ⊢ <;>
    omega

theorem roundedMantissa_mono {em other : ExtendedMantissa} (le : rank em ≤ rank other) :
    em.roundedMantissa ≤ other.roundedMantissa := by
  rcases em with ⟨mantissa, round, sticky⟩
  rcases other with ⟨mantissa', round', sticky'⟩
  cases round <;> cases sticky <;> cases round' <;> cases sticky' <;>
    simp only [rank, ExtendedMantissa.roundedMantissa, ExtendedMantissa.accuracy,
      Accuracy.roundToNearestEven, Bool.toNat_true, Bool.toNat_false] at le ⊢ <;>
    omega

theorem roundedMantissa_bounds (em : ExtendedMantissa) :
    em.mantissa ≤ em.roundedMantissa ∧ em.roundedMantissa ≤ em.mantissa + 1 := by
  rcases em with ⟨mantissa, round, sticky⟩
  cases round <;> cases sticky <;>
    simp only [ExtendedMantissa.roundedMantissa, ExtendedMantissa.accuracy,
      Accuracy.roundToNearestEven] <;>
    omega

theorem shiftRight_succ (em : ExtendedMantissa) (count : Nat) :
    em >>> (count + 1) = (em >>> count).shiftRightOne := rfl

theorem shiftRight_succ' (em : ExtendedMantissa) (count : Nat) :
    em >>> (count + 1) = em.shiftRightOne >>> count := by
  induction count with
  | zero => rfl
  | succ count ih => rw [shiftRight_succ, ih, shiftRight_succ]

theorem rank_shiftRight_mono {em other : ExtendedMantissa} (le : rank em ≤ rank other)
    (count : Nat) : rank (em >>> count) ≤ rank (other >>> count) := by
  induction count with
  | zero => exact le
  | succ count ih =>
      rw [shiftRight_succ, shiftRight_succ]
      exact rank_shiftRightOne_mono ih

theorem shiftRight_mantissa (em : ExtendedMantissa) (count : Nat) :
    (em >>> count).mantissa = em.mantissa / 2 ^ count := by
  induction count with
  | zero => exact (Nat.div_one _).symm
  | succ count ih =>
      rw [shiftRight_succ, Nat.pow_succ, ← Nat.div_div_eq_div_mul, ← ih]
      rfl

/-- Bits that were added on the right are shifted out again without a trace. -/
theorem shiftRight_of_shiftLeft (mantissa left right : Nat) :
    ExtendedMantissa.ofMantissaAndAccuracy (mantissa <<< left) .exact >>> (left + right) =
      ExtendedMantissa.ofMantissaAndAccuracy mantissa .exact >>> right := by
  induction left with
  | zero => simp
  | succ left ih =>
      have halved : (ExtendedMantissa.ofMantissaAndAccuracy (mantissa <<< (left + 1))
          .exact).shiftRightOne =
          ExtendedMantissa.ofMantissaAndAccuracy (mantissa <<< left) .exact := by
        simp [ExtendedMantissa.ofMantissaAndAccuracy, ExtendedMantissa.shiftRightOne,
          Nat.shiftLeft_succ]
      rw [Nat.add_right_comm, shiftRight_succ', halved, ih]

theorem shiftLeft_pos {mantissa : Nat} (positive : 0 < mantissa) (count : Nat) :
    0 < mantissa <<< count := by
  rw [Nat.shiftLeft_eq]
  exact Nat.mul_pos positive (Nat.two_pow_pos count)

theorem log2_shiftLeft {mantissa : Nat} (positive : 0 < mantissa) (count : Nat) :
    (mantissa <<< count).log2 = mantissa.log2 + count := by
  induction count with
  | zero => rfl
  | succ count ih =>
      have nonzero := Nat.ne_of_gt (shiftLeft_pos positive count)
      rw [Nat.shiftLeft_succ, Nat.log2_two_mul nonzero, ih, Nat.add_assoc]

/-! What rounding gives: the rounded mantissa at the place it was shifted to, one place further where
the carry makes it too long. -/

theorem shiftToTargetExponent_of_lt {mantissa : Nat} {exponent : Int}
    (short : mantissa < 2 ^ 53) (least : -1074 ≤ exponent) :
    shiftToTargetExponent .binary64 mantissa exponent .exact =
      (⟨mantissa, false, false⟩, exponent) := by
  have bits : mantissa.log2 < 53 := by
    rcases Nat.eq_zero_or_pos mantissa with rfl | positive
    · decide
    · exact (Nat.log2_lt (Nat.ne_of_gt positive)).2 short
  have stays : (max (totalExponent mantissa exponent - 53) (-1074) - exponent).toNat = 0 := by
    unfold totalExponent
    omega
  simp only [shiftToTargetExponent, shiftToExponent, targetExponent_eq, stays]
  exact Prod.ext rfl (Int.add_zero exponent)

theorem shiftToTargetExponent_carry {exponent : Int} (least : -1074 ≤ exponent) :
    shiftToTargetExponent .binary64 (2 ^ 53) exponent .exact =
      (⟨2 ^ 52, false, false⟩, exponent + 1) := by
  have moves : (max (totalExponent (2 ^ 53) exponent - 53) (-1074) - exponent).toNat = 1 := by
    rw [totalExponent, Nat.log2_two_pow]
    omega
  simp only [shiftToTargetExponent, shiftToExponent, targetExponent_eq, moves]
  rfl

theorem shiftToTargetExponent_bounds {mantissa : Nat} {exponent : Int} {accuracy : Accuracy}
    {em : ExtendedMantissa} {place : Int}
    (first : shiftToTargetExponent .binary64 mantissa exponent accuracy = (em, place)) :
    em.mantissa < 2 ^ 53 ∧ -1074 ≤ place := by
  simp only [shiftToTargetExponent, shiftToExponent, targetExponent_eq, Prod.mk.injEq] at first
  obtain ⟨rfl, rfl⟩ := first
  have kept : (ExtendedMantissa.ofMantissaAndAccuracy mantissa accuracy).mantissa = mantissa := by
    rcases accuracy with _ | (_ | _ | _) <;> rfl
  have shifted : mantissa.log2 + 1 ≤
      (max (totalExponent mantissa exponent - 53) (-1074) - exponent).toNat + 53 := by
    unfold totalExponent
    omega
  rw [shiftRight_mantissa, kept]
  refine ⟨Nat.div_lt_of_lt_mul ?_, by omega⟩
  rw [← Nat.pow_add]
  exact Nat.lt_of_lt_of_le Nat.lt_log2_self (Nat.pow_le_pow_right (by decide) shifted)

theorem roundWithAccuracy_of_shifts (sign : Sign) {mantissa : Nat} {exponent : Int}
    {accuracy : Accuracy} {em last : ExtendedMantissa} {place behind : Int}
    (first : shiftToTargetExponent .binary64 mantissa exponent accuracy = (em, place))
    (second : shiftToTargetExponent .binary64 em.roundedMantissa place .exact = (last, behind)) :
    roundWithAccuracy .binary64 sign mantissa exponent accuracy =
      if zero : last.mantissa = 0 then .zero sign
      else .finite sign last.mantissa behind (Nat.pos_of_ne_zero zero) := by
  rw [roundWithAccuracy, first]
  dsimp only
  rw [second]

theorem roundWithAccuracy_eq (sign : Sign) {mantissa : Nat} {exponent : Int} {accuracy : Accuracy}
    {em : ExtendedMantissa} {place : Int}
    (first : shiftToTargetExponent .binary64 mantissa exponent accuracy = (em, place)) :
    roundWithAccuracy .binary64 sign mantissa exponent accuracy =
      if positive : 0 < em.roundedMantissa then
        if em.roundedMantissa = 2 ^ 53 then .finite sign (2 ^ 52) (place + 1) (by decide)
        else .finite sign em.roundedMantissa place positive
      else .zero sign := by
  obtain ⟨short, least⟩ := shiftToTargetExponent_bounds first
  have upper := (roundedMantissa_bounds em).2
  by_cases carry : em.roundedMantissa = 2 ^ 53
  · have second := shiftToTargetExponent_carry least
    rw [← carry] at second
    rw [roundWithAccuracy_of_shifts sign first second, dif_neg (by decide), dif_pos (by omega),
      if_pos carry]
  · have below : em.roundedMantissa < 2 ^ 53 := by omega
    rw [roundWithAccuracy_of_shifts sign first (shiftToTargetExponent_of_lt below least)]
    by_cases zero : em.roundedMantissa = 0
    · rw [dif_pos zero, dif_neg (by omega)]
    · rw [dif_neg zero, dif_pos (Nat.pos_of_ne_zero zero), if_neg carry]

/-- Rounding does not see how a number is split into mantissa and exponent. -/
theorem roundWithAccuracy_shiftLeft (sign : Sign) {mantissa : Nat} (positive : 0 < mantissa)
    {exponent : Int}
    (full : exponent ≤ Format.binary64.targetExponent (totalExponent mantissa exponent))
    (count : Nat) :
    roundWithAccuracy .binary64 sign (mantissa <<< count) (exponent - count) .exact =
      roundWithAccuracy .binary64 sign mantissa exponent .exact := by
  have total : totalExponent (mantissa <<< count) (exponent - count) =
      totalExponent mantissa exponent := by
    rw [totalExponent, totalExponent, log2_shiftLeft positive]
    omega
  have same : shiftToTargetExponent .binary64 (mantissa <<< count) (exponent - count) .exact =
      shiftToTargetExponent .binary64 mantissa exponent .exact := by
    simp only [shiftToTargetExponent, shiftToExponent, total]
    generalize Format.binary64.targetExponent (totalExponent mantissa exponent) = target at full
    have amount : (target - (exponent - count)).toNat = count + (target - exponent).toNat := by
      omega
    rw [amount, shiftRight_of_shiftLeft]
    refine Prod.ext rfl ?_
    simp only
    omega
  rw [roundWithAccuracy, roundWithAccuracy, same]

/-- A mantissa of full length and an exponent that doubles reach from below. -/
structure Normal (mantissa : Nat) (exponent : Int) : Prop where
  lower : 2 ^ 52 ≤ mantissa
  upper : mantissa < 2 ^ 53
  least : -1074 ≤ exponent

namespace Normal

variable {mantissa : Nat} {exponent : Int}

theorem pos (normal : Normal mantissa exponent) : 0 < mantissa :=
  Nat.lt_of_lt_of_le (by decide) normal.lower

theorem log2_eq (normal : Normal mantissa exponent) : mantissa.log2 = 52 :=
  (Nat.log2_eq_iff (Nat.ne_of_gt normal.pos)).2 ⟨normal.lower, normal.upper⟩

theorem full (normal : Normal mantissa exponent) :
    exponent ≤ Format.binary64.targetExponent (totalExponent mantissa exponent) := by
  rw [targetExponent_eq, totalExponent, normal.log2_eq]
  omega

theorem roundWithAccuracy_eq (normal : Normal mantissa exponent) (sign : Sign) :
    roundWithAccuracy .binary64 sign mantissa exponent .exact =
      .finite sign mantissa exponent normal.pos := by
  have first := shiftToTargetExponent_of_lt normal.upper normal.least
  have rounds : (⟨mantissa, false, false⟩ : ExtendedMantissa).roundedMantissa = mantissa := rfl
  rw [Double.roundWithAccuracy_eq sign first, dif_pos (rounds.symm ▸ normal.pos),
    if_neg (rounds.symm ▸ Nat.ne_of_lt normal.upper)]
  rfl

end Normal

/-! The double nearest to a natural number. -/

/-- The first fifty-three binary digits of a number, with the bits behind them. -/
def extended (n : Nat) : ExtendedMantissa :=
  ExtendedMantissa.ofMantissaAndAccuracy (n <<< 53) .exact >>> (n.log2 + 1)

/-- Mantissa and exponent of the double nearest to a number. -/
def scaled (n : Nat) : Nat × Int :=
  if (extended n).roundedMantissa = 2 ^ 53 then (2 ^ 52, n.log2 - 51)
  else ((extended n).roundedMantissa, n.log2 - 52)

theorem le_extended {n : Nat} (positive : 0 < n) : 2 ^ 52 ≤ (extended n).mantissa := by
  rw [extended, shiftRight_mantissa]
  refine (Nat.le_div_iff_mul_le (Nat.two_pow_pos _)).2 ?_
  change 2 ^ 52 * 2 ^ (n.log2 + 1) ≤ n <<< 53
  calc 2 ^ 52 * 2 ^ (n.log2 + 1) = 2 ^ n.log2 * 2 ^ 53 := by
        rw [← Nat.pow_add, ← Nat.pow_add, Nat.add_comm n.log2 1, ← Nat.add_assoc, Nat.add_comm]
    _ ≤ n * 2 ^ 53 := Nat.mul_le_mul_right _ (Nat.log2_self_le (Nat.ne_of_gt positive))
    _ = n <<< 53 := (Nat.shiftLeft_eq n 53).symm

theorem extended_lt (n : Nat) : (extended n).mantissa < 2 ^ 53 := by
  rw [extended, shiftRight_mantissa]
  refine Nat.div_lt_of_lt_mul ?_
  change n <<< 53 < 2 ^ (n.log2 + 1) * 2 ^ 53
  rw [Nat.shiftLeft_eq]
  exact Nat.mul_lt_mul_of_pos_right Nat.lt_log2_self (Nat.two_pow_pos 53)

theorem scaled_place (n : Nat) : (n.log2 : Int) - 52 ≤ (scaled n).2 ∧ (scaled n).2 ≤ n.log2 - 51 := by
  unfold scaled
  split <;> dsimp only <;> omega

theorem scaled_normal {n : Nat} (positive : 0 < n) : Normal (scaled n).1 (scaled n).2 := by
  have lower := le_extended positive
  have upper := extended_lt n
  have bounds := roundedMantissa_bounds (extended n)
  have place := scaled_place n
  refine ⟨?_, ?_, by omega⟩ <;> unfold scaled <;> split <;> dsimp only <;> omega

/-- A larger number has no smaller double. -/
theorem scaled_mono {a b : Nat} (positive : 0 < a) (le : a ≤ b) :
    (scaled a).2 < (scaled b).2 ∨ (scaled a).2 = (scaled b).2 ∧ (scaled a).1 ≤ (scaled b).1 := by
  have some : 0 < b := Nat.lt_of_lt_of_le positive le
  have boundsA := roundedMantissa_bounds (extended a)
  have boundsB := roundedMantissa_bounds (extended b)
  have lowerB := le_extended some
  have upperB := extended_lt b
  have lengths : a.log2 ≤ b.log2 :=
    (Nat.le_log2 (Nat.ne_of_gt some)).2 (Nat.le_trans (Nat.log2_self_le (Nat.ne_of_gt positive)) le)
  rcases Nat.lt_or_eq_of_le lengths with shorter | same
  · -- With one digit less, even the carry only reaches the first number of the next length.
    unfold scaled
    split <;> split <;> dsimp only <;> omega
  · have rounded : (extended a).roundedMantissa ≤ (extended b).roundedMantissa := by
      refine roundedMantissa_mono ?_
      unfold extended
      rw [same]
      refine rank_shiftRight_mono ?_ _
      simp only [rank, ExtendedMantissa.ofMantissaAndAccuracy, Nat.shiftLeft_eq]
      omega
    unfold scaled
    split <;> split <;> dsimp only <;> omega

theorem finite_congr {sign : Sign} {mantissa other : Nat} {exponent place : Int}
    {positive : 0 < mantissa} {positive' : 0 < other} (mantissas : mantissa = other)
    (exponents : exponent = place) :
    UnpackedFloat.finite sign mantissa exponent positive = .finite sign other place positive' := by
  subst mantissas exponents
  rfl

/-- The double nearest to a number, before it is packed. -/
def rounded (n : Nat) : UnpackedFloat :=
  roundWithAccuracy .binary64 .positive (n <<< 53) (-53) .exact

theorem rounded_eq {n : Nat} (positive : 0 < n) :
    rounded n = .finite .positive (scaled n).1 (scaled n).2 (scaled_normal positive).pos := by
  have first : shiftToTargetExponent .binary64 (n <<< 53) (-53) .exact =
      (extended n, (n.log2 : Int) - 52) := by
    have amount : (max (totalExponent (n <<< 53) (-53) - 53) (-1074) - (-53)).toNat =
        n.log2 + 1 := by
      rw [totalExponent, log2_shiftLeft positive]
      omega
    simp only [shiftToTargetExponent, shiftToExponent, targetExponent_eq, amount]
    refine Prod.ext rfl ?_
    simp only
    omega
  have lower := le_extended positive
  have bounds := roundedMantissa_bounds (extended n)
  have rounds : 0 < (extended n).roundedMantissa := by omega
  rw [rounded, roundWithAccuracy_eq .positive first, dif_pos rounds]
  by_cases carry : (extended n).roundedMantissa = 2 ^ 53
  · have carried : scaled n = (2 ^ 52, (n.log2 : Int) - 51) := if_pos carry
    rw [if_pos carry]
    apply finite_congr
    · rw [carried]
    · rw [carried]
      omega
  · have kept : scaled n = ((extended n).roundedMantissa, (n.log2 : Int) - 52) := if_neg carry
    rw [if_neg carry]
    apply finite_congr
    · rw [kept]
    · rw [kept]

end CodeSurvey.Double

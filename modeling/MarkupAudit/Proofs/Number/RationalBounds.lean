import MarkupAudit.Proofs.Number.FloatLiteral

namespace MarkupAudit.Number

open Binary64 (one limit)

theorem signed_mul (negative : Bool) (n m : Nat) :
    signed negative (n * m) = signed negative n * m := by
  cases negative <;> simp [signed]

namespace Decimal

/-- The place of the double nearest to a decimal among all doubles. -/
def rank (x : Decimal) : Int :=
  signed x.negative (min limit (roundUnits (x.numerator * one) x.denominator))

/-- The decimal with the other sign. -/
def neg (x : Decimal) : Decimal :=
  { x with negative := !x.negative }

/-- The doubles are symmetric about zero. -/
theorem rank_neg (x : Decimal) : x.neg.rank = -x.rank :=
  Binary64.signed_not x.negative _

theorem toRat_neg (x : Decimal) : x.neg.toRat = -x.toRat := by
  simp only [toRat, neg, Binary64.signed_not, Int.cast_neg, neg_mul]

/-- The exact value as a quotient of whole numbers. -/
theorem toRat_mul_denominator (x : Decimal) :
    x.toRat * x.denominator = signed x.negative x.numerator := by
  have hpower : (10 : ℚ) ^ x.exponent * 10 ^ (-x.exponent).toNat = 10 ^ x.exponent.toNat := by
    rw [← zpow_natCast, ← zpow_natCast, ← zpow_add₀ (by norm_num)]
    congr 1
    omega
  rw [numerator, signed_mul, toRat, denominator]
  push_cast
  rw [mul_assoc, hpower]

/-- The value counted in units, compared over the denominator. -/
theorem signed_numerator_le_iff (x : Decimal) (k : Int) :
    signed x.negative (x.numerator * one) ≤ k * x.denominator ↔ x.toRat * one ≤ k := by
  have hpos : (0 : ℚ) < x.denominator := by exact_mod_cast x.denominator_pos
  have hunits : (signed x.negative (x.numerator * one) : ℚ) = x.toRat * one * x.denominator := by
    rw [signed_mul, Int.cast_mul, ← toRat_mul_denominator, Int.cast_natCast]
    ring
  rw [← Int.cast_le (R := ℚ), hunits]
  push_cast
  exact mul_le_mul_iff_of_pos_right hpos

/-- A value that is at most a double is rounded to at most that double. -/
theorem rank_le (x : Decimal) {k : Int} (hk : IsHoldable k.natAbs) (hlimit : k.natAbs ≤ limit)
    (hle : x.toRat * one ≤ k) : x.rank ≤ k := by
  have hcross := (x.signed_numerator_le_iff k).mpr hle
  have hpos := x.denominator_pos
  rw [rank]
  cases hnegative : x.negative with
  | false =>
    simp only [hnegative, signed, Bool.false_eq_true, if_false] at hcross ⊢
    have hk0 : 0 ≤ k := by
      refine nonneg_of_mul_nonneg_left ?_ (Int.natCast_pos.mpr hpos)
      exact (Int.natCast_nonneg _).trans hcross
    lift k to Nat using hk0
    have hround := roundUnits_le hk hpos (by exact_mod_cast hcross)
    rw [Int.natAbs_natCast] at hround
    omega
  | true =>
    simp only [hnegative, signed, if_true] at hcross ⊢
    -- A bound that is not negative is kept by the sign alone; below zero the magnitudes compare the
    -- other way round.
    by_cases hk0 : 0 ≤ k
    · omega
    · have habs : k = -(k.natAbs : Int) := by omega
      have hunits : k.natAbs * x.denominator ≤ x.numerator * one := by
        rw [habs, Int.neg_mul, ← Int.natCast_mul] at hcross
        exact_mod_cast Int.neg_le_neg_iff.mp hcross
      have hround := le_roundUnits hk hpos hunits
      omega

/-- A value that is at least a double is rounded to at least that double. -/
theorem le_rank (x : Decimal) {k : Int} (hk : IsHoldable k.natAbs) (hlimit : k.natAbs ≤ limit)
    (hle : k ≤ x.toRat * one) : k ≤ x.rank := by
  have hneg : x.neg.rank ≤ -k := by
    refine x.neg.rank_le (by rwa [Int.natAbs_neg]) (by rwa [Int.natAbs_neg]) ?_
    rw [toRat_neg]
    push_cast
    linarith
  rw [rank_neg] at hneg
  omega

end Decimal

section

variable {s : String} {q : ℚ} {max : Nat}

/-- Bounds are judged on the double nearest to the value. -/
theorem textInRange_iff_rank {x : Decimal} (hx : Decimal.ofText? s = some x)
    (hmax : max < 2 ^ 53) :
    textInRange s 0 max = true ↔ 0 ≤ x.rank ∧ x.rank ≤ max * one := by
  have hrank : (Binary64.ofDecimal x).rank? = some x.rank := Binary64.rank?_ofDecimal x
  have hzero := rank?_ofNat (k := 0) (by decide)
  rw [Nat.cast_zero, Int.zero_mul] at hzero
  simp only [textInRange, inRange, Numeric.value?, hx, Option.map_some, Binary64.le, hzero,
    rank?_ofNat hmax, hrank, Bool.and_eq_true, decide_eq_true_eq]

/-- Only float literals are within bounds. -/
theorem exists_writesFloat_of_textInRange {min : Nat} (hin : textInRange s min max = true) :
    ∃ q, WritesFloat s.toList q := by
  rw [← isFloat_iff]
  by_contra hfloat
  rw [Bool.not_eq_true] at hfloat
  simp [textInRange, inRange, Numeric.value?, Decimal.ofText?, hfloat] at hin

/-- A value within the bounds is never turned away. -/
theorem textInRange_of_le (hwrites : WritesFloat s.toList q) (hmax : max < 2 ^ 53) (hq : 0 ≤ q)
    (hle : q ≤ max) : textInRange s 0 max = true := by
  obtain ⟨x, hx, rfl⟩ := hwrites.exists_ofText?
  rw [textInRange_iff_rank hx hmax]
  have hone : (0 : ℚ) ≤ one := Nat.cast_nonneg one
  constructor
  · refine x.le_rank ⟨0, 0, by decide, rfl⟩ (Nat.zero_le _) ?_
    rw [Int.cast_zero]
    exact mul_nonneg hq hone
  · have hbound := Binary64.isHoldable_mul_one hmax
    have hlimit := (Binary64.mul_one_lt_limit hmax).le
    rw [← Int.natCast_mul]
    refine x.rank_le hbound hlimit ?_
    push_cast
    exact mul_le_mul_of_nonneg_right hle hone

/-- The least positive double is one unit. -/
theorem two_zpow_mul_one : (2 : ℚ) ^ (-1074 : Int) * one = 1 := by
  rw [Binary64.sizes.one_eq, Nat.cast_pow, Nat.cast_ofNat, ← zpow_natCast,
    ← zpow_add₀ (by norm_num : (2 : ℚ) ≠ 0)]
  rfl

/-- A negative value that has reached the next double below zero is not let in. -/
theorem not_textInRange_of_le_neg (hwrites : WritesFloat s.toList q) (hmax : max < 2 ^ 53)
    (hle : q ≤ -2 ^ (-1074 : Int)) : ¬textInRange s 0 max = true := by
  obtain ⟨x, hx, rfl⟩ := hwrites.exists_ofText?
  rw [textInRange_iff_rank hx hmax]
  have hone : (0 : ℚ) < one := by exact_mod_cast Binary64.sizes.one_pos
  have hbelow : x.rank ≤ -1 := by
    refine x.rank_le ⟨1, 0, by decide, rfl⟩ ?_ ?_
    · have hunit := Binary64.mul_one_lt_limit (k := 1) (by decide)
      have hpos := Binary64.sizes.one_pos
      change 1 ≤ limit
      omega
    · calc x.toRat * one ≤ -2 ^ (-1074 : Int) * one := mul_le_mul_of_nonneg_right hle hone.le
        _ = ((-1 : Int) : ℚ) := by rw [neg_mul, two_zpow_mul_one]; rfl
  omega

section

variable {bits : Nat}

/-- One is a whole number of steps, and a step is a whole number of units. -/
theorem one_eq_mul (hbits : bits ≤ 1074) : one = 2 ^ bits * 2 ^ (1074 - bits) := by
  rw [Binary64.sizes.one_eq, ← pow_add, Nat.add_sub_cancel' hbits]

/-- A number and a step of `2 ^ -bits` beyond it, counted in units. -/
theorem add_step_mul_one (max : Nat) (hbits : bits ≤ 1074) :
    (max + 2 ^ (-bits : Int)) * one =
      (((max * 2 ^ bits + 1) * 2 ^ (1074 - bits) : Nat) : ℚ) := by
  rw [one_eq_mul hbits, zpow_neg, zpow_natCast]
  push_cast
  field_simp

theorem lt_of_mul_two_pow_lt (hmax : max * 2 ^ bits + 1 < 2 ^ 53) : max < 2 ^ 53 := by
  have hfactor : max * 1 ≤ max * 2 ^ bits := Nat.mul_le_mul_left max Nat.one_le_two_pow
  omega

/-- The next double beyond the bound is not beyond all doubles. -/
theorem next_le_limit (hbits : bits ≤ 1074) (hmax : max * 2 ^ bits + 1 < 2 ^ 53) :
    (max * 2 ^ bits + 1) * 2 ^ (1074 - bits) ≤ limit := by
  calc (max * 2 ^ bits + 1) * 2 ^ (1074 - bits) ≤ 2 ^ 53 * one := by
        refine Nat.mul_le_mul hmax.le ?_
        rw [one_eq_mul hbits]
        exact Nat.le_mul_of_pos_left _ (Nat.two_pow_pos bits)
    _ ≤ limit := Binary64.sizes.significands

/-- A value that has reached the next double beyond the bound is not let in: a step of `2 ^ -bits`
leads from the bound to a double if few enough digits are before it. -/
theorem not_textInRange_of_ge (hwrites : WritesFloat s.toList q) (hbits : bits ≤ 1074)
    (hmax : max * 2 ^ bits + 1 < 2 ^ 53) (hge : max + 2 ^ (-bits : Int) ≤ q) :
    ¬textInRange s 0 max = true := by
  obtain ⟨x, hx, rfl⟩ := hwrites.exists_ofText?
  have habove : (((max * 2 ^ bits + 1) * 2 ^ (1074 - bits) : Nat) : Int) ≤ x.rank := by
    refine x.le_rank ⟨_, _, hmax, Int.natAbs_natCast _⟩ (next_le_limit hbits hmax) ?_
    rw [Int.cast_natCast, ← add_step_mul_one max hbits]
    exact mul_le_mul_of_nonneg_right hge (Nat.cast_nonneg one)
  have hnext : max * one < (max * 2 ^ bits + 1) * 2 ^ (1074 - bits) := by
    rw [one_eq_mul hbits, ← Nat.mul_assoc]
    exact Nat.mul_lt_mul_of_pos_right (Nat.lt_succ_self _) (Nat.two_pow_pos _)
  rw [textInRange_iff_rank hx (lt_of_mul_two_pow_lt hmax), ← Int.natCast_mul]
  omega

end

end

end MarkupAudit.Number

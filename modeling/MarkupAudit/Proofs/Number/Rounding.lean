import Mathlib.Data.Nat.Log
import Mathlib.Tactic.Linarith
import Mathlib.Tactic.Positivity
import Mathlib.Tactic.Ring
import MarkupAudit.Number.Range

namespace MarkupAudit.Number

section

variable {n d n' d' : Nat}

/-- Whole quotients keep the order of quotients, which is compared crosswise. -/
theorem div_le_div_of_cross (hd : 0 < d) (hd' : 0 < d') (hle : n * d' ≤ n' * d) :
    n / d ≤ n' / d' := by
  rw [Nat.le_div_iff_mul_le hd']
  refine Nat.le_of_mul_le_mul_right ?_ hd
  calc n / d * d' * d = n / d * d * d' := Nat.mul_right_comm _ _ _
    _ ≤ n * d' := Nat.mul_le_mul_right d' (Nat.div_mul_le_self n d)
    _ ≤ n' * d := hle

/-- Rounding goes to one of the two neighbouring whole numbers. -/
theorem roundHalfEven_bounds (n d : Nat) :
    n / d ≤ roundHalfEven n d ∧ roundHalfEven n d ≤ n / d + 1 := by
  unfold roundHalfEven
  dsimp only
  split
  · omega
  · split <;> omega

/-- A greater quotient is rounded to a number that is at least as great. -/
theorem roundHalfEven_mono (hd : 0 < d) (hd' : 0 < d') (hle : n * d' ≤ n' * d) :
    roundHalfEven n d ≤ roundHalfEven n' d' := by
  rcases Nat.lt_or_eq_of_le (div_le_div_of_cross hd hd' hle) with hless | hsame
  · have hupper := (roundHalfEven_bounds n d).2
    have hlower := (roundHalfEven_bounds n' d').1
    omega
  · -- With the same whole part the remainders decide, taken over a common denominator.
    have hremainder : n % d * d' ≤ n' % d' * d := by
      have hn : n * d' = n' / d' * (d * d') + n % d * d' := by
        rw [← hsame]
        nth_rewrite 1 [← Nat.div_add_mod n d]
        ring
      have hn' : n' * d = n' / d' * (d * d') + n' % d' * d := by
        nth_rewrite 1 [← Nat.div_add_mod n' d']
        ring
      omega
    unfold roundHalfEven
    dsimp only
    rw [← hsame]
    by_cases hless : 2 * (n % d) < d
    · rw [if_pos hless]
      split
      · exact le_rfl
      · split <;> omega
    · have hhalf : d' ≤ 2 * (n' % d') := by
        by_contra hnot
        nlinarith
      rw [if_neg hless, if_neg (show ¬2 * (n' % d') < d' by omega)]
      by_cases hmore : d < 2 * (n % d)
      · have hmore' : d' < 2 * (n' % d') := by
          by_contra hnot
          nlinarith
        rw [if_pos hmore, if_pos hmore']
      · rw [if_neg hmore]
        split <;> omega

/-- A whole quotient is not changed. -/
theorem roundHalfEven_mul (k : Nat) (hd : 0 < d) : roundHalfEven (k * d) d = k := by
  have hwhole : k * d / d = k := Nat.mul_div_cancel k hd
  have hrest : k * d % d = 0 := Nat.mul_mod_left k d
  simp only [roundHalfEven, hwhole, hrest, Nat.mul_zero, hd, if_true]

/-- What is at most a whole number is rounded to at most that number. -/
theorem roundHalfEven_le {k : Nat} (hd : 0 < d) (hle : n ≤ k * d) : roundHalfEven n d ≤ k := by
  have hmono := roundHalfEven_mono hd hd (Nat.mul_le_mul_right d hle)
  rwa [roundHalfEven_mul k hd] at hmono

/-- What is at least a whole number is rounded to at least that number. -/
theorem le_roundHalfEven {k : Nat} (hd : 0 < d) (hle : k * d ≤ n) : k ≤ roundHalfEven n d := by
  have hmono := roundHalfEven_mono hd hd (Nat.mul_le_mul_right d hle)
  rwa [roundHalfEven_mul k hd] at hmono

/-- A count of units with at most 53 significant bits. -/
def IsHoldable (units : Nat) : Prop :=
  ∃ significand shift, significand < 2 ^ 53 ∧ units = significand * 2 ^ shift

/-- Rounding to units is rounding on the grid that is left when bits are dropped. -/
theorem roundUnits_eq (n d : Nat) :
    roundUnits n d =
      roundHalfEven n (d * 2 ^ droppedBits (n / d)) * 2 ^ droppedBits (n / d) := rfl

theorem lt_two_pow_of_log2_lt {q bound : Nat} (hlt : q.log2 < bound) : q < 2 ^ bound :=
  Nat.lt_of_lt_of_le Nat.lt_log2_self (Nat.pow_le_pow_right (by decide) hlt)

/-- What is below a power of two with more bits than a double keeps is not rounded beyond it. -/
theorem roundUnits_le_two_pow (hd : 0 < d) {bound : Nat} (hlog : (n / d).log2 < bound) :
    roundUnits n d ≤ 2 ^ bound := by
  have hbits : droppedBits (n / d) ≤ bound := by
    unfold droppedBits
    omega
  have hsplit : 2 ^ bound = 2 ^ (bound - droppedBits (n / d)) * 2 ^ droppedBits (n / d) := by
    rw [← pow_add, Nat.sub_add_cancel hbits]
  have hn : n ≤ 2 ^ (bound - droppedBits (n / d)) * (d * 2 ^ droppedBits (n / d)) := by
    have hwhole : n / d + 1 ≤ 2 ^ bound := lt_two_pow_of_log2_lt hlog
    calc n ≤ (n / d + 1) * d := by rw [Nat.succ_mul]; exact (Nat.lt_div_mul_add hd).le
      _ ≤ 2 ^ bound * d := Nat.mul_le_mul_right d hwhole
      _ = _ := by rw [hsplit]; ring
  rw [roundUnits_eq, hsplit]
  exact Nat.mul_le_mul_right _ (roundHalfEven_le (by positivity) hn)

/-- Nothing is rounded below its leading bit. -/
theorem two_pow_log2_le_roundUnits (hd : 0 < d) (hpos : n / d ≠ 0) :
    2 ^ (n / d).log2 ≤ roundUnits n d := by
  have hbits : droppedBits (n / d) ≤ (n / d).log2 := by
    unfold droppedBits
    omega
  have hsplit : 2 ^ (n / d).log2 =
      2 ^ ((n / d).log2 - droppedBits (n / d)) * 2 ^ droppedBits (n / d) := by
    rw [← pow_add, Nat.sub_add_cancel hbits]
  have hn : 2 ^ ((n / d).log2 - droppedBits (n / d)) * (d * 2 ^ droppedBits (n / d)) ≤ n := by
    calc _ = 2 ^ (n / d).log2 * d := by rw [hsplit]; ring
      _ ≤ n / d * d := Nat.mul_le_mul_right d (Nat.log2_self_le hpos)
      _ ≤ n := Nat.div_mul_le_self n d
  rw [roundUnits_eq]
  nth_rewrite 1 [hsplit]
  exact Nat.mul_le_mul_right _ (le_roundHalfEven (by positivity) hn)

/-- A greater quotient is rounded to a count of units that is at least as great. -/
theorem roundUnits_mono (hd : 0 < d) (hd' : 0 < d') (hle : n * d' ≤ n' * d) :
    roundUnits n d ≤ roundUnits n' d' := by
  have hquotient := div_le_div_of_cross hd hd' hle
  have hlog : (n / d).log2 ≤ (n' / d').log2 := by
    rw [Nat.log2_eq_log_two, Nat.log2_eq_log_two]
    exact Nat.log_mono_right hquotient
  by_cases hsame : droppedBits (n / d) = droppedBits (n' / d')
  · rw [roundUnits_eq, roundUnits_eq, hsame]
    refine Nat.mul_le_mul_right _ (roundHalfEven_mono (by positivity) (by positivity) ?_)
    calc n * (d' * 2 ^ droppedBits (n' / d')) = n * d' * 2 ^ droppedBits (n' / d') := by ring
      _ ≤ n' * d * 2 ^ droppedBits (n' / d') := Nat.mul_le_mul_right _ hle
      _ = _ := by ring
  · -- A power of two lies between quotients that keep different bits.
    have hapart : (n / d).log2 < (n' / d').log2 := by
      unfold droppedBits at hsame
      omega
    have hpos : n' / d' ≠ 0 := by
      intro hzero
      rw [hzero, Nat.log2_zero] at hapart
      omega
    exact (roundUnits_le_two_pow hd hapart).trans (two_pow_log2_le_roundUnits hd' hpos)

/-- What a double can hold is not changed. -/
theorem roundUnits_mul {units : Nat} (hunits : IsHoldable units) (hd : 0 < d) :
    roundUnits (units * d) d = units := by
  obtain ⟨significand, shift, hbound, rfl⟩ := hunits
  have hwhole : significand * 2 ^ shift * d / d = significand * 2 ^ shift :=
    Nat.mul_div_cancel _ hd
  have hbits : droppedBits (significand * 2 ^ shift) ≤ shift := by
    have hlt : significand * 2 ^ shift < 2 ^ (53 + shift) := by
      rw [pow_add]
      exact Nat.mul_lt_mul_of_pos_right hbound (by positivity)
    unfold droppedBits
    by_cases hzero : significand * 2 ^ shift = 0
    · rw [hzero, Nat.log2_zero]
      omega
    · have hlog := (Nat.log2_lt hzero).mpr hlt
      omega
  obtain ⟨k, hk⟩ : 2 ^ droppedBits (significand * 2 ^ shift) ∣ significand * 2 ^ shift :=
    (pow_dvd_pow 2 hbits).mul_left significand
  have hn : significand * 2 ^ shift * d = k * (d * 2 ^ droppedBits (significand * 2 ^ shift)) := by
    nth_rewrite 1 [hk]
    ring
  rw [roundUnits_eq, hwhole, hn, roundHalfEven_mul k (by positivity), Nat.mul_comm, ← hk]

/-- What is at least a double is rounded to at least that double. -/
theorem le_roundUnits {units : Nat} (hunits : IsHoldable units) (hd : 0 < d)
    (hle : units * d ≤ n) : units ≤ roundUnits n d := by
  have hmono := roundUnits_mono hd hd (Nat.mul_le_mul_right d hle)
  rwa [roundUnits_mul hunits hd] at hmono

/-- What is at most a double is rounded to at most that double. -/
theorem roundUnits_le {units : Nat} (hunits : IsHoldable units) (hd : 0 < d)
    (hle : n ≤ units * d) : roundUnits n d ≤ units := by
  have hmono := roundUnits_mono hd hd (Nat.mul_le_mul_right d hle)
  rwa [roundUnits_mul hunits hd] at hmono

/-- Less than half a unit is rounded to zero. -/
theorem roundUnits_eq_zero (hless : 2 * n < d) : roundUnits n d = 0 := by
  have hwhole : n / d = 0 := Nat.div_eq_of_lt (by omega)
  have hrest : n % d = n := Nat.mod_eq_of_lt (by omega)
  simp [roundUnits_eq, hwhole, droppedBits, roundHalfEven, hrest, hless]

end

/-- The integer with a sign and a magnitude. -/
def signed (negative : Bool) (magnitude : Nat) : Int :=
  if negative then -magnitude else magnitude

/-- A number has so many digits at most if it is below that power of ten. -/
theorem digitCount_le_iff (n k : Nat) : digitCount n ≤ k ↔ n < 10 ^ k := by
  unfold digitCount
  by_cases hn : n = 0
  · simp [hn]
  · rw [if_neg hn]
    cases k with
    | zero =>
      have hlength : 0 < (Nat.toDigits 10 n).length := Nat.length_toDigits_pos
      omega
    | succ k => exact Nat.length_toDigits_le_iff (by decide) k.succ_pos

namespace Binary64

/-- What the unit and the limit come to as numbers. -/
structure Sizes : Prop where
  one_pos : 0 < one
  one_eq : one = 2 ^ 1074
  limit_eq : limit = 1 * 2 ^ 2098
  significands : 2 ^ 53 * one ≤ limit
  tiny : 2 * one ≤ 10 ^ 330
  huge : limit ≤ 10 ^ 310 * one

theorem sizes : Sizes := by
  constructor <;> decide +kernel

end Binary64

namespace Decimal

/-- The numerator of the magnitude. -/
def numerator (x : Decimal) : Nat :=
  x.coefficient * 10 ^ x.exponent.toNat

/-- The denominator of the magnitude. -/
def denominator (x : Decimal) : Nat :=
  10 ^ (-x.exponent).toNat

theorem denominator_pos (x : Decimal) : 0 < x.denominator :=
  Nat.pow_pos (by decide)

/-- A decimal of so few digits is less than half a unit. -/
theorem tiny (x : Decimal) (htiny : x.exponent + digitCount x.coefficient < -330) :
    2 * (x.numerator * Binary64.one) < x.denominator := by
  have hdigits : x.coefficient < 10 ^ digitCount x.coefficient :=
    (digitCount_le_iff _ _).mp le_rfl
  have hwhole : x.exponent.toNat = 0 := by omega
  calc 2 * (x.numerator * Binary64.one) = x.coefficient * (2 * Binary64.one) := by
        rw [numerator, hwhole]
        ring
    _ ≤ x.coefficient * 10 ^ 330 := Nat.mul_le_mul_left _ Binary64.sizes.tiny
    _ < 10 ^ digitCount x.coefficient * 10 ^ 330 :=
        Nat.mul_lt_mul_of_pos_right hdigits (by positivity)
    _ = 10 ^ (digitCount x.coefficient + 330) := by rw [pow_add]
    _ ≤ x.denominator := Nat.pow_le_pow_right (by decide) (by omega)

/-- A decimal of so many digits is beyond all doubles. -/
theorem huge (x : Decimal) (hpos : x.coefficient ≠ 0)
    (hhuge : 310 < x.exponent + digitCount x.coefficient) :
    Binary64.limit * x.denominator ≤ x.numerator * Binary64.one := by
  have hdigits : 10 ^ (digitCount x.coefficient - 1) ≤ x.coefficient := by
    by_contra hless
    have hcount : digitCount x.coefficient ≤ digitCount x.coefficient - 1 :=
      (digitCount_le_iff _ _).mpr (by omega)
    have hzero : digitCount x.coefficient ≤ 0 := by omega
    have hone : x.coefficient < 10 ^ 0 := (digitCount_le_iff _ _).mp hzero
    omega
  have hpower : 10 ^ 310 * x.denominator ≤ x.numerator := by
    calc 10 ^ 310 * x.denominator = 10 ^ (310 + (-x.exponent).toNat) := by
          rw [denominator, pow_add]
      _ ≤ 10 ^ (digitCount x.coefficient - 1 + x.exponent.toNat) :=
          Nat.pow_le_pow_right (by decide) (by omega)
      _ = 10 ^ (digitCount x.coefficient - 1) * 10 ^ x.exponent.toNat := by rw [pow_add]
      _ ≤ x.numerator := Nat.mul_le_mul_right _ hdigits
  calc Binary64.limit * x.denominator ≤ 10 ^ 310 * Binary64.one * x.denominator :=
        Nat.mul_le_mul_right _ Binary64.sizes.huge
    _ = 10 ^ 310 * x.denominator * Binary64.one := Nat.mul_right_comm _ _ _
    _ ≤ x.numerator * Binary64.one := Nat.mul_le_mul_right _ hpower

end Decimal

namespace Binary64

/-- The limit is a power of two, so a double could hold it. -/
theorem isHoldable_limit : IsHoldable limit :=
  ⟨1, 2098, by decide, sizes.limit_eq⟩

/-- The double nearest to a quotient: rounded to units, and cut off at the limit. -/
theorem rank?_ofQuotient (negative : Bool) (n d : Nat) :
    (ofQuotient negative n d).rank? = some (signed negative (min limit (roundUnits n d))) := by
  unfold ofQuotient
  dsimp only
  split
  next hless => rw [Nat.min_eq_right hless.le]; rfl
  next hmore => rw [Nat.min_eq_left (by omega)]; rfl

/-- The double nearest to a decimal, whichever way it is found: its magnitude in units, rounded and
cut off at the limit. -/
theorem rank?_ofDecimal (x : Decimal) :
    (ofDecimal x).rank? =
      some (signed x.negative (min limit (roundUnits (x.numerator * one) x.denominator))) := by
  unfold ofDecimal
  dsimp only
  split
  next hsmall =>
    have hzero : roundUnits (x.numerator * one) x.denominator = 0 := by
      refine roundUnits_eq_zero ?_
      rcases hsmall with hzero | htiny
      · rw [Decimal.numerator, hzero]
        simpa using x.denominator_pos
      · exact x.tiny htiny
    rw [hzero, Nat.min_zero]
    rfl
  next hlarge =>
    split
    next hhuge =>
      have hpos : x.coefficient ≠ 0 := fun hzero => hlarge (.inl hzero)
      have hle := le_roundUnits isHoldable_limit x.denominator_pos (x.huge hpos hhuge)
      rw [Nat.min_eq_left hle]
      rfl
    next =>
      split
      next e he =>
        have hwhole : (-Int.ofNat e).toNat = 0 := by simp
        rw [rank?_ofQuotient, Decimal.numerator, Decimal.denominator, he, hwhole, pow_zero]
        rfl
      next e he =>
        have hnone : (Int.negSucc e).toNat = 0 := rfl
        rw [rank?_ofQuotient, Decimal.numerator, Decimal.denominator, he, hnone, pow_zero,
          Nat.mul_one]
        rfl

/-- The magnitude of the double nearest to a natural number, in units. -/
def nearestUnits (n : Nat) : Nat :=
  min limit (roundUnits (n * one) 1)

section

variable {k : Nat}

/-- A double can hold every natural number of 53 bits. -/
theorem isHoldable_mul_one (hk : k < 2 ^ 53) : IsHoldable (k * one) := by
  exact ⟨k, 1074, hk, by rw [sizes.one_eq]⟩

theorem mul_one_lt_limit (hk : k < 2 ^ 53) : k * one < limit := by
  exact (Nat.mul_lt_mul_of_pos_right hk sizes.one_pos).trans_le sizes.significands

/-- A natural number of 53 bits is its own nearest double. -/
theorem nearestUnits_of_lt (hk : k < 2 ^ 53) : nearestUnits k = k * one := by
  have hexact := roundUnits_mul (isHoldable_mul_one hk) Nat.one_pos
  rw [Nat.mul_one] at hexact
  rw [nearestUnits, hexact, Nat.min_eq_right (mul_one_lt_limit hk).le]

/-- A greater number has a nearest double that is at least as great. -/
theorem nearestUnits_mono {n n' : Nat} (hle : n ≤ n') : nearestUnits n ≤ nearestUnits n' := by
  have hmono : roundUnits (n * one) 1 ≤ roundUnits (n' * one) 1 :=
    roundUnits_mono Nat.one_pos Nat.one_pos (by simpa using Nat.mul_le_mul_right one hle)
  unfold nearestUnits
  omega

/-- A natural number and the double nearest to it lie on the same side of a number that a double can
hold, together with its successor. -/
theorem nearestUnits_le_iff (n : Nat) (hk : k + 1 < 2 ^ 53) :
    nearestUnits n ≤ k * one ↔ n ≤ k := by
  have hpos := sizes.one_pos
  constructor
  · intro hle
    by_contra hmore
    have hnext : nearestUnits (k + 1) ≤ nearestUnits n := nearestUnits_mono (by omega)
    rw [nearestUnits_of_lt hk, Nat.succ_mul] at hnext
    omega
  · intro hle
    rw [← nearestUnits_of_lt (show k < 2 ^ 53 by omega)]
    exact nearestUnits_mono hle

/-- A natural number reaches one that a double can hold exactly if its nearest double does. -/
theorem le_nearestUnits_iff (n : Nat) (hk : k < 2 ^ 53) : k * one ≤ nearestUnits n ↔ k ≤ n := by
  cases k with
  | zero => simp
  | succ k =>
    have hless := nearestUnits_le_iff n hk
    have hpos := sizes.one_pos
    have hexact := nearestUnits_of_lt hk
    constructor
    · intro hle
      by_contra hnot
      have hbelow := hless.mpr (by omega)
      rw [Nat.succ_mul] at hle
      omega
    · intro hle
      rw [← hexact]
      exact nearestUnits_mono hle

/-- An integer and the double nearest to it lie on the same side of an integer that a double can
hold, together with its neighbours. -/
theorem signed_nearestUnits_le_iff (negative : Bool) (n : Nat) {k : Int}
    (hk : k.natAbs + 1 < 2 ^ 53) :
    signed negative (nearestUnits n) ≤ k * one ↔ signed negative n ≤ k := by
  have hpos := sizes.one_pos
  cases k with
  | ofNat m =>
    have hiff := nearestUnits_le_iff n (k := m) hk
    rw [Int.ofNat_eq_natCast, ← Int.natCast_mul]
    cases negative with
    | false =>
      simp only [signed, Bool.false_eq_true, if_false]
      omega
    | true =>
      simp only [signed, if_true]
      omega
  | negSucc m =>
    have hiff := le_nearestUnits_iff n (k := m + 1) (Nat.lt_of_succ_lt hk)
    have hproduct : 0 < (m + 1) * one := Nat.mul_pos m.succ_pos hpos
    rw [Int.negSucc_eq, Int.neg_mul, ← Int.natCast_succ, Nat.succ_eq_add_one, ← Int.natCast_mul]
    cases negative with
    | false =>
      simp only [signed, Bool.false_eq_true, if_false]
      omega
    | true =>
      simp only [signed, if_true]
      omega

theorem signed_not (negative : Bool) (n : Nat) : signed (!negative) n = -signed negative n := by
  cases negative <;> simp [signed]

/-- The same for integers on the other side, by the other sign. -/
theorem le_signed_nearestUnits_iff (negative : Bool) (n : Nat) {k : Int}
    (hk : k.natAbs + 1 < 2 ^ 53) :
    k * one ≤ signed negative (nearestUnits n) ↔ k ≤ signed negative n := by
  have hiff := signed_nearestUnits_le_iff (!negative) n (k := -k) (by simpa using hk)
  rw [signed_not, signed_not, Int.neg_mul] at hiff
  omega

end

end Binary64

end MarkupAudit.Number

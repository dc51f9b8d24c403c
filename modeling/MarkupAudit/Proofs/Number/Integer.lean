import MarkupAudit.Proofs.Message.Expansion
import MarkupAudit.Proofs.Number.Rounding

namespace MarkupAudit.Number

open Message (decimal)

/-- An optional sign, and whether it is a minus. -/
inductive Sign : List Char → Bool → Prop where
  | absent : Sign [] false
  | plus : Sign ['+'] false
  | minus : Sign ['-'] true

/-- One or more ASCII digits. -/
structure IsNumeral (digits : List Char) : Prop where
  ne_nil : digits ≠ []
  isDigit : ∀ c ∈ digits, c.isDigit = true

/-- A text that writes an integer: an optional sign, then one or more ASCII digits. -/
inductive WritesInteger : List Char → Int → Prop where
  | mk {sign digits : List Char} {negative : Bool} (hsign : Sign sign negative)
      (hdigits : IsNumeral digits) :
      WritesInteger (sign ++ digits) (signed negative (decimal digits))

section

variable {sign digits : List Char} {negative : Bool}

/-- A numeral starts with a digit, so there is no sign to drop. -/
theorem IsNumeral.dropSign_eq (hdigits : IsNumeral digits) : dropSign digits = digits := by
  unfold dropSign
  split
  next rest => exact absurd (hdigits.isDigit '-' List.mem_cons_self) (by decide)
  next rest => exact absurd (hdigits.isDigit '+' List.mem_cons_self) (by decide)
  next => rfl

theorem IsNumeral.startsNegative_eq (hdigits : IsNumeral digits) :
    startsNegative digits = false := by
  unfold startsNegative
  split
  next rest => exact absurd (hdigits.isDigit '-' List.mem_cons_self) (by decide)
  next => rfl

/-- The sign in front of a numeral is what is dropped. -/
theorem Sign.dropSign_append (hsign : Sign sign negative) (hdigits : IsNumeral digits) :
    dropSign (sign ++ digits) = digits := by
  cases hsign with
  | absent => exact hdigits.dropSign_eq
  | plus => rfl
  | minus => rfl

/-- The sign in front of a numeral decides whether it is negative. -/
theorem Sign.startsNegative_append (hsign : Sign sign negative) (hdigits : IsNumeral digits) :
    startsNegative (sign ++ digits) = negative := by
  cases hsign with
  | absent => exact hdigits.startsNegative_eq
  | plus => rfl
  | minus => rfl

/-- What is dropped from the front of a text is a sign, or nothing. -/
theorem exists_sign_append (cs : List Char) : ∃ sign negative, Sign sign negative ∧
    cs = sign ++ dropSign cs := by
  unfold dropSign
  split
  next rest => exact ⟨_, _, .minus, rfl⟩
  next rest => exact ⟨_, _, .plus, rfl⟩
  next => exact ⟨_, _, .absent, rfl⟩

/-- Numerals can be told by a look at their characters. -/
theorem isNumeral_iff : IsNumeral digits ↔ (!digits.isEmpty && digits.all Char.isDigit) = true := by
  rw [Bool.and_eq_true, Bool.not_eq_true', List.isEmpty_eq_false_iff, List.all_eq_true]
  exact ⟨fun h => ⟨h.ne_nil, h.isDigit⟩, fun h => ⟨h.1, h.2⟩⟩

/-- The characters of a text are those of an integer exactly if it writes one. -/
theorem integerChars_iff (cs : List Char) :
    integerChars cs = true ↔ ∃ z, WritesInteger cs z := by
  constructor
  · intro hinteger
    obtain ⟨sign, negative, hsign, hcs⟩ := exists_sign_append cs
    rw [hcs]
    exact ⟨_, .mk hsign (isNumeral_iff.mpr hinteger)⟩
  · rintro ⟨_, ⟨hsign, hdigits⟩⟩
    rw [integerChars, hsign.dropSign_append hdigits]
    exact isNumeral_iff.mp hdigits

/-- A further digit counts once, and all digits before it ten times as much. -/
theorem decimal_append_singleton (digits : List Char) (c : Char) :
    decimal (digits ++ [c]) = c.toNat - '0'.toNat + 10 * decimal digits := by
  simp [decimal, Nat.ofDigits_cons]

/-- The code points of the digits are those from zero to nine. -/
theorem toNat_bounds_of_isDigit {c : Char} (hc : c.isDigit = true) :
    '0'.toNat ≤ c.toNat ∧ c.toNat ≤ '9'.toNat := by
  have hrange : '0' ≤ c ∧ c ≤ '9' := by simpa [Char.isDigit, Char.le_def] using hc
  exact ⟨UInt32.le_iff_toNat_le.mp hrange.1, UInt32.le_iff_toNat_le.mp hrange.2⟩

/-- The digits of zero are zeros. -/
theorem decimal_eq_zero_iff (hdigits : ∀ c ∈ digits, c.isDigit = true) :
    decimal digits = 0 ↔ ∀ c ∈ digits, c = '0' := by
  induction digits using List.reverseRecOn with
  | nil => simp [decimal]
  | append_singleton digits c ih =>
    have hstart := ih fun d hd => hdigits d (List.mem_append_left _ hd)
    have hlast : c.toNat - '0'.toNat = 0 ↔ c = '0' := by
      have hbounds := toNat_bounds_of_isDigit (hdigits c (by simp))
      rw [← Char.toNat_inj]
      omega
    rw [decimal_append_singleton]
    simp only [List.mem_append, List.mem_singleton, or_imp, forall_and, forall_eq, ← hstart,
      ← hlast]
    omega

/-- Digits with one that is not zero write a positive number. -/
theorem any_ne_zero_iff (hdigits : ∀ c ∈ digits, c.isDigit = true) :
    digits.any (· != '0') = true ↔ 0 < decimal digits := by
  rw [Nat.pos_iff_ne_zero, Ne, decimal_eq_zero_iff hdigits]
  simp

/-- Of digits, those from one to nine are the ones other than zero. -/
theorem any_nonzero_digit (hdigits : ∀ c ∈ digits, c.isDigit = true) :
    (digits.any fun c => '1' ≤ c && c ≤ '9') = digits.any (· != '0') := by
  rw [Bool.eq_iff_iff, List.any_eq_true, List.any_eq_true]
  refine exists_congr fun c => and_congr_right fun hc => ?_
  have hbounds := toNat_bounds_of_isDigit (hdigits c hc)
  have hone : '1'.toNat = '0'.toNat + 1 := rfl
  simp only [Bool.and_eq_true, decide_eq_true_eq, bne_iff_ne, ne_eq, Char.le_def,
    UInt32.le_iff_toNat_le, ← Char.toNat_inj]
  change '1'.toNat ≤ c.toNat ∧ c.toNat ≤ '9'.toNat ↔ ¬c.toNat = '0'.toNat
  omega

/-- A minus sign counts only before something other than zeros. -/
theorem Sign.negativeChars_append (hsign : Sign sign negative) (hdigits : IsNumeral digits) :
    negativeChars (sign ++ digits) = (negative && digits.any (· != '0')) := by
  cases hsign with
  | plus => rfl
  | minus => rfl
  | absent =>
    unfold negativeChars
    split
    next rest hrest =>
      exact absurd (hdigits.isDigit '-' (by rw [← List.nil_append digits, hrest]; simp)) (by decide)
    next => rfl

/-- A sign is no digit, so it does not matter in the search for one. -/
theorem Sign.any_nonzero_digit_append (hsign : Sign sign negative) (hdigits : IsNumeral digits) :
    ((sign ++ digits).any fun c => '1' ≤ c && c ≤ '9') = digits.any (· != '0') := by
  rw [List.any_append, any_nonzero_digit hdigits.isDigit]
  cases hsign <;> rfl

end

section

variable {s : String} {z : Int}

/-- The sign and the digits of an integer, and its value by them. -/
theorem WritesInteger.exists_parts {cs : List Char} (hwrites : WritesInteger cs z) :
    ∃ sign digits negative, Sign sign negative ∧ IsNumeral digits ∧ cs = sign ++ digits ∧
      z = signed negative (decimal digits) := by
  cases hwrites with
  | mk hsign hdigits => exact ⟨_, _, _, hsign, hdigits, rfl, rfl⟩

/-- What counts as an integer is a text that writes one. -/
theorem isInteger_iff (s : String) : isInteger s = true ↔ ∃ z, WritesInteger s.toList z :=
  integerChars_iff s.toList

/-- The sign is judged by characters, and rightly so: `-0` counts. -/
theorem isNonNegative_iff (hwrites : WritesInteger s.toList z) :
    isNonNegative s = true ↔ 0 ≤ z := by
  have hinteger : isInteger s = true := (isInteger_iff s).mpr ⟨z, hwrites⟩
  obtain ⟨sign, digits, negative, hsign, hdigits, hs, rfl⟩ := hwrites.exists_parts
  have hpositive := any_ne_zero_iff hdigits.isDigit
  rw [isNonNegative, hinteger, hs, hsign.negativeChars_append hdigits]
  cases negative with
  | false => simp [signed]
  | true =>
    simp only [Bool.true_and, Bool.not_eq_true', ← Bool.not_eq_true, hpositive, signed, if_true]
    omega

/-- Being positive is judged by characters too, however long the text is. -/
theorem isPositive_iff (hwrites : WritesInteger s.toList z) : isPositive s = true ↔ 0 < z := by
  have hnonNegative := isNonNegative_iff hwrites
  obtain ⟨sign, digits, negative, hsign, hdigits, hs, rfl⟩ := hwrites.exists_parts
  have hpositive := any_ne_zero_iff hdigits.isDigit
  rw [isPositive, Bool.and_eq_true, hnonNegative, hs, hsign.any_nonzero_digit_append hdigits,
    hpositive]
  cases negative with
  | false =>
    simp only [signed, Bool.false_eq_true, if_false]
    omega
  | true =>
    simp only [signed, if_true]
    omega

/-- An integer is a float literal without point and exponent. -/
theorem exists_ofText? (hwrites : WritesInteger s.toList z) :
    ∃ negative n, Decimal.ofText? s = some ⟨negative, n, 0⟩ ∧ z = signed negative n := by
  obtain ⟨sign, digits, negative, hsign, hdigits, hs, rfl⟩ := hwrites.exists_parts
  have hexponent : Text.cut (fun c => c == 'e' || c == 'E') digits = (digits, none) := by
    refine Text.cut_of_forall fun c hc => ?_
    have hdigit := hdigits.isDigit c hc
    simp [Message.ne_of_isDigit hdigit (by decide : 'e'.isDigit = false),
      Message.ne_of_isDigit hdigit (by decide : 'E'.isDigit = false)]
  have hpoint : Text.cut (· == '.') digits = (digits, none) := by
    refine Text.cut_of_forall fun c hc => ?_
    simp [Message.ne_of_isDigit (hdigits.isDigit c hc) (by decide : '.'.isDigit = false)]
  have hparts : FloatParts.ofChars (dropSign s.toList) = ⟨digits, none, none⟩ := by
    rw [hs, hsign.dropSign_append hdigits]
    simp only [FloatParts.ofChars, hexponent, hpoint]
  have hfloat : isFloat s = true := by
    have hall := isNumeral_iff.mp hdigits
    rw [Bool.and_eq_true] at hall
    simpa [isFloat, hparts, FloatParts.wellFormed, hall.2] using hall.1
  refine ⟨negative, decimal digits, ?_, rfl⟩
  rw [Decimal.ofText?, if_pos hfloat, Decimal.ofChars, hparts]
  simp only [Option.getD_none, List.append_nil, Message.numeral_eq_decimal hdigits.isDigit]
  rw [hs, hsign.startsNegative_append hdigits]
  rfl

open Binary64

/-- An integer is compared with doubles through the double nearest to it. -/
theorem exists_inRange_iff (hwrites : WritesInteger s.toList z) :
    ∃ negative n, z = signed negative n ∧
      ∀ low high : Binary64, ∀ a b : Int, low.rank? = some a → high.rank? = some b →
        (inRange (.text s) low high = true ↔
          a ≤ signed negative (nearestUnits n) ∧ signed negative (nearestUnits n) ≤ b) := by
  obtain ⟨negative, n, htext, hz⟩ := exists_ofText? hwrites
  refine ⟨negative, n, hz, fun low high a b hlow hhigh => ?_⟩
  have hrank : (ofDecimal ⟨negative, n, 0⟩).rank? = some (signed negative (nearestUnits n)) := by
    rw [rank?_ofDecimal, nearestUnits]
    simp [Decimal.numerator, Decimal.denominator]
  simp only [inRange, Numeric.value?, htext, Option.map_some, le, hlow, hhigh, hrank,
    Bool.and_eq_true, decide_eq_true_eq]

/-- A natural number of 53 bits is a double, at its own place. -/
theorem rank?_ofNat {k : Nat} (hk : k < 2 ^ 53) :
    (Binary64.ofNat k).rank? = some ((k : Int) * one) := by
  rw [Binary64.ofNat, rank?_ofQuotient, ← nearestUnits, nearestUnits_of_lt hk, signed,
    if_neg Bool.false_ne_true, Int.natCast_mul]

/-- Bounds that are judged on doubles are judged on integers. -/
theorem textInRange_iff (hwrites : WritesInteger s.toList z) {low high : Nat}
    (hlow : low + 1 < 2 ^ 53) (hhigh : high + 1 < 2 ^ 53) :
    textInRange s low high = true ↔ low ≤ z ∧ z ≤ high := by
  obtain ⟨negative, n, rfl, hrange⟩ := exists_inRange_iff hwrites
  rw [textInRange, hrange _ _ _ _ (rank?_ofNat (by omega)) (rank?_ofNat (by omega)),
    le_signed_nearestUnits_iff negative n (by simpa using hlow),
    signed_nearestUnits_le_iff negative n (by simpa using hhigh)]

/-- Nothing is below the infinity that is the lower bound here. -/
theorem inRange_upTo_minus_two_iff (hwrites : WritesInteger s.toList z) :
    inRange (.text s) (.infinite true) (.finite true (2 * one)) = true ↔ z ≤ -2 := by
  obtain ⟨negative, n, rfl, hrange⟩ := exists_inRange_iff hwrites
  have hbelow : -(limit : Int) ≤ signed negative (nearestUnits n) := by
    have hcut : nearestUnits n ≤ limit := Nat.min_le_left _ _
    cases negative with
    | false => simp only [signed, Bool.false_eq_true, if_false]; omega
    | true => simp only [signed, if_true]; omega
  have htwo : (Binary64.finite true (2 * one)).rank? = some ((-2 : Int) * one) := by
    simp only [rank?, if_true, Int.natCast_mul, Nat.cast_ofNat, Int.neg_mul]
  rw [hrange _ _ _ _ rfl htwo, signed_nearestUnits_le_iff negative n (by decide)]
  exact and_iff_right hbelow

end

end MarkupAudit.Number

import Mathlib.Tactic.FieldSimp
import MarkupAudit.Proofs.Number.Integer
import MarkupAudit.Proofs.Text.Split

namespace MarkupAudit.Number

open Message (decimal)

/-- Digits with an optional point among or around them, and the number that they write. -/
inductive Mantissa : List Char → ℚ → Prop where
  | whole {digits : List Char} (hdigits : IsNumeral digits) : Mantissa digits (decimal digits)
  | point {digits fraction : List Char} (hdigits : IsNumeral digits)
      (hfraction : ∀ c ∈ fraction, c.isDigit = true) :
      Mantissa (digits ++ '.' :: fraction)
        (decimal digits + decimal fraction / 10 ^ fraction.length)
  | fraction {fraction : List Char} (hfraction : IsNumeral fraction) :
      Mantissa ('.' :: fraction) (decimal fraction / 10 ^ fraction.length)

/-- An optional power of ten. -/
inductive ExponentPart : List Char → Int → Prop where
  | absent : ExponentPart [] 0
  | present {marker : Char} {cs : List Char} {z : Int} (hmarker : marker = 'e' ∨ marker = 'E')
      (hinteger : WritesInteger cs z) : ExponentPart (marker :: cs) z

/-- A text that writes a rational number: an optional sign, digits with an optional point, and an
optional power of ten. -/
inductive WritesFloat : List Char → ℚ → Prop where
  | mk {sign mantissa exponent : List Char} {negative : Bool} {v : ℚ} {z : Int}
      (hsign : Sign sign negative) (hmantissa : Mantissa mantissa v)
      (hexponent : ExponentPart exponent z) :
      WritesFloat (sign ++ (mantissa ++ exponent)) ((if negative then -v else v) * 10 ^ z)

/-- The exact value. -/
def Decimal.toRat (x : Decimal) : ℚ :=
  signed x.negative x.coefficient * 10 ^ x.exponent

/-- Digits behind other digits move them up by as many places. -/
theorem decimal_append (digits fraction : List Char) :
    decimal (digits ++ fraction) = decimal digits * 10 ^ fraction.length + decimal fraction := by
  simp only [decimal, List.map_append, List.reverse_append, Nat.ofDigits_append,
    List.length_reverse, List.length_map]
  ring

section

variable {cs mantissa : List Char} {v : ℚ}

/-- The digits on the two sides of the point, as they are found by cutting at it. -/
theorem Mantissa.exists_cut (hmantissa : Mantissa mantissa v) :
    ∃ whole fraction, Text.cut (· == '.') mantissa = (whole, fraction) ∧
      (∀ c ∈ whole ++ fraction.getD [], c.isDigit = true) ∧ whole ++ fraction.getD [] ≠ [] ∧
      v = decimal (whole ++ fraction.getD []) / 10 ^ (fraction.getD []).length := by
  have hnoPoint : ∀ digits : List Char, (∀ c ∈ digits, c.isDigit = true) →
      ∀ c ∈ digits, (c == '.') = false := by
    intro digits hdigits c hc
    exact beq_false_of_ne (Message.ne_of_isDigit (hdigits c hc) (by decide))
  cases hmantissa with
  | whole hdigits =>
    refine ⟨mantissa, none, Text.cut_of_forall (hnoPoint mantissa hdigits.isDigit), ?_, ?_, ?_⟩
    · simpa using hdigits.isDigit
    · simpa using hdigits.ne_nil
    · simp
  | @point digits fraction hdigits hfraction =>
    refine ⟨digits, some fraction,
      Text.cut_append (hnoPoint digits hdigits.isDigit) (by decide) fraction, ?_, ?_, ?_⟩
    · exact List.forall_mem_append.mpr ⟨hdigits.isDigit, hfraction⟩
    · exact List.append_ne_nil_of_left_ne_nil hdigits.ne_nil _
    · rw [Option.getD_some, decimal_append]
      push_cast
      field_simp
  | @fraction fraction hfraction =>
    refine ⟨[], some fraction, by simp [Text.cut], ?_, ?_, ?_⟩
    · simpa using hfraction.isDigit
    · simpa using hfraction.ne_nil
    · simp

/-- Digits around a cut make a mantissa. -/
theorem exists_mantissa {whole : List Char} {fraction : Option (List Char)}
    (hcut : Text.cut (· == '.') mantissa = (whole, fraction))
    (hdigits : ∀ c ∈ whole ++ fraction.getD [], c.isDigit = true)
    (hne : whole ++ fraction.getD [] ≠ []) : ∃ v, Mantissa mantissa v := by
  obtain ⟨hwhole, hfraction⟩ := List.forall_mem_append.mp hdigits
  rcases Text.cut_cases (· == '.') mantissa with huncut | ⟨piece, a, rest, hsplit, ha, hcutAt⟩
  · obtain ⟨rfl, rfl⟩ := Prod.mk.inj (huncut.symm.trans hcut)
    exact ⟨_, .whole ⟨by simpa using hne, hwhole⟩⟩
  · obtain ⟨rfl, rfl⟩ := Prod.mk.inj (hcutAt.symm.trans hcut)
    obtain rfl : a = '.' := by simpa using ha
    rw [hsplit]
    by_cases hempty : piece = []
    · subst hempty
      exact ⟨_, .fraction ⟨by simpa using hne, hfraction⟩⟩
    · exact ⟨_, .point ⟨hempty, hwhole⟩ hfraction⟩

/-- A mantissa holds digits and points only. -/
theorem Mantissa.endsNumber_of_mem (hmantissa : Mantissa mantissa v) :
    ∀ c ∈ mantissa, endsNumber c = true := by
  have hall : ∀ digits : List Char, (∀ c ∈ digits, c.isDigit = true) →
      ∀ c ∈ digits, endsNumber c = true := by
    intro digits hdigits c hc
    simp [endsNumber, hdigits c hc]
  cases hmantissa with
  | whole hdigits => exact hall _ hdigits.isDigit
  | point hdigits hfraction =>
    exact List.forall_mem_append.mpr ⟨hall _ hdigits.isDigit,
      List.forall_mem_cons.mpr ⟨by decide, hall _ hfraction⟩⟩
  | fraction hfraction =>
    exact List.forall_mem_cons.mpr ⟨by decide, hall _ hfraction.isDigit⟩

theorem Mantissa.ne_nil (hmantissa : Mantissa mantissa v) : mantissa ≠ [] := by
  cases hmantissa with
  | whole hdigits => exact hdigits.ne_nil
  | point hdigits hfraction => exact List.append_ne_nil_of_left_ne_nil hdigits.ne_nil _
  | fraction hfraction => exact List.cons_ne_nil _ _

theorem ne_of_endsNumber {c d : Char} (hc : endsNumber c = true) (hd : endsNumber d = false) :
    c ≠ d := by
  rintro rfl
  rw [hc] at hd
  cases hd

/-- What starts with a digit or a point has no sign to drop. -/
theorem Mantissa.sign_append (hmantissa : Mantissa mantissa v) (rest : List Char)
    {sign : List Char} {negative : Bool} (hsign : Sign sign negative) :
    dropSign (sign ++ (mantissa ++ rest)) = mantissa ++ rest ∧
      startsNegative (sign ++ (mantissa ++ rest)) = negative := by
  obtain ⟨c, digits, rfl⟩ := List.exists_cons_of_ne_nil hmantissa.ne_nil
  have hc := hmantissa.endsNumber_of_mem c List.mem_cons_self
  have hminus : c ≠ '-' := ne_of_endsNumber hc (by decide)
  have hplus : c ≠ '+' := ne_of_endsNumber hc (by decide)
  cases hsign with
  | plus => exact ⟨rfl, rfl⟩
  | minus => exact ⟨rfl, rfl⟩
  | absent => simp [dropSign, startsNegative, hminus, hplus]

/-- An integer is read as the number that it writes. -/
theorem integerValue_of_writesInteger {z : Int} (hinteger : WritesInteger cs z) :
    integerValue cs = z := by
  obtain ⟨sign, digits, negative, hsign, hdigits, rfl, rfl⟩ := hinteger.exists_parts
  rw [integerValue, hsign.dropSign_append hdigits, hsign.startsNegative_append hdigits,
    Message.numeral_eq_decimal hdigits.isDigit]
  rfl

end

/-- Well-formed parts: digits around the point, one at least, and an integer as exponent. -/
theorem FloatParts.wellFormed_iff (p : FloatParts) :
    p.wellFormed = true ↔ (∀ c ∈ p.whole ++ p.fraction.getD [], c.isDigit = true) ∧
      p.whole ++ p.fraction.getD [] ≠ [] ∧ ∀ e ∈ p.exponent, integerChars e = true := by
  rw [wellFormed, List.forall_mem_append, Ne, List.append_eq_nil_iff]
  simp only [Bool.and_eq_true, List.all_eq_true, Bool.not_eq_true', ← Bool.not_eq_true,
    List.isEmpty_iff, and_assoc]
  cases p.exponent with
  | none => simp
  | some e => simp

section

variable {cs : List Char} {q : ℚ}

/-- The exponent is found by cutting at its marker, whatever digits stand before it. -/
theorem ExponentPart.exists_cut {exponent mantissa : List Char} {z : Int} {v : ℚ}
    (hexponent : ExponentPart exponent z) (hmantissa : Mantissa mantissa v) :
    ∃ part, Text.cut (fun c => c == 'e' || c == 'E') (mantissa ++ exponent) = (mantissa, part) ∧
      integerValue (part.getD []) = z ∧ ∀ e ∈ part, integerChars e = true := by
  have hnoMarker : ∀ c ∈ mantissa, (c == 'e' || c == 'E') = false := by
    intro c hc
    have hends := hmantissa.endsNumber_of_mem c hc
    simp [ne_of_endsNumber hends (by decide : endsNumber 'e' = false),
      ne_of_endsNumber hends (by decide : endsNumber 'E' = false)]
  cases hexponent with
  | absent =>
    refine ⟨none, ?_, rfl, by simp⟩
    rw [List.append_nil]
    exact Text.cut_of_forall hnoMarker
  | @present marker cs z hmarker hinteger =>
    refine ⟨some cs, Text.cut_append hnoMarker (by simpa using hmarker) cs, ?_, ?_⟩
    · exact integerValue_of_writesInteger hinteger
    · simpa using (integerChars_iff cs).mpr ⟨z, hinteger⟩

/-- A text of the grammar is read as a literal, and as the number that it writes. -/
theorem WritesFloat.read (hwrites : WritesFloat cs q) :
    (FloatParts.ofChars (dropSign cs)).wellFormed = true ∧ (Decimal.ofChars cs).toRat = q := by
  obtain @⟨sign, mantissa, exponent, negative, v, z, hsign, hmantissa, hexponent⟩ := hwrites
  obtain ⟨hdrop, hnegative⟩ := hmantissa.sign_append exponent hsign
  obtain ⟨part, hcutExponent, hvalue, hpart⟩ := hexponent.exists_cut hmantissa
  obtain ⟨whole, fraction, hcutPoint, hdigits, hne, rfl⟩ := hmantissa.exists_cut
  have hparts : FloatParts.ofChars (dropSign (sign ++ (mantissa ++ exponent))) =
      ⟨whole, fraction, part⟩ := by
    simp only [FloatParts.ofChars, hdrop, hcutExponent, hcutPoint]
  constructor
  · rw [hparts, FloatParts.wellFormed_iff]
    exact ⟨hdigits, hne, hpart⟩
  · have hten : (10 : ℚ) ≠ 0 := by norm_num
    have hread : Decimal.ofChars (sign ++ (mantissa ++ exponent)) =
        ⟨negative, decimal (whole ++ fraction.getD []), z - (fraction.getD []).length⟩ := by
      simp only [Decimal.ofChars, hparts, hnegative, hvalue, Message.numeral_eq_decimal hdigits]
    rw [hread, Decimal.toRat, zpow_sub₀ hten, zpow_natCast]
    cases negative with
    | false =>
      simp only [signed, Bool.false_eq_true, if_false, Int.cast_natCast]
      ring
    | true =>
      simp only [signed, if_true, Int.cast_neg, Int.cast_natCast]
      ring

/-- Parts that are well formed write a number, so nothing else counts as a literal. -/
theorem exists_writesFloat (hread : (FloatParts.ofChars (dropSign cs)).wellFormed = true) :
    ∃ q, WritesFloat cs q := by
  obtain ⟨sign, negative, hsign, hcs⟩ := exists_sign_append cs
  rw [hcs]
  generalize dropSign cs = body at hread
  rcases hcut : Text.cut (fun c => c == 'e' || c == 'E') body with ⟨mantissa, part⟩
  rcases hcutPoint : Text.cut (· == '.') mantissa with ⟨whole, fraction⟩
  have hparts : FloatParts.ofChars body = ⟨whole, fraction, part⟩ := by
    simp only [FloatParts.ofChars, hcut, hcutPoint]
  rw [hparts, FloatParts.wellFormed_iff] at hread
  obtain ⟨hdigits, hne, hpart⟩ := hread
  obtain ⟨v, hmantissa⟩ := exists_mantissa hcutPoint hdigits hne
  rcases Text.cut_cases (fun c => c == 'e' || c == 'E') body with
    huncut | ⟨piece, marker, rest, hsplit, hmarker, hcutAt⟩
  · obtain ⟨rfl, rfl⟩ := Prod.mk.inj (huncut.symm.trans hcut)
    have hwrites := WritesFloat.mk hsign hmantissa .absent
    rw [List.append_nil] at hwrites
    exact ⟨_, hwrites⟩
  · obtain ⟨rfl, rfl⟩ := Prod.mk.inj (hcutAt.symm.trans hcut)
    obtain ⟨z, hinteger⟩ := (integerChars_iff rest).mp (hpart rest rfl)
    rw [hsplit]
    exact ⟨_, .mk hsign hmantissa (.present (by simpa using hmarker) hinteger)⟩

/-- The float literals are the texts of the grammar. -/
theorem isFloat_iff (s : String) : isFloat s = true ↔ ∃ q, WritesFloat s.toList q :=
  ⟨exists_writesFloat, fun ⟨_, hwrites⟩ => hwrites.read.1⟩

/-- A literal is read as the number that it writes, without rounding. -/
theorem WritesFloat.exists_ofText? {s : String} (hwrites : WritesFloat s.toList q) :
    ∃ x, Decimal.ofText? s = some x ∧ x.toRat = q :=
  ⟨_, by rw [Decimal.ofText?, if_pos ((isFloat_iff s).mpr ⟨q, hwrites⟩)], hwrites.read.2⟩

/-- A numeral ends in a digit. -/
theorem IsNumeral.endsNumber_getLast? {digits : List Char} (hdigits : IsNumeral digits) :
    ∀ c ∈ digits.getLast?, endsNumber c = true := by
  intro c hc
  simp [endsNumber, hdigits.isDigit c (List.mem_of_getLast? hc)]

/-- A literal ends in a digit or a point. -/
theorem WritesFloat.endsNumber_getLast? (hwrites : WritesFloat cs q) :
    ∀ c ∈ cs.getLast?, endsNumber c = true := by
  obtain ⟨hsign, hmantissa, hexponent⟩ := hwrites
  cases hexponent with
  | absent =>
    rw [List.append_nil, List.getLast?_append_of_ne_nil _ hmantissa.ne_nil]
    intro c hc
    exact hmantissa.endsNumber_of_mem c (List.mem_of_getLast? hc)
  | present hmarker hinteger =>
    obtain ⟨_, digits, _, _, hdigits, rfl, _⟩ := hinteger.exists_parts
    rw [← List.cons_append, ← List.append_assoc, ← List.append_assoc,
      List.getLast?_append_of_ne_nil _ hdigits.ne_nil]
    exact hdigits.endsNumber_getLast?

end

section

/-- A text that is empty or ends in a digit or a point, so that no unit is left behind a number. -/
def Unitless (s : String) : Prop :=
  ∀ c ∈ s.toList.getLast?, endsNumber c = true

/-- A number and a unit are found again, if the unit has neither digits nor points. -/
theorem splitUnit_append {number : String} (hnumber : Unitless number) (unit : String)
    (hunit : ∀ c ∈ unit.toList, endsNumber c = false) :
    splitUnit (number ++ unit) = ⟨number, unit⟩ := by
  have hskipped : ∀ c ∈ unit.toList.reverse, (!endsNumber c) = true := by
    intro c hc
    simp [hunit c (List.mem_reverse.mp hc)]
  have hstop : ∀ c ∈ number.toList.reverse.head?, (!endsNumber c) = false := by
    intro c hc
    rw [List.head?_reverse] at hc
    simp [hnumber c hc]
  have htake : number.toList.reverse.takeWhile (fun c => !endsNumber c) = [] := by
    cases hreversed : number.toList.reverse with
    | nil => rfl
    | cons c rest => rw [List.takeWhile_cons_of_neg (by simp [hstop c (by simp [hreversed])])]
  have hdrop : number.toList.reverse.dropWhile (fun c => !endsNumber c) =
      number.toList.reverse := by
    have hparts := List.takeWhile_append_dropWhile (p := fun c => !endsNumber c)
      (l := number.toList.reverse)
    rwa [htake, List.nil_append] at hparts
  simp only [splitUnit, String.toList_append, List.reverse_append,
    List.dropWhile_append_of_pos hskipped, List.takeWhile_append_of_pos hskipped, hdrop, htake,
    List.reverse_reverse, List.append_nil, String.ofList_toList]

/-- Cutting off the unit loses nothing. -/
theorem number_append_unit (s : String) : (splitUnit s).number ++ (splitUnit s).unit = s := by
  rw [← String.toList_inj]
  simp [splitUnit, ← List.reverse_append]

/-- What is left before the unit has none. -/
theorem unitless_number (s : String) : Unitless (splitUnit s).number := by
  intro c hc
  have hhead : c ∈ (s.toList.reverse.dropWhile fun c => !endsNumber c).head? := by
    simpa [splitUnit] using hc
  have hstop := List.head?_dropWhile_not (fun c => !endsNumber c) s.toList.reverse
  rw [Option.mem_def.mp hhead] at hstop
  simpa using hstop

end

end MarkupAudit.Number

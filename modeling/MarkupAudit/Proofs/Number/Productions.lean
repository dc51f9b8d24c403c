import MarkupAudit.Proofs.Number.FloatLiteral
import MarkupAudit.Proofs.Text.Lowercase

namespace MarkupAudit.Number

open scoped Computability

namespace Production

/-- One character that meets a condition. -/
def char (p : Char → Prop) : Language Char :=
  {cs | ∃ c, p c ∧ cs = [c]}

/-- An ASCII digit. -/
def digit : Language Char :=
  char fun c => c.isDigit = true

/-- One or more digits. -/
def digits : Language Char :=
  digit * digit∗

def point : Language Char :=
  char (· = '.')

def sign : Language Char :=
  char fun c => c = '+' ∨ c = '-'

/-- An optional sign, then one or more digits. -/
def integer : Language Char :=
  (1 + sign) * digits

/-- One or more digits, which a point with any number of digits may follow, or a point with one or
more digits. -/
def mantissa : Language Char :=
  digits * (1 + point * digit∗) + point * digits

/-- The letter in either case, an optional sign, and one or more digits. -/
def exponent : Language Char :=
  char (fun c => c = 'e' ∨ c = 'E') * integer

/-- An optional sign, a mantissa and an optional exponent. -/
def floatLiteral : Language Char :=
  (1 + sign) * (mantissa * (1 + exponent))

/-- A number as it can be read, in lower case. Its alternatives are not exclusive: there may be
digits on both sides of the point. -/
def number : Language Char :=
  (digits + digits * point * digit∗ + digit∗ * point * digits) *
    (1 + char (· = 'e') * ((1 + sign) * digits))

/-- The names of special values, in lower case. -/
def special : Language Char :=
  {"inf".toList} + {"infinity".toList} + {"nan".toList}

/-- The texts that can be read as a double, in lower case. -/
def double : Language Char :=
  (1 + sign) * (special + number)

/-- The texts that are in a language once they are in lower case. -/
def anyCase (l : Language Char) : Language Char :=
  {cs | cs.map Char.toLower ∈ l}

section

variable {p : Char → Prop} {cs : List Char} {l m : Language Char}

theorem mem_char : cs ∈ char p ↔ ∃ c, p c ∧ cs = [c] :=
  Iff.rfl

/-- A row of characters that each meet the condition. -/
theorem mem_kstar_char : cs ∈ (char p)∗ ↔ ∀ c ∈ cs, p c := by
  rw [Language.mem_kstar]
  constructor
  · rintro ⟨parts, rfl, hparts⟩ c hc
    obtain ⟨part, hpart, hmem⟩ := List.mem_flatten.mp hc
    obtain ⟨d, hd, rfl⟩ := hparts part hpart
    rwa [List.mem_singleton.mp hmem]
  · intro hcs
    refine ⟨cs.map fun c => [c], (List.flatMap_singleton' cs).symm, ?_⟩
    intro part hpart
    obtain ⟨c, hc, rfl⟩ := List.mem_map.mp hpart
    exact ⟨c, hcs c hc, rfl⟩

theorem mem_kstar_digit : cs ∈ digit∗ ↔ ∀ c ∈ cs, c.isDigit = true :=
  mem_kstar_char

/-- The production of digits makes the numerals. -/
theorem mem_digits_iff : cs ∈ digits ↔ IsNumeral cs := by
  rw [digits, Language.mem_mul]
  constructor
  · rintro ⟨_, ⟨c, hc, rfl⟩, rest, hrest, rfl⟩
    refine ⟨by simp, ?_⟩
    exact List.forall_mem_append.mpr ⟨by simpa using hc, mem_kstar_digit.mp hrest⟩
  · intro hnumeral
    obtain ⟨c, rest, rfl⟩ := List.exists_cons_of_ne_nil hnumeral.ne_nil
    obtain ⟨hc, hrest⟩ := List.forall_mem_cons.mp hnumeral.isDigit
    exact ⟨[c], ⟨c, hc, rfl⟩, rest, mem_kstar_digit.mpr hrest, rfl⟩

/-- An optional sign is one of the texts that a sign may be. -/
theorem mem_optional_sign_iff : cs ∈ 1 + sign ↔ ∃ negative, Sign cs negative := by
  rw [Language.mem_add, Language.mem_one]
  constructor
  · rintro (rfl | ⟨c, rfl | rfl, rfl⟩)
    · exact ⟨_, .absent⟩
    · exact ⟨_, .plus⟩
    · exact ⟨_, .minus⟩
  · rintro ⟨_, hsign⟩
    cases hsign with
    | absent => exact .inl rfl
    | plus => exact .inr ⟨_, .inl rfl, rfl⟩
    | minus => exact .inr ⟨_, .inr rfl, rfl⟩

/-- The production of integers makes the texts that write one. -/
theorem mem_integer_iff : cs ∈ integer ↔ ∃ z, WritesInteger cs z := by
  rw [integer, Language.mem_mul]
  constructor
  · rintro ⟨sign, hsign, rest, hrest, rfl⟩
    obtain ⟨_, hsign⟩ := mem_optional_sign_iff.mp hsign
    exact ⟨_, .mk hsign (mem_digits_iff.mp hrest)⟩
  · rintro ⟨_, ⟨hsign, hdigits⟩⟩
    exact ⟨_, mem_optional_sign_iff.mpr ⟨_, hsign⟩, _, mem_digits_iff.mpr hdigits, rfl⟩

theorem mem_point_mul_iff : cs ∈ point * l ↔ ∃ rest ∈ l, cs = '.' :: rest := by
  rw [Language.mem_mul]
  constructor
  · rintro ⟨_, ⟨_, rfl, rfl⟩, rest, hrest, rfl⟩
    exact ⟨rest, hrest, rfl⟩
  · rintro ⟨rest, hrest, rfl⟩
    exact ⟨['.'], ⟨_, rfl, rfl⟩, rest, hrest, rfl⟩

/-- The production of mantissas makes the texts that write one. -/
theorem mem_mantissa_iff : cs ∈ mantissa ↔ ∃ v, Mantissa cs v := by
  rw [mantissa, mul_add, mul_one, Language.mem_add, Language.mem_add, mem_point_mul_iff,
    Language.mem_mul]
  constructor
  · rintro ((hdigits | ⟨whole, hwhole, _, htail, rfl⟩) | ⟨fraction, hfraction, rfl⟩)
    · exact ⟨_, .whole (mem_digits_iff.mp hdigits)⟩
    · obtain ⟨fraction, hfraction, rfl⟩ := mem_point_mul_iff.mp htail
      exact ⟨_, .point (mem_digits_iff.mp hwhole) (mem_kstar_digit.mp hfraction)⟩
    · exact ⟨_, .fraction (mem_digits_iff.mp hfraction)⟩
  · rintro ⟨_, hmantissa⟩
    cases hmantissa with
    | whole hdigits => exact .inl (.inl (mem_digits_iff.mpr hdigits))
    | point hdigits hfraction =>
      exact .inl (.inr ⟨_, mem_digits_iff.mpr hdigits, _,
        mem_point_mul_iff.mpr ⟨_, mem_kstar_digit.mpr hfraction, rfl⟩, rfl⟩)
    | fraction hfraction => exact .inr ⟨_, mem_digits_iff.mpr hfraction, rfl⟩

/-- The production of exponents makes the powers of ten, none included. -/
theorem mem_optional_exponent_iff : cs ∈ 1 + exponent ↔ ∃ z, ExponentPart cs z := by
  rw [exponent, Language.mem_add, Language.mem_one, Language.mem_mul]
  constructor
  · rintro (rfl | ⟨_, ⟨marker, hmarker, rfl⟩, rest, hrest, rfl⟩)
    · exact ⟨_, .absent⟩
    · obtain ⟨z, hinteger⟩ := mem_integer_iff.mp hrest
      exact ⟨z, .present hmarker hinteger⟩
  · rintro ⟨z, hexponent⟩
    cases hexponent with
    | absent => exact .inl rfl
    | present hmarker hinteger =>
      exact .inr ⟨_, ⟨_, hmarker, rfl⟩, _, mem_integer_iff.mpr ⟨z, hinteger⟩, rfl⟩

/-- The productions make the texts that write a rational number. -/
theorem mem_floatLiteral_iff : cs ∈ floatLiteral ↔ ∃ q, WritesFloat cs q := by
  rw [floatLiteral, Language.mem_mul]
  constructor
  · rintro ⟨_, hsign, _, hrest, rfl⟩
    obtain ⟨_, hmantissa, _, hexponent, rfl⟩ := Language.mem_mul.mp hrest
    obtain ⟨_, hsign⟩ := mem_optional_sign_iff.mp hsign
    obtain ⟨_, hmantissa⟩ := mem_mantissa_iff.mp hmantissa
    obtain ⟨_, hexponent⟩ := mem_optional_exponent_iff.mp hexponent
    exact ⟨_, .mk hsign hmantissa hexponent⟩
  · rintro ⟨_, ⟨hsign, hmantissa, hexponent⟩⟩
    refine ⟨_, mem_optional_sign_iff.mpr ⟨_, hsign⟩, _, Language.append_mem_mul ?_ ?_, rfl⟩
    · exact mem_mantissa_iff.mpr ⟨_, hmantissa⟩
    · exact mem_optional_exponent_iff.mpr ⟨_, hexponent⟩

/-- An integer is a float literal without point and exponent. -/
theorem integer_le_floatLiteral : integer ≤ floatLiteral := by
  have hdigits : digits ≤ mantissa :=
    calc
      digits = digits * 1 := (mul_one digits).symm
      _ ≤ digits * (1 + point * digit∗) := by gcongr; exact le_self_add
      _ ≤ mantissa := le_self_add
  calc
    integer = (1 + sign) * (digits * 1) := by rw [mul_one, integer]
    _ ≤ floatLiteral := by unfold floatLiteral; gcongr; exact le_self_add

/-- With digits before the point there may be digits behind it or none, so only the numbers without
digits before the point are left for the third alternative. -/
theorem number_eq :
    number = mantissa * (1 + char (· = 'e') * integer) := by
  have hstar : digit∗ = 1 + digits := (Language.one_add_self_mul_kstar_eq_kstar digit).symm
  have hboth : digits * point * digits ≤ digits * point * digit∗ := by
    gcongr
    rw [hstar]
    exact le_add_self
  have hthird : digit∗ * point * digits = point * digits + digits * point * digits := by
    rw [hstar, add_mul, add_mul, one_mul]
  have halternatives : digits + digits * point * digit∗ + digit∗ * point * digits = mantissa := by
    rw [hthird, add_left_comm, add_assoc digits, add_comm, add_eq_left_iff_le.mpr hboth, mantissa,
      mul_add, mul_one, mul_assoc]
  rw [number, halternatives, integer]

/-- Letters are compared in lower case. -/
theorem mem_anyCase : cs ∈ anyCase l ↔ cs.map Char.toLower ∈ l :=
  Iff.rfl

@[simp]
theorem anyCase_one : anyCase 1 = 1 := by
  ext cs
  simp [mem_anyCase]

@[simp]
theorem anyCase_add : anyCase (l + m) = anyCase l + anyCase m :=
  rfl

/-- A text in any case is cut where its lower-case form is cut. -/
@[simp]
theorem anyCase_mul : anyCase (l * m) = anyCase l * anyCase m := by
  ext cs
  rw [mem_anyCase, Language.mem_mul, Language.mem_mul]
  constructor
  · rintro ⟨_, hfirst, _, hsecond, hcs⟩
    obtain ⟨first, second, rfl, rfl, rfl⟩ := List.append_eq_map_iff.mp hcs
    exact ⟨first, hfirst, second, hsecond, rfl⟩
  · rintro ⟨first, hfirst, second, hsecond, rfl⟩
    exact ⟨_, hfirst, _, hsecond, List.map_append.symm⟩

theorem anyCase_char : anyCase (char p) = char fun c => p c.toLower := by
  ext cs
  rw [mem_anyCase, mem_char, mem_char]
  constructor
  · rintro ⟨_, hc, hcs⟩
    obtain ⟨c, rfl, rfl⟩ := List.map_eq_singleton_iff.mp hcs
    exact ⟨c, hc, rfl⟩
  · rintro ⟨c, hc, rfl⟩
    exact ⟨c.toLower, hc, rfl⟩

/-- In a row of characters each may have its own case. -/
theorem anyCase_kstar_char : anyCase (char p)∗ = (anyCase (char p))∗ := by
  ext cs
  rw [anyCase_char, mem_anyCase, mem_kstar_char, mem_kstar_char, List.forall_mem_map]

/-- Only letters have a case. -/
theorem anyCase_char_of_not_isAlpha (hp : ∀ c, c.isAlpha = true → ¬ p c) :
    anyCase (char p) = char p := by
  rw [anyCase_char]
  congr 1
  funext c
  exact Text.apply_toLower (f := p)
    (fun c halpha hlower => propext (iff_of_false (hp _ hlower) (hp c halpha))) c

/-- The marker of an exponent has two forms. -/
theorem toLower_eq_e_iff (c : Char) : c.toLower = 'e' ↔ c = 'e' ∨ c = 'E' := by
  by_cases hupper : c.isUpper = true
  · have hle := Text.toNat_le_of_isUpper hupper
    have hZ : 'Z'.toNat = 90 := rfl
    have hsmall : c ≠ 'e' := by
      rintro rfl
      exact absurd hupper (by decide)
    have hvalid : (c.toNat + 32).isValidChar := .inl (by omega)
    have he : 'e'.toNat = 101 := rfl
    have hE : 'E'.toNat = 69 := rfl
    rw [Char.toLower_eq_of_isUpper hupper, or_iff_right hsmall, ← Char.toNat_inj,
      Char.toNat_ofNat, if_pos hvalid, ← Char.toNat_inj]
    omega
  · have hcapital : c ≠ 'E' := by
      rintro rfl
      exact hupper (by decide)
    rw [Char.toLower_eq_of_not_isUpper hupper, or_iff_left hcapital]

theorem not_isDigit_of_isAlpha {c : Char} (halpha : c.isAlpha = true) : ¬ c.isDigit = true := by
  intro hdigit
  have hbounds := toNat_bounds_of_isDigit hdigit
  have hnine : '9'.toNat = 57 := rfl
  rcases Bool.or_eq_true_iff.mp halpha with hupper | hlower
  · have hle : 'A'.toNat ≤ c.toNat := UInt32.le_iff_toNat_le.mp (of_decide_eq_true hupper).1
    have hA : 'A'.toNat = 65 := rfl
    omega
  · have hle : 'a'.toNat ≤ c.toNat :=
      UInt32.le_iff_toNat_le.mp (of_decide_eq_true (Bool.and_eq_true_iff.mp hlower).1)
    have ha : 'a'.toNat = 97 := rfl
    omega

/-- Signs have no case. -/
theorem anyCase_sign : anyCase sign = sign := by
  refine anyCase_char_of_not_isAlpha fun c halpha hc => ?_
  rcases hc with rfl | rfl
  all_goals exact absurd halpha (by decide)

/-- In any case, the numbers that can be read are the float literals without their sign. -/
theorem anyCase_number : anyCase number = mantissa * (1 + exponent) := by
  have hdigit : anyCase digit = digit :=
    anyCase_char_of_not_isAlpha fun _ => not_isDigit_of_isAlpha
  have hstar : anyCase digit∗ = digit∗ := anyCase_kstar_char.trans (congrArg (·∗) hdigit)
  have hpoint : anyCase point = point := anyCase_char_of_not_isAlpha fun c halpha hc =>
    absurd (hc ▸ halpha) (by decide)
  have hmarker : anyCase (char (· = 'e')) = char fun c => c = 'e' ∨ c = 'E' := by
    simp only [anyCase_char, toLower_eq_e_iff]
  rw [number_eq]
  simp only [anyCase_mul, anyCase_add, anyCase_one, mantissa, digits, integer, hdigit, hstar,
    hpoint, anyCase_sign, hmarker, exponent]

/-- A sign in front is dropped before anything else is looked at. -/
theorem mem_optional_sign_mul_iff (hl : ∀ cs ∈ l, dropSign cs = cs) :
    cs ∈ (1 + sign) * l ↔ dropSign cs ∈ l := by
  rw [Language.mem_mul]
  constructor
  · rintro ⟨_, hsign, rest, hrest, rfl⟩
    obtain ⟨_, hsign⟩ := mem_optional_sign_iff.mp hsign
    cases hsign with
    | absent => exact (hl rest hrest).symm ▸ hrest
    | plus => exact hrest
    | minus => exact hrest
  · intro hdrop
    obtain ⟨sign, negative, hsign, hcs⟩ := exists_sign_append cs
    exact ⟨sign, mem_optional_sign_iff.mpr ⟨negative, hsign⟩, _, hdrop, hcs.symm⟩

/-- The three names, in any case. -/
theorem mem_anyCase_special : cs ∈ anyCase special ↔
    (cs.map Char.toLower = "inf".toList ∨ cs.map Char.toLower = "infinity".toList) ∨
      cs.map Char.toLower = "nan".toList :=
  Iff.rfl

/-- The name of a special value starts with no sign, digit or point. -/
theorem exists_cons_of_mem_anyCase_special (hcs : cs ∈ anyCase special) :
    ∃ c rest, cs = c :: rest ∧ c.isAlpha = true := by
  cases cs with
  | nil => exact absurd (mem_anyCase_special.mp hcs) (by decide)
  | cons c rest =>
    refine ⟨c, rest, rfl, ?_⟩
    rw [← Char.isAlpha_toLower_eq_isAlpha]
    rcases mem_anyCase_special.mp hcs with (hname | hname) | hname
    all_goals
      rw [(List.cons.inj hname).1]
      decide

/-- The name of a special value has no sign to drop. -/
theorem dropSign_of_mem_anyCase_special (hcs : cs ∈ anyCase special) : dropSign cs = cs := by
  obtain ⟨c, rest, rfl, halpha⟩ := exists_cons_of_mem_anyCase_special hcs
  unfold dropSign
  split
  next heq => exact absurd ((List.cons.inj heq).1 ▸ halpha) (by decide)
  next heq => exact absurd ((List.cons.inj heq).1 ▸ halpha) (by decide)
  next => rfl

end

end Production

open Production

/-- What counts as a float literal is made by the production. -/
theorem isFloat_iff_mem_floatLiteral (s : String) :
    isFloat s = true ↔ s.toList ∈ floatLiteral := by
  rw [isFloat_iff, mem_floatLiteral_iff]

theorem not_endsNumber_of_isAlpha {c : Char} (halpha : c.isAlpha = true) :
    ¬ endsNumber c = true := by
  intro hends
  rcases Bool.or_eq_true_iff.mp hends with hdigit | hpoint
  · exact not_isDigit_of_isAlpha halpha hdigit
  · exact absurd (beq_iff_eq.mp hpoint ▸ halpha) (by decide)

/-- A float literal is not the name of a special value. -/
theorem not_special_of_writesFloat {cs : List Char} {q : ℚ} (hwrites : WritesFloat cs q) :
    dropSign cs ∉ anyCase special := by
  obtain @⟨sign, mantissa, exponent, negative, v, z, hsign, hmantissa, _⟩ := hwrites
  intro hspecial
  rw [(hmantissa.sign_append exponent hsign).1] at hspecial
  obtain ⟨c, rest, hrest, halpha⟩ := exists_cons_of_mem_anyCase_special hspecial
  obtain ⟨d, ds, rfl⟩ := List.exists_cons_of_ne_nil hmantissa.ne_nil
  obtain rfl : d = c := (List.cons.inj hrest).1
  exact not_endsNumber_of_isAlpha halpha (hmantissa.endsNumber_of_mem d List.mem_cons_self)

/-- What is no name of a special value is read as a float literal or not at all. -/
theorem ofText?_of_not_special {s : String} (hname : dropSign s.toList ∉ anyCase special) :
    Binary64.ofText? s = (Decimal.ofText? s).map Binary64.ofDecimal := by
  rw [mem_anyCase_special, not_or] at hname
  rw [Binary64.ofText?, if_neg hname.1, if_neg hname.2]

/-- Every name of a special value can be read, with or without a sign. -/
theorem isSome_ofText?_of_special {s : String} (hname : dropSign s.toList ∈ anyCase special) :
    (Binary64.ofText? s).isSome = true := by
  rw [Binary64.ofText?]
  rcases mem_anyCase_special.mp hname with hinfinite | hnan
  · rw [if_pos hinfinite]
    rfl
  · rw [if_pos hnan]
    split <;> rfl

/-- A text that is no name of a special value can be read exactly if it is a float literal. -/
theorem isSome_ofText?_iff (s : String) :
    (Binary64.ofText? s).isSome = true ↔ s.toList ∈ anyCase double := by
  have hgrammar : s.toList ∈ anyCase double ↔
      dropSign s.toList ∈ anyCase special ∨ isFloat s = true := by
    rw [isFloat_iff_mem_floatLiteral, double, anyCase_mul, anyCase_add, anyCase_add, anyCase_one,
      anyCase_sign, anyCase_number, mul_add, Language.mem_add,
      mem_optional_sign_mul_iff fun _ => dropSign_of_mem_anyCase_special, floatLiteral]
  rw [hgrammar]
  by_cases hname : dropSign s.toList ∈ anyCase special
  · exact iff_of_true (isSome_ofText?_of_special hname) (.inl hname)
  · rw [ofText?_of_not_special hname, or_iff_right hname, Option.isSome_map, Decimal.ofText?]
    split
    next hfloat => exact iff_of_true rfl hfloat
    next hfloat => exact iff_of_false Bool.false_ne_true hfloat

/-- A range reads the literals that count as such, and no others. -/
theorem value?_text (s : String) :
    (Numeric.text s).value? = if isFloat s = true then Binary64.ofText? s else none := by
  by_cases hfloat : isFloat s = true
  · obtain ⟨_, hwrites⟩ := (isFloat_iff s).mp hfloat
    rw [if_pos hfloat, ofText?_of_not_special (not_special_of_writesFloat hwrites), Numeric.value?]
  · rw [if_neg hfloat, Numeric.value?, Decimal.ofText?, if_neg hfloat, Option.map_none]

/-- A number is never read as the special value that equals nothing. -/
theorem ofDecimal_ne_nan (x : Decimal) : Binary64.ofDecimal x ≠ .nan := by
  intro hnan
  have hrank := Binary64.rank?_ofDecimal x
  rw [hnan] at hrank
  cases hrank

/-- What counts as a float literal is read as the double nearest to a decimal. -/
theorem exists_ofText?_of_isFloat {s : String} (hfloat : isFloat s = true) :
    ∃ x, Binary64.ofText? s = some (.ofDecimal x) := by
  obtain ⟨q, hwrites⟩ := (isFloat_iff s).mp hfloat
  obtain ⟨x, hx, _⟩ := hwrites.exists_ofText?
  refine ⟨x, ?_⟩
  rw [ofText?_of_not_special (not_special_of_writesFloat hwrites), hx, Option.map_some]

/-- Every double that a literal is read as lies between the infinities. -/
theorem infinite_le_ofDecimal (x : Decimal) :
    (Binary64.infinite true).le (.ofDecimal x) = true ∧
      (Binary64.ofDecimal x).le (.infinite false) = true := by
  have hcut := Nat.min_le_left Binary64.limit
    (roundUnits (x.numerator * Binary64.one) x.denominator)
  have hlow : (Binary64.infinite true).rank? = some (-(Binary64.limit : Int)) := rfl
  have hhigh : (Binary64.infinite false).rank? = some (Binary64.limit : Int) := rfl
  simp only [Binary64.le, Binary64.rank?_ofDecimal, hlow, hhigh, decide_eq_true_eq, signed]
  generalize min Binary64.limit _ = magnitude at hcut ⊢
  cases x.negative with
  | false => simp only [Bool.false_eq_true, if_false]; omega
  | true => simp only [if_true]; omega

/-- The float literals are the texts of their grammar, with nothing before or behind, and integers
are among them. They are also, up to case, the numbers of the grammar of all that can be read as a
double, so each of them is read as a double that is not NaN. A range judges a text if it is a float
literal, by the double that is read, and no literal is outside every range. -/
theorem isFloat_matches_grammar (s : String) :
    (isFloat s = true ↔ s.toList ∈ floatLiteral) ∧
    (isInteger s = true → isFloat s = true) ∧
    (isFloat s = true ↔ (Text.foldCase s).toList ∈ (1 + sign) * number) ∧
    ((Binary64.ofText? s).isSome = true ↔ (Text.foldCase s).toList ∈ double) ∧
    ((Numeric.text s).value? = if isFloat s = true then Binary64.ofText? s else none) ∧
    (isFloat s = true → ∃ x, Binary64.ofText? s = some x ∧ x ≠ .nan ∧
      ∀ low high, inRange (.text s) low high = (low.le x && x.le high)) ∧
    inRange (.text s) (.infinite true) (.infinite false) = isFloat s := by
  have hvalue := value?_text s
  have hjudged : isFloat s = true → ∃ x, Binary64.ofText? s = some (.ofDecimal x) ∧
      ∀ low high, inRange (.text s) low high =
        (low.le (.ofDecimal x) && (Binary64.ofDecimal x).le high) := by
    intro hfloat
    obtain ⟨x, hx⟩ := exists_ofText?_of_isFloat hfloat
    refine ⟨x, hx, fun low high => ?_⟩
    rw [inRange, hvalue, if_pos hfloat, hx]
  rw [Text.toList_foldCase]
  refine ⟨isFloat_iff_mem_floatLiteral s, ?_, ?_, isSome_ofText?_iff s, hvalue, ?_, ?_⟩
  · intro hinteger
    obtain ⟨z, hwrites⟩ := (isInteger_iff s).mp hinteger
    rw [isFloat_iff_mem_floatLiteral]
    exact integer_le_floatLiteral (mem_integer_iff.mpr ⟨z, hwrites⟩)
  · rw [isFloat_iff_mem_floatLiteral, ← mem_anyCase, anyCase_mul, anyCase_add, anyCase_one,
      anyCase_sign, anyCase_number, floatLiteral]
  · intro hfloat
    obtain ⟨x, hx, hrange⟩ := hjudged hfloat
    exact ⟨_, hx, ofDecimal_ne_nan x, hrange⟩
  · by_cases hfloat : isFloat s = true
    · obtain ⟨x, _, hrange⟩ := hjudged hfloat
      obtain ⟨hlow, hhigh⟩ := infinite_le_ofDecimal x
      rw [hrange, hlow, hhigh, hfloat]
      rfl
    · rw [inRange, hvalue, if_neg hfloat, Bool.eq_false_iff.mpr hfloat]

-- What is missing, comes twice or stands in the wrong place.
example : ["5.", ".5", "+2.5E-3", "1e05"].all isFloat = true ∧
    ["", ".", "e5", "1e", "1.2.3", "1e5e5", "1e5.0", "--1", "1+", "inf"].any isFloat = false := by
  decide

end MarkupAudit.Number

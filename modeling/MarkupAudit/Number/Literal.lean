import MarkupAudit.Text.Split

namespace MarkupAudit.Number

/-- Drops one leading sign. -/
def dropSign : List Char → List Char
  | '-' :: cs => cs
  | '+' :: cs => cs
  | cs => cs

/-- One or more ASCII digits after an optional sign. -/
def integerChars (cs : List Char) : Bool :=
  let digits := dropSign cs
  !digits.isEmpty && digits.all Char.isDigit

/-- Whether a minus sign stands before something other than zeros. -/
def negativeChars : List Char → Bool
  | '-' :: cs => cs.any (· != '0')
  | _ => false

/-- An integer: an optional sign, then one or more ASCII digits. -/
def isInteger (s : String) : Bool :=
  integerChars s.toList

/-- An integer that is at least zero; `-0` counts. -/
def isNonNegative (s : String) : Bool :=
  isInteger s && !negativeChars s.toList

/-- An integer that is at least one. -/
def isPositive (s : String) : Bool :=
  isNonNegative s && s.toList.any fun c => '1' ≤ c && c ≤ '9'

/-- The parts of a float literal after its sign. An absent point or exponent is kept apart from one
that nothing follows. -/
structure FloatParts where
  whole : List Char
  fraction : Option (List Char)
  exponent : Option (List Char)

/-- Cuts at the first `e` or `E`, and what stands before it at the first point. -/
def FloatParts.ofChars (cs : List Char) : FloatParts :=
  let (mantissa, exponent) := Text.cut (fun c => c == 'e' || c == 'E') cs
  let (whole, fraction) := Text.cut (· == '.') mantissa
  ⟨whole, fraction, exponent⟩

/-- Digits on one side of the point at least, and an integer as exponent if there is one. -/
def FloatParts.wellFormed (p : FloatParts) : Bool :=
  p.whole.all Char.isDigit && (p.fraction.getD []).all Char.isDigit &&
    !(p.whole.isEmpty && (p.fraction.getD []).isEmpty) &&
    match p.exponent with
    | some e => integerChars e
    | none => true

/-- A float literal: an optional sign, digits with an optional point among or around them, and an
optional exponent. Names of special values are no literals. -/
def isFloat (s : String) : Bool :=
  (FloatParts.ofChars (dropSign s.toList)).wellFormed

/-- A number and the unit after it. -/
structure Quantity where
  number : String
  unit : String
  deriving DecidableEq, Repr

/-- Whether a number may end in this character. -/
def endsNumber (c : Char) : Bool :=
  c.isDigit || c == '.'

/-- Cuts behind the last ASCII digit or point: the longest end without either is the unit. -/
def splitUnit (s : String) : Quantity :=
  let reversed := s.toList.reverse
  { number := String.ofList (reversed.dropWhile fun c => !endsNumber c).reverse
    unit := String.ofList (reversed.takeWhile fun c => !endsNumber c).reverse }

/-- A float literal followed by one of the units. -/
def hasUnit (s : String) (units : List String) : Bool :=
  let q := splitUnit s
  isFloat q.number && units.contains q.unit

end MarkupAudit.Number

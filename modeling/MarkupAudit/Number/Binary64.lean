import MarkupAudit.Number.Decimal

namespace MarkupAudit.Number

/-- A double. A finite one is a whole number of units of `2 ^ -1074`, the least positive double, so
order is the order of integers, and rounding a quotient is exact arithmetic on natural numbers. -/
inductive Binary64 where
  | finite (negative : Bool) (units : Nat)
  | infinite (negative : Bool)
  | nan
  deriving DecidableEq, Repr

/-- The integer nearest to `n / d`; of two equally near ones, the even one. -/
def roundHalfEven (n d : Nat) : Nat :=
  let q := n / d
  let r := n % d
  if 2 * r < d then q
  else if d < 2 * r then q + 1
  else q + q % 2

/-- How many low bits of a count of units a double cannot keep: it has 53 significant ones. -/
def droppedBits (units : Nat) : Nat :=
  units.log2 - 52

/-- The count of units nearest to `n / d` that a double can hold; of two equally near ones, the one
with the even significand. -/
def roundUnits (n d : Nat) : Nat :=
  let step := Nat.pow 2 (droppedBits (n / d))
  roundHalfEven n (d * step) * step

namespace Binary64

/-- The units that make one. -/
def one : Nat := Nat.pow 2 1074

/-- The least count of units that is too large for a double. -/
def limit : Nat := Nat.pow 2 2098

/-- The double nearest to `± n / d` units. -/
def ofQuotient (negative : Bool) (n d : Nat) : Binary64 :=
  let units := roundUnits n d
  if units < limit then .finite negative units else .infinite negative

/-- The double nearest to a decimal. A decimal beyond the range of all doubles, on either side, is
recognised by its number of digits before any power of ten is formed. -/
def ofDecimal (x : Decimal) : Binary64 :=
  let magnitude := x.exponent + digitCount x.coefficient
  if x.coefficient = 0 ∨ magnitude < -330 then .finite x.negative 0
  else if 310 < magnitude then .infinite x.negative
  else
    match x.exponent with
    | .ofNat e => ofQuotient x.negative (x.coefficient * Nat.pow 10 e * one) 1
    | .negSucc e => ofQuotient x.negative (x.coefficient * one) (Nat.pow 10 (e + 1))

/-- The double nearest to a natural number. -/
def ofNat (n : Nat) : Binary64 :=
  ofQuotient false (n * one) 1

/-- Whether the sign bit is set; a NaN counts as positive. -/
def isNegative : Binary64 → Bool
  | .finite negative _ => negative
  | .infinite negative => negative
  | .nan => false

/-- The product, rounded once. -/
def mul (x y : Binary64) : Binary64 :=
  let negative := x.isNegative != y.isNegative
  match x, y with
  | .finite _ a, .finite _ b => ofQuotient negative (a * b) one
  | .finite _ 0, .infinite _ => .nan
  | .infinite _, .finite _ 0 => .nan
  | .nan, _ => .nan
  | _, .nan => .nan
  | _, _ => .infinite negative

/-- The quotient, rounded once. -/
def div (x y : Binary64) : Binary64 :=
  let negative := x.isNegative != y.isNegative
  match x, y with
  | .finite _ 0, .finite _ 0 => .nan
  | .finite _ _, .finite _ 0 => .infinite negative
  | .finite _ a, .finite _ b => ofQuotient negative (a * one) b
  | .finite _ _, .infinite _ => .finite negative 0
  | .infinite _, .finite _ _ => .infinite negative
  | _, _ => .nan

/-- The double nearest to a power of ten. -/
def tenTo (n : Nat) : Binary64 :=
  ofDecimal ⟨false, 1, n⟩

/-- The position of a number that is no NaN in the order of all doubles: minus and plus infinity
stand just beyond the finite ones. -/
def rank? : Binary64 → Option Int
  | .finite negative units => some (if negative then -units else units)
  | .infinite negative => some (if negative then -limit else limit)
  | .nan => none

/-- The order of doubles. A NaN is comparable with nothing; the two zeros are equal. -/
def le (x y : Binary64) : Bool :=
  match x.rank?, y.rank? with
  | some a, some b => a ≤ b
  | _, _ => false

/-- Reads a float literal, or a name of an infinity or of NaN in any ASCII case. -/
def ofText? (s : String) : Option Binary64 :=
  let cs := s.toList
  let name := (dropSign cs).map Char.toLower
  if name = "inf".toList ∨ name = "infinity".toList then some (.infinite (startsNegative cs))
  else if name = "nan".toList then some .nan
  else (Decimal.ofText? s).map ofDecimal

end Binary64

end MarkupAudit.Number

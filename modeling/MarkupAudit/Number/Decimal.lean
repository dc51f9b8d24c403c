import MarkupAudit.Text.Ascii
import MarkupAudit.Number.Literal

namespace MarkupAudit.Number

/-- The value `± coefficient · 10 ^ exponent`. The sign is kept apart because a zero has one. -/
structure Decimal where
  negative : Bool
  coefficient : Nat
  exponent : Int
  deriving DecidableEq, Repr

/-- Whether the literal starts with a minus sign. -/
def startsNegative : List Char → Bool
  | '-' :: _ => true
  | _ => false

/-- The value of an integer literal. -/
def integerValue (cs : List Char) : Int :=
  let magnitude : Nat := Text.numeral 10 (dropSign cs)
  if startsNegative cs then -magnitude else magnitude

/-- The value of a float literal. -/
def Decimal.ofChars (cs : List Char) : Decimal :=
  let parts := FloatParts.ofChars (dropSign cs)
  let fraction := parts.fraction.getD []
  { negative := startsNegative cs
    coefficient := Text.numeral 10 (parts.whole ++ fraction)
    exponent := integerValue (parts.exponent.getD []) - fraction.length }

/-- The value of a float literal, if the text is one. -/
def Decimal.ofText? (s : String) : Option Decimal :=
  if isFloat s then some (.ofChars s.toList) else none

/-- How many decimal digits a number has; zero has none. -/
def digitCount (n : Nat) : Nat :=
  if n = 0 then 0 else (Nat.toDigits 10 n).length

end MarkupAudit.Number

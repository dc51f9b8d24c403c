import MarkupAudit.Number.Binary64

namespace MarkupAudit.Number

/-- What can be compared with bounds: a text or a number. -/
inductive Numeric where
  | text (s : String)
  | number (x : Binary64)

/-- The number to compare, if there is one. -/
def Numeric.value? : Numeric → Option Binary64
  | .text s => (Decimal.ofText? s).map Binary64.ofDecimal
  | .number x => if x = .nan then none else some x

/-- Whether the number lies between the bounds, both included. -/
def inRange (v : Numeric) (min max : Binary64) : Bool :=
  match v.value? with
  | some x => min.le x && x.le max
  | none => false

/-- Whether a text is a float literal between two natural numbers, judged by the double nearest to
its value. -/
def textInRange (s : String) (min max : Nat) : Bool :=
  inRange (.text s) (.ofNat min) (.ofNat max)

end MarkupAudit.Number

import MarkupAudit.Number.Binary64

namespace MarkupAudit.Number

/-- Significant digits and the place of the point: the value is `0.d₁d₂… · 10 ^ point`. -/
structure Digits where
  digits : List Char
  point : Int
  deriving DecidableEq, Repr

/-- Twice the ends of the interval of the unit counts that round to `units`, and whether the ends
belong to it. -/
def roundingInterval (units : Nat) : Nat × Nat × Bool :=
  let k := droppedBits units
  let above := Nat.pow 2 k
  let below := if k ≠ 0 ∧ units = Nat.pow 2 (52 + k) then Nat.pow 2 (k - 1) else above
  (2 * units - below, 2 * units + above, units / Nat.pow 2 k % 2 == 0)

/-- The least `p` with `units · 2 ^ -1074 < 10 ^ p`, searched upwards from `p` for so many steps. -/
def pointFrom (units : Nat) : Nat → Int → Int
  | 0, p => p
  | steps + 1, p =>
    let smaller : Bool :=
      match p with
      | .ofNat e => units < Nat.pow 10 e * Binary64.one
      | .negSucc e => units * Nat.pow 10 (e + 1) < Binary64.one
    if smaller then p else pointFrom units steps (p + 1)

/-- The place of the point of a positive count of units. -/
def pointOf (units : Nat) : Int :=
  let estimate : Int := ((units.log2 : Int) - 1074) * 30103 / 100000 - 1
  pointFrom units 4 estimate

/-- The whole number of steps of `10 ^ e` nearest below the value, and whether a count of such
steps lies in the rounding interval and how far it is from the value, in a common unit. -/
def onGrid (units : Nat) (e : Int) : Nat × (Nat → Option Nat) :=
  let (lo, hi, closed) := roundingInterval units
  let (scaleValue, scaleStep) : Nat × Nat :=
    match e with
    | .ofNat k => (1, Nat.pow 10 k * (2 * Binary64.one))
    | .negSucc k => (Nat.pow 10 (k + 1), 2 * Binary64.one)
  let value := 2 * units * scaleValue
  let inside (x : Nat) : Bool :=
    if closed then lo * scaleValue ≤ x && x ≤ hi * scaleValue
    else lo * scaleValue < x && x < hi * scaleValue
  (value / scaleStep, fun count =>
    let x := count * scaleStep
    if inside x then some (if x ≤ value then value - x else x - value) else none)

/-- The best digit string with at most so many digits: of the two neighbours on the grid, the one
inside the interval, and of two inside the nearer one, or the even one if they are equally near. -/
def withDigits? (units : Nat) (point : Int) (count : Nat) : Option Nat :=
  let (floor, distance?) := onGrid units (point - count)
  match distance? floor, distance? (floor + 1) with
  | some a, some b =>
    if a < b then some floor else if b < a then some (floor + 1) else some (floor + floor % 2)
  | some _, none => some floor
  | none, some _ => some (floor + 1)
  | none, none => none

/-- The shortest digits of a positive count of units: the fewest that read back as the same double,
and of these the nearest to the exact value. -/
def shortest (units : Nat) : Digits :=
  let point := pointOf units
  match (List.range 17).findSome? fun i => (withDigits? units point (i + 1)).map (i + 1, ·) with
  | none => ⟨['0'], 1⟩
  | some (count, n) =>
    let digits := Nat.toDigits 10 n
    let carried : Int := (digits.length : Int) - count
    ⟨(digits.reverse.dropWhile (· == '0')).reverse, point + carried⟩

/-- How a double is laid out: the exponents of its first digit that are written positionally. -/
structure Layout where
  leastPositional : Int
  greatestPositional : Int

/-- Settings are written positionally from `0.0001` up to, and without, ten to the sixteenth. -/
def Layout.settings : Layout := ⟨-4, 15⟩

/-- Lays out digits: positionally with a digit on both sides of the point, or as a significand and
an exponent of ten. -/
def Layout.digits (l : Layout) (d : Digits) : List Char :=
  let exponent := d.point - 1
  if l.leastPositional ≤ exponent ∧ exponent ≤ l.greatestPositional then
    match d.point with
    | .negSucc n => '0' :: '.' :: (List.replicate (n + 1) '0' ++ d.digits)
    | .ofNat 0 => '0' :: '.' :: d.digits
    | .ofNat p =>
      let whole := d.digits.take p ++ List.replicate (p - d.digits.length) '0'
      let fraction := d.digits.drop p
      whole ++ '.' :: (if fraction.isEmpty then ['0'] else fraction)
  else
    let significand :=
      match d.digits with
      | [] => []
      | c :: [] => [c]
      | c :: cs => c :: '.' :: cs
    significand ++ 'e' :: (toString exponent).toList

/-- The text of a double. -/
def Layout.text (l : Layout) : Binary64 → String
  | .nan => "NaN"
  | .infinite negative => if negative then "-inf" else "inf"
  | .finite negative units =>
    let digits := if units = 0 then ['0', '.', '0'] else l.digits (shortest units)
    String.ofList (if negative then '-' :: digits else digits)

end MarkupAudit.Number

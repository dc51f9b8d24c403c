import MarkupAudit.Number.Binary64
import MarkupAudit.Toml.DateTime
import MarkupAudit.Toml.Value

namespace MarkupAudit.Toml

/-- Digits in groups: one or more digits, single underscores only between two of them. Answers with
the digits alone. -/
def ungroup? (isDigit : Char → Bool) : List Char → Option (List Char)
  | [] => none
  | [c] => if isDigit c then some [c] else none
  | c :: '_' :: rest =>
    if isDigit c then (ungroup? isDigit rest).map (c :: ·) else none
  | c :: rest => if isDigit c then (ungroup? isDigit rest).map (c :: ·) else none

/-- Decimal digits in groups without an idle leading zero. -/
def decimal? (cs : List Char) : Option (List Char) := do
  let ds ← ungroup? Char.isDigit cs
  if ds.length = 1 ∨ ds.head? ≠ some '0' then some ds else none

/-- An integer, if it fits 64 bits with a sign. -/
def fitting? (n : Int) : Option Toml :=
  if -0x8000000000000000 ≤ n ∧ n < 0x8000000000000000 then some (.integer n) else none

/-- An integer in a base other than ten. -/
def inBase? (base : Nat) (cs : List Char) : Option Toml := do
  let ds ← ungroup? (fun c => (Text.hexDigit? c).any (· < base)) cs
  fitting? (Text.numeral base ds)

/-- An integer. -/
def integer? (cs : List Char) : Option Toml :=
  match cs with
  | '0' :: 'x' :: rest => inBase? 16 rest
  | '0' :: 'o' :: rest => inBase? 8 rest
  | '0' :: 'b' :: rest => inBase? 2 rest
  | _ => do
    let ds ← decimal? (Number.dropSign cs)
    let n : Int := Text.numeral 10 ds
    fitting? (if Number.startsNegative cs then -n else n)

/-- A float with a fraction, an exponent or both. One that is too large is refused, unless it is
negative. -/
def float? (cs : List Char) : Option Toml := do
  let parts := Number.FloatParts.ofChars (Number.dropSign cs)
  let whole ← decimal? parts.whole
  let fraction ← optional? (ungroup? Char.isDigit) parts.fraction
  let exponent ← optional? (fun e => ungroup? Char.isDigit (Number.dropSign e)) parts.exponent
  if parts.fraction.isNone && parts.exponent.isNone then none
  else
    let shift : Int := Text.numeral 10 exponent
    let down := parts.exponent.any Number.startsNegative
    let value : Number.Binary64 := .ofDecimal {
      negative := Number.startsNegative cs
      coefficient := Text.numeral 10 (whole ++ fraction)
      exponent := (if down then -shift else shift) - fraction.length }
    if value = .infinite false then none else some (.float value)
where
  optional? (read? : List Char → Option (List Char)) : Option (List Char) → Option (List Char)
    | none => some []
    | some cs => read? cs

/-- A word: a truth value, or the name of a float. -/
def word? (cs : List Char) : Option Toml :=
  let negative := Number.startsNegative cs
  if cs = "true".toList then some (.boolean true)
  else if cs = "false".toList then some (.boolean false)
  else if Number.dropSign cs = "inf".toList then some (.float (.infinite negative))
  else if Number.dropSign cs = "nan".toList then some (.float .nan)
  else none

/-- An unquoted scalar. -/
def unquoted? (cs : List Char) : Option Toml :=
  word? cs <|> (datetime? cs).map .datetime <|> float? cs <|> integer? cs

/-- Whether a character can stand in an unquoted scalar. -/
def isScalarChar (c : Char) : Bool :=
  c.isAlphanum || c == '+' || c == '-' || c == '.' || c == ':' || c == '_'

/-- Whether a time follows a date and one blank. -/
def timeFollows (scalar rest : List Char) : Bool :=
  (date? scalar).any (·.2.isEmpty) &&
    match rest with
    | ' ' :: a :: b :: ':' :: _ => a.isDigit && b.isDigit
    | _ => false

/-- Cuts an unquoted scalar off the start. A blank belongs to it only between a date and a time. -/
def takeScalar (cs : List Char) : List Char × List Char :=
  let (scalar, rest) := (cs.takeWhile isScalarChar, cs.dropWhile isScalarChar)
  if timeFollows scalar rest then
    let time := rest.drop 1
    (scalar ++ ' ' :: time.takeWhile isScalarChar, time.dropWhile isScalarChar)
  else (scalar, rest)

end MarkupAudit.Toml

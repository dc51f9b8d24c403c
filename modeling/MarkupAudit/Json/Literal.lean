import MarkupAudit.Json.Basic
import MarkupAudit.Text.Ascii

namespace MarkupAudit.Json

/-- The largest significand that is kept exactly while a number is read. -/
def wordMax : Nat := 0xFFFFFFFFFFFFFFFF

/-- Reads digits into a significand as long as it fits a word: the significand, and the digits that
found no room. -/
def significand (start : Nat) : List Char → Nat × List Char
  | [] => (start, [])
  | c :: rest =>
    let next := start * 10 + Text.numeral 10 [c]
    if next ≤ wordMax then significand next rest else (start, c :: rest)

/-- Divides by ten to the 308th until the exponent is within reach or nothing is left. -/
def scaleDown : Nat → Number.Binary64 → Nat → Number.Binary64
  | 0, x, _ => x
  | steps + 1, x, exponent =>
    if exponent ≤ 308 then x.div (.tenTo exponent)
    else scaleDown steps (x.div (.tenTo 308)) (exponent - 308)

/-- The number `significand · 10 ^ exponent`, each operation rounded, unless it is too large. -/
def scaled (negative : Bool) (significand : Nat) (exponent : Int) : Json :=
  let x : Number.Binary64 := .ofNat significand
  let signed : Number.Binary64 → Json
    | .finite _ units => .real (.finite negative units)
    | _ => .unreadable
  match exponent with
  | .ofNat e =>
    if significand = 0 then signed x
    else if e ≤ 308 then signed (x.mul (.tenTo e))
    else .unreadable
  | .negSucc e => signed (scaleDown 4 x (e + 1))

/-- An integer, or the double nearest to one that fits no machine word. Minus zero is a double. -/
def wholeNumber (negative : Bool) (digits : List Char) : Json :=
  match significand 0 digits with
  | (n, []) =>
    if !negative then .integer n
    else if n = 0 ∨ 0x8000000000000000 < n then scaled true n 0
    else .integer (-n)
  | (n, rest) => scaled negative n rest.length

/-- The least exponent that is not read digit by digit. -/
def exponentLimit : Nat := 0x80000000

/-- A number with a fraction or an exponent. Digits beyond a word are dropped; the whole ones among
them count in the exponent. -/
def fractionalNumber (negative : Bool) (whole fraction exponent : List Char) : Json :=
  let (high, overflow) := significand 0 whole
  let (n, dropped) := significand high fraction
  let start : Int := (overflow.length : Int) - ((fraction.length - dropped.length : Nat) : Int)
  let shift := Text.numeral 10 (Number.dropSign exponent)
  let down := Number.startsNegative exponent
  if exponentLimit ≤ shift then
    if n = 0 ∨ down then .real (.finite negative 0) else .unreadable
  else scaled negative n (if down then start - shift else start + shift)

/-- Reads a number: no leading zero before other digits, digits on both sides of a point, digits
after an exponent mark. -/
def number? (cs : List Char) : Option Json :=
  let negative := Number.startsNegative cs
  let parts := Number.FloatParts.ofChars (if negative then cs.drop 1 else cs)
  let digits (ds : List Char) : Bool := !ds.isEmpty && ds.all Char.isDigit
  let wholeOk := digits parts.whole && (parts.whole.length == 1 || parts.whole.head? != some '0')
  let fractionOk := (parts.fraction.map digits).getD true
  let exponentOk := (parts.exponent.map Number.integerChars).getD true
  if wholeOk && fractionOk && exponentOk then
    match parts.fraction, parts.exponent with
    | none, none => some (wholeNumber negative parts.whole)
    | fraction, exponent =>
      some (fractionalNumber negative parts.whole (fraction.getD []) (exponent.getD []))
  else none

/-- What a string holds at one place: a character, or a surrogate written by an escape. -/
inductive Unit16 where
  | char (c : Char)
  | high (n : Nat)
  | low (n : Nat)

/-- The unit that an escape with four hexadecimal digits stands for. -/
def Unit16.ofCode (n : Nat) : Unit16 :=
  if 0xD800 ≤ n ∧ n < 0xDC00 then .high (n - 0xD800)
  else if 0xDC00 ≤ n ∧ n < 0xE000 then .low (n - 0xDC00)
  else .char (Char.ofNat n)

/-- Joins surrogate pairs; half a pair has no value. -/
def joinUnits : List Unit16 → Option (List Char)
  | [] => some []
  | .char c :: rest => (joinUnits rest).map (c :: ·)
  | .high h :: .low l :: rest =>
    (joinUnits rest).map (Char.ofNat (0x10000 + h * 0x400 + l) :: ·)
  | .high _ :: _ => none
  | .low _ :: _ => none

/-- The character that a one-letter escape stands for. -/
def escaped? : Char → Option Char
  | '"' => some '"'
  | '\\' => some '\\'
  | '/' => some '/'
  | 'b' => some '\x08'
  | 'f' => some '\x0c'
  | 'n' => some '\n'
  | 'r' => some '\r'
  | 't' => some '\t'
  | _ => none

end MarkupAudit.Json

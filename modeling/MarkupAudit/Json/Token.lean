import MarkupAudit.Json.Literal

namespace MarkupAudit.Json

/-- A token. A string without a value is `text none`. -/
inductive Token where
  | openArray
  | closeArray
  | openObject
  | closeObject
  | comma
  | colon
  | text (s : Option String)
  | scalar (j : Json)

/-- Where the scanner stands. What it has gathered stands newest first. -/
inductive Scan where
  | between
  | word (cs : List Char)
  | number (cs : List Char)
  | string (units : List Unit16)
  | escape (units : List Unit16)
  | code (units : List Unit16) (digits : List Char)

/-- The blanks between tokens. -/
def isSpace (c : Char) : Bool :=
  c == ' ' || c == '\t' || c == '\n' || c == '\r'

/-- Whether the character can stand in a number. -/
def isNumberChar (c : Char) : Bool :=
  c.isDigit || c == '-' || c == '+' || c == '.' || c == 'e' || c == 'E'

/-- The value that a word names. -/
def word? (cs : List Char) : Option Json :=
  if cs = "null".toList then some .null
  else if cs = "true".toList then some (.bool true)
  else if cs = "false".toList then some (.bool false)
  else none

/-- Reads a character that starts something new: the token that it is, if it is a whole one, and
where the scanner stands after it. -/
def Scan.start? (c : Char) : Option (List Token × Scan) :=
  match c with
  | '[' => some ([.openArray], .between)
  | ']' => some ([.closeArray], .between)
  | '\x7b' => some ([.openObject], .between)
  | '\x7d' => some ([.closeObject], .between)
  | ',' => some ([.comma], .between)
  | ':' => some ([.colon], .between)
  | '"' => some ([], .string [])
  | c =>
    if isSpace c then some ([], .between)
    else if c.isDigit || c == '-' then some ([], .number [c])
    else if c.isLower then some ([], .word [c])
    else none

/-- Ends a word or a number. -/
def Scan.finish? : Scan → Option (List Token)
  | .between => some []
  | .word cs => (word? cs.reverse).map fun j => [.scalar j]
  | .number cs => (number? cs.reverse).map fun j => [.scalar j]
  | _ => none

/-- Reads one character inside a string. -/
def Scan.inString? (units : List Unit16) (c : Char) : Option (List Token × Scan) :=
  if c == '"' then some ([.text ((joinUnits units.reverse).map String.ofList)], .between)
  else if c == '\\' then some ([], .escape units)
  else if c.toNat < 0x20 then none
  else some ([], .string (.char c :: units))

/-- Reads one character: the tokens that it completes, and where the scanner stands after it. -/
def Scan.step? (s : Scan) (c : Char) : Option (List Token × Scan) :=
  match s with
  | .between => start? c
  | .word cs => if c.isLower then some ([], .word (c :: cs)) else next s
  | .number cs => if isNumberChar c then some ([], .number (c :: cs)) else next s
  | .string units => inString? units c
  | .escape units =>
    if c == 'u' then some ([], .code units [])
    else (escaped? c).map fun d => ([], .string (.char d :: units))
  | .code units digits =>
    if (Text.hexDigit? c).isNone then none
    else
      let digits := digits ++ [c]
      if digits.length < 4 then some ([], .code units digits)
      else some ([], .string (.ofCode (Text.numeral 16 digits) :: units))
where
  next (s : Scan) : Option (List Token × Scan) := do
    let done ← s.finish?
    let (tokens, s) ← start? c
    return (done ++ tokens, s)

/-- The tokens of a text. -/
def tokens? (text : String) : Option (List Token) := do
  let (found, s) ← text.toList.foldlM (fun ((found, s) : List Token × Scan) c => do
    let (done, s) ← s.step? c
    return (done.reverse ++ found, s)) ([], .between)
  let last ← s.finish?
  return found.reverse ++ last

end MarkupAudit.Json

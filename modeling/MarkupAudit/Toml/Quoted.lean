import MarkupAudit.Text.Ascii

namespace MarkupAudit.Toml

/-- Puts a character in front of the text that was read. -/
def prepend (c : Char) : Option (List Char × List Char) → Option (List Char × List Char) :=
  Option.map fun (cs, rest) => (c :: cs, rest)

/-- Whether a character may stand unescaped on a line: a tab, or no control character. -/
def isLineChar (c : Char) : Bool :=
  c == '\t' || (0x20 ≤ c.toNat && c.toNat != 0x7F)

/-- The character of a code, unless the code is half a surrogate pair or too large. -/
def scalar? (digits : List Char) : Option Char :=
  if digits.all fun c => (Text.hexDigit? c).isSome then
    let n := Text.numeral 16 digits
    if n < 0xD800 ∨ (0xDFFF < n ∧ n < 0x110000) then some (Char.ofNat n) else none
  else none

/-- The character that a one-letter escape stands for. -/
def escaped? : Char → Option Char
  | 'b' => some '\x08'
  | 't' => some '\t'
  | 'n' => some '\n'
  | 'f' => some '\x0c'
  | 'r' => some '\r'
  | '"' => some '"'
  | '\\' => some '\\'
  | _ => none

/-- A basic string on one line. Like every reader of quoted text it takes what follows the opening
quotes, and answers with the text and with what follows the closing ones. -/
def basic : List Char → Option (List Char × List Char)
  | [] => none
  | '"' :: rest => some ([], rest)
  | '\\' :: 'u' :: a :: b :: c :: d :: rest => do
    let ch ← scalar? [a, b, c, d]
    prepend ch (basic rest)
  | '\\' :: 'U' :: a :: b :: c :: d :: e :: f :: g :: h :: rest => do
    let ch ← scalar? [a, b, c, d, e, f, g, h]
    prepend ch (basic rest)
  | '\\' :: c :: rest => do
    let ch ← escaped? c
    prepend ch (basic rest)
  | c :: rest => if isLineChar c then prepend c (basic rest) else none

/-- A literal string on one line. -/
def literal : List Char → Option (List Char × List Char)
  | [] => none
  | '\x27' :: rest => some ([], rest)
  | c :: rest => if isLineChar c then prepend c (literal rest) else none

/-- Whether nothing but blanks stands before the end of the line. -/
def endsLine : List Char → Bool
  | ' ' :: rest => endsLine rest
  | '\t' :: rest => endsLine rest
  | '\n' :: _ => true
  | '\r' :: '\n' :: _ => true
  | _ => false

/-- A basic string over several lines. One or two quotes may stand before the closing ones. Behind a
backslash at the end of a line, blanks and line ends are dropped as long as `trim` says so. -/
def basicLines (trim : Bool) : List Char → Option (List Char × List Char)
  | [] => none
  | '"' :: '"' :: '"' :: '"' :: '"' :: rest => some (['"', '"'], rest)
  | '"' :: '"' :: '"' :: '"' :: rest => some (['"'], rest)
  | '"' :: '"' :: '"' :: rest => some ([], rest)
  | '"' :: rest => prepend '"' (basicLines false rest)
  | '\r' :: '\n' :: rest =>
    if trim then basicLines true rest else prepend '\n' (basicLines false rest)
  | '\\' :: 'u' :: a :: b :: c :: d :: rest => do
    let ch ← scalar? [a, b, c, d]
    prepend ch (basicLines false rest)
  | '\\' :: 'U' :: a :: b :: c :: d :: e :: f :: g :: h :: rest => do
    let ch ← scalar? [a, b, c, d, e, f, g, h]
    prepend ch (basicLines false rest)
  | '\\' :: c :: rest =>
    if endsLine (c :: rest) then basicLines true (c :: rest)
    else do
      let ch ← escaped? c
      prepend ch (basicLines false rest)
  | c :: rest =>
    if trim && (c == ' ' || c == '\t' || c == '\n') then basicLines true rest
    else if c == '\n' || isLineChar c then prepend c (basicLines false rest)
    else none

/-- A literal string over several lines. One or two quotes may stand before the closing ones. -/
def literalLines : List Char → Option (List Char × List Char)
  | [] => none
  | '\x27' :: '\x27' :: '\x27' :: '\x27' :: '\x27' :: rest => some (['\x27', '\x27'], rest)
  | '\x27' :: '\x27' :: '\x27' :: '\x27' :: rest => some (['\x27'], rest)
  | '\x27' :: '\x27' :: '\x27' :: rest => some ([], rest)
  | '\r' :: '\n' :: rest => prepend '\n' (literalLines rest)
  | c :: rest =>
    if c == '\n' || isLineChar c then prepend c (literalLines rest) else none

/-- Drops a line end that follows opening quotes directly. -/
def dropLineEnd : List Char → List Char
  | '\n' :: rest => rest
  | '\r' :: '\n' :: rest => rest
  | cs => cs

/-- A string of any of the four forms. -/
def quoted? : List Char → Option (String × List Char)
  | '"' :: '"' :: '"' :: rest => text (basicLines false (dropLineEnd rest))
  | '"' :: rest => text (basic rest)
  | '\x27' :: '\x27' :: '\x27' :: rest => text (literalLines (dropLineEnd rest))
  | '\x27' :: rest => text (literal rest)
  | _ => none
where
  text : Option (List Char × List Char) → Option (String × List Char) :=
    Option.map fun (cs, rest) => (String.ofList cs, rest)

end MarkupAudit.Toml

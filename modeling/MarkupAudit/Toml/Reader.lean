import MarkupAudit.Toml.Quoted
import MarkupAudit.Toml.Scalar
import MarkupAudit.Toml.Table

namespace MarkupAudit.Toml

/-- Drops blanks on a line. -/
def skipBlanks (cs : List Char) : List Char :=
  cs.dropWhile fun c => c == ' ' || c == '\t'

/-- Drops a comment, if one stands here. Its characters must be allowed on a line. -/
def skipComment? : List Char → Option (List Char)
  | '#' :: rest =>
    let text := rest.takeWhile (· != '\n')
    let text :=
      if text.getLast? = some '\r' ∧ text.length < rest.length then text.dropLast else text
    if text.all isLineChar then some (rest.drop text.length) else none
  | cs => some cs

/-- The end of a line or of the document, after blanks and a comment. -/
def lineEnd? (cs : List Char) : Option (List Char) := do
  match ← skipComment? (skipBlanks cs) with
  | [] => some []
  | '\n' :: rest => some rest
  | '\r' :: '\n' :: rest => some rest
  | _ => none

/-- Drops blanks, comments and line ends, as many as `fuel` allows for. -/
def skipLines? : Nat → List Char → Option (List Char)
  | 0, cs => some cs
  | fuel + 1, cs => do
    match ← skipComment? (skipBlanks cs) with
    | '\n' :: rest => skipLines? fuel rest
    | '\r' :: '\n' :: rest => skipLines? fuel rest
    | cs => some cs

/-- Whether a character can stand in a bare key. -/
def isBareChar (c : Char) : Bool :=
  c.isAlphanum || c == '_' || c == '-'

/-- One part of a key: bare, or quoted on one line. -/
def keyPart? : List Char → Option (String × List Char)
  | '"' :: rest => (basic rest).map fun (cs, rest) => (String.ofList cs, rest)
  | '\x27' :: rest => (literal rest).map fun (cs, rest) => (String.ofList cs, rest)
  | cs =>
    let bare := cs.takeWhile isBareChar
    if bare.isEmpty then none else some (String.ofList bare, cs.dropWhile isBareChar)

/-- How deep values may be nested, and how many parts a key may have, and one more. -/
def nestingLimit : Nat := 80

/-- A key: parts divided by dots, with blanks around them. -/
def key? : Nat → List Char → Option (List String × List Char)
  | 0, _ => none
  | parts + 1, cs => do
    let (part, rest) ← keyPart? (skipBlanks cs)
    match skipBlanks rest with
    | '.' :: rest => (key? parts rest).map fun (key, rest) => (part :: key, rest)
    | rest => some ([part], rest)

mutual

/-- A value, nested at most `depth` deep. -/
def value? : Nat → Nat → List Char → Option (Toml × List Char)
  | 0, _, _ => none
  | fuel + 1, depth, cs =>
    match cs with
    | '[' :: rest =>
      if depth ≤ 1 then none
      else (items? fuel (depth - 1) rest).map fun (items, rest) => (.array items, rest)
    | '\x7b' :: rest =>
      if depth ≤ 1 then none
      else do
        let (entries, rest) ←
          match skipBlanks rest with
          | '\x7d' :: rest => some ([], rest)
          | rest => pairs? fuel (depth - 1) [] rest
        return (.table (entriesToValues entries), rest)
    | '"' :: _ => (quoted? cs).map fun (s, rest) => (.string s, rest)
    | '\x27' :: _ => (quoted? cs).map fun (s, rest) => (.string s, rest)
    | _ =>
      let (scalar, rest) := takeScalar cs
      (unquoted? scalar).map (·, rest)

/-- The items of an array up to its closing bracket. -/
def items? : Nat → Nat → List Char → Option (List Toml × List Char)
  | 0, _, _ => none
  | fuel + 1, depth, cs => do
    match ← skipLines? cs.length cs with
    | ']' :: rest => some ([], rest)
    | cs =>
      let (v, rest) ← value? fuel depth cs
      match ← skipLines? rest.length rest with
      | ']' :: rest => some ([v], rest)
      | ',' :: rest => (items? fuel depth rest).map fun (items, rest) => (v :: items, rest)
      | _ => none

/-- The entries of an inline table up to its closing brace, after the given ones. -/
def pairs? : Nat → Nat → Entries → List Char → Option (Entries × List Char)
  | 0, _, _, _ => none
  | fuel + 1, depth, entries, cs => do
    let (key, rest) ← key? (nestingLimit - 1) cs
    match rest with
    | '=' :: rest =>
      let (v, rest) ← value? fuel depth (skipBlanks rest)
      let entries ← addValue key v .defined entries
      match skipBlanks rest with
      | '\x7d' :: rest => some (entries, rest)
      | ',' :: rest => pairs? fuel depth entries rest
      | _ => none
    | _ => none

end

/-- A header: the key between brackets, which take up the whole start of the line. -/
def header? (closing : List Char) (cs : List Char) : Option (List String × List Char) := do
  let (key, rest) ← key? (nestingLimit - 1) cs
  let rest ← closing.foldlM (fun rest c => expect? c rest) rest
  return (key, ← lineEnd? rest)

/-- Reads lines into the entries of the document; `here` is the header that values belong under. -/
def lines? : Nat → List String → Entries → List Char → Option Entries
  | 0, _, entries, cs => if cs.isEmpty then some entries else none
  | fuel + 1, here, entries, cs => do
    match skipBlanks cs with
    | [] => some entries
    | '[' :: '[' :: rest =>
      let (key, rest) ← header? [']', ']'] rest
      lines? fuel key (← openElement key entries) rest
    | '[' :: rest =>
      let (key, rest) ← header? [']'] rest
      lines? fuel key (← openTable key entries) rest
    | c :: rest =>
      if c = '#' ∨ c = '\n' ∨ c = '\r' then lines? fuel here entries (← lineEnd? (c :: rest))
      else
        let (key, rest) ← key? (nestingLimit - 1) (c :: rest)
        let rest ← expect? '=' rest
        let (v, rest) ← value? (2 * rest.length + 2) nestingLimit (skipBlanks rest)
        let entries ← descend .parent (addValue key v) here .defined entries
        lines? fuel here entries (← lineEnd? rest)

/-- Reads a document; a byte-order mark at its start is dropped. -/
def read? (text : String) : Option (List (String × Toml)) :=
  let cs := text.toList
  let cs := if cs.head? = some '\ufeff' then cs.drop 1 else cs
  (lines? (cs.length + 1) [] [] cs).map entriesToValues

end MarkupAudit.Toml

import MarkupAudit.Json.Basic
import MarkupAudit.Number.Shortest

namespace MarkupAudit.Json

/-- A hexadecimal digit in lower case. -/
def hexChar (n : Nat) : Char :=
  (Nat.toDigits 16 n).getD 0 '0'

/-- A character inside a string. Quotes, backslashes and control characters are escaped. -/
def writeChar (c : Char) : List Char :=
  match c with
  | '"' => ['\\', '"']
  | '\\' => ['\\', '\\']
  | '\x08' => ['\\', 'b']
  | '\x0c' => ['\\', 'f']
  | '\n' => ['\\', 'n']
  | '\r' => ['\\', 'r']
  | '\t' => ['\\', 't']
  | c =>
    if c.toNat < 0x20 then
      ['\\', 'u', '0', '0', hexChar (c.toNat / 16), hexChar (c.toNat % 16)]
    else [c]

/-- A string with its quotes. -/
def writeString (s : String) : String :=
  String.ofList ('"' :: (s.toList.flatMap writeChar ++ ['"']))

/-- The text of a value that is neither array nor object. -/
def writeScalar : Json → String
  | .bool true => "true"
  | .bool false => "false"
  | .integer n => toString n
  | .real x => Number.Layout.settings.text x
  | .string s => writeString s
  | _ => "null"

mutual

/-- The text of a value on one line. -/
def compact : Json → String
  | .array items => "[" ++ String.intercalate "," (compactItems items) ++ "]"
  | .object members => "\x7b" ++ String.intercalate "," (compactMembers members) ++ "\x7d"
  | j => writeScalar j

/-- The texts of items. -/
def compactItems : List Json → List String
  | [] => []
  | j :: rest => compact j :: compactItems rest

/-- The texts of members. -/
def compactMembers : List (String × Json) → List String
  | [] => []
  | (key, j) :: rest => (writeString key ++ ":" ++ compact j) :: compactMembers rest

end

/-- A line break and the indentation at a depth: two blanks a level. -/
def lineBreak (depth : Nat) : String :=
  "\n" ++ String.ofList (List.replicate (2 * depth) ' ')

/-- Brackets around parts that stand on lines of their own. -/
def block (opening closing : String) (depth : Nat) (parts : List String) : String :=
  if parts.isEmpty then opening ++ closing
  else
    opening ++ lineBreak (depth + 1) ++ String.intercalate ("," ++ lineBreak (depth + 1)) parts ++
      lineBreak depth ++ closing

mutual

/-- The text of a value at a depth, laid out over several lines. -/
def indented (depth : Nat) : Json → String
  | .array items => block "[" "]" depth (indentedItems (depth + 1) items)
  | .object members => block "\x7b" "\x7d" depth (indentedMembers (depth + 1) members)
  | j => writeScalar j

/-- The texts of items. -/
def indentedItems (depth : Nat) : List Json → List String
  | [] => []
  | j :: rest => indented depth j :: indentedItems depth rest

/-- The texts of members. -/
def indentedMembers (depth : Nat) : List (String × Json) → List String
  | [] => []
  | (key, j) :: rest => (writeString key ++ ": " ++ indented depth j) :: indentedMembers depth rest

end

/-- The text of a value, laid out over several lines. -/
def pretty (j : Json) : String :=
  indented 0 j

end MarkupAudit.Json

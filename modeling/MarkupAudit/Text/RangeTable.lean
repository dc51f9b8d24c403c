import MarkupAudit.Text.Ascii

namespace MarkupAudit.Text

/-- Ranges of code points, both ends included. -/
abbrev RangeTable : Type := List (Nat × Nat)

namespace RangeTable

/-- Whether the code point lies in one of the ranges. -/
def contains (t : RangeTable) (n : Nat) : Bool :=
  List.any t fun (first, last) => first ≤ n && n ≤ last

/-- Reads one range. -/
def readRange (word : List Char) : Nat × Nat :=
  match word.splitOnP (· == '-') with
  | lo :: hi :: _ => (numeral 16 lo, numeral 16 hi)
  | _ => (numeral 16 word, numeral 16 word)

/-- Reads a line of a table: ranges divided by single spaces, each `LO-HI` or `LO` in hexadecimal.
-/
def ofLine (line : String) : RangeTable :=
  (line.toList.splitOnP (· == ' ')).map readRange

/-- Reads a table, line by line. -/
def ofLines (lines : List String) : RangeTable :=
  lines.flatMap ofLine

end RangeTable

end MarkupAudit.Text

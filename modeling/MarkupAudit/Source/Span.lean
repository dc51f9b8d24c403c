import MarkupAudit.Json.Decode

namespace MarkupAudit

/-- A place in a source file and the text that stands there. -/
structure Span where
  line : UInt64 := 0
  column : UInt64 := 0
  /-- The byte offset. -/
  offset : UInt64 := 0
  raw : String := ""
  deriving DecidableEq, Repr

namespace Span

/-- Reads a span; every field may be absent. -/
def ofJson? (j : Json) : Option Span := do
  match (← j.record? ["line", "column", "offset", "raw"]).fields with
  | [line, column, offset, raw] =>
    return {
      line := ← Json.defaulting 0 Json.word64? line
      column := ← Json.defaulting 0 Json.word64? column
      offset := ← Json.defaulting 0 Json.word64? offset
      raw := ← Json.defaulting "" Json.string? raw }
  | _ => none

/-- The members that write a span. -/
def members (s : Span) : List (String × Json) :=
  [("line", Json.ofWord s.line), ("column", Json.ofWord s.column),
    ("offset", Json.ofWord s.offset), ("raw", .string s.raw)]

/-- Writes a span. -/
def toJson (s : Span) : Json :=
  .object s.members

@[simp]
theorem ofJson?_toJson (s : Span) : ofJson? s.toJson = some s := by
  simp [ofJson?, toJson, members, Json.record?, Json.single?, Json.defaulting]

end Span

end MarkupAudit

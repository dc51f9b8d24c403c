import MarkupAudit.Report.Severity
import MarkupAudit.Source.Span

namespace MarkupAudit

/-- A place in a file and the text that stands there. -/
structure Location where
  file : String
  line : UInt64
  column : UInt64
  /-- The byte offset. -/
  offset : UInt64
  /-- The length of the text in bytes. -/
  length : Nat
  raw : String
  deriving DecidableEq, Repr

namespace Location

/-- The location of a span. -/
def ofSpan (file : String) (s : Span) : Location where
  file := file
  line := s.line
  column := s.column
  offset := s.offset
  length := s.raw.utf8ByteSize
  raw := s.raw

/-- A location known by line and column only. -/
def ofPosition (file : String) (line column : UInt64) : Location where
  file := file
  line := line
  column := column
  offset := 0
  length := 0
  raw := ""

/-- Reads a location; every field has to be there. -/
def ofJson? (j : Json) : Option Location := do
  match (← j.record? ["file", "line", "column", "offset", "length", "raw"]).fields with
  | [file, line, column, offset, length, raw] =>
    return {
      file := ← Json.required Json.string? file
      line := ← Json.required Json.word64? line
      column := ← Json.required Json.word64? column
      offset := ← Json.required Json.word64? offset
      length := ← Json.required Json.count? length
      raw := ← Json.required Json.string? raw }
  | _ => none

/-- Writes a location. -/
def toJson (l : Location) : Json :=
  .object [("file", .string l.file), ("line", Json.ofWord l.line),
    ("column", Json.ofWord l.column), ("offset", Json.ofWord l.offset),
    ("length", Json.ofCount l.length), ("raw", .string l.raw)]

end Location

/-- A finding of a rule. -/
structure Violation where
  code : String
  rule : String
  severity : Severity
  location : Location
  message : String
  suggestion : Option String := none
  deriving DecidableEq, Repr

namespace Violation

/-- The violation on one line. -/
def display (v : Violation) : String :=
  v.location.file ++ ":" ++ toString v.location.line.toNat ++ ":" ++
    toString v.location.column.toNat ++ ": " ++ v.severity.name ++ " [" ++ v.code ++ "] " ++
    v.message

/-- Whether the violation stands no later in its file than another. -/
def noLater (v w : Violation) : Bool :=
  v.location.line < w.location.line ||
    (v.location.line == w.location.line && v.location.column ≤ w.location.column)

/-- Reads a suggestion. -/
def suggestionOfJson? (j : Json) : Option String := do
  match (← j.record? ["message"]).fields with
  | [message] => Json.required Json.string? message
  | _ => none

/-- Reads a violation. -/
def ofJson? (j : Json) : Option Violation := do
  let names := ["code", "rule", "severity", "location", "message", "suggestion"]
  match (← j.record? names).fields with
  | [code, rule, severity, location, message, suggestion] =>
    return {
      code := ← Json.required Json.string? code
      rule := ← Json.required Json.string? rule
      severity := ← Json.required Severity.ofJson? severity
      location := ← Json.required Location.ofJson? location
      message := ← Json.required Json.string? message
      suggestion := ← Json.optional suggestionOfJson? suggestion }
  | _ => none

/-- Writes a violation, without an absent suggestion. -/
def toJson (v : Violation) : Json :=
  .object (
    [("code", .string v.code), ("rule", .string v.rule), ("severity", .string v.severity.name),
      ("location", v.location.toJson), ("message", .string v.message)] ++
    (v.suggestion.map fun s => ("suggestion", Json.object [("message", .string s)])).toList)

end Violation

end MarkupAudit

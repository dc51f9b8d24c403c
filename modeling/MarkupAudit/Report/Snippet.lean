import MarkupAudit.Guarded
import MarkupAudit.Report.Violation

namespace MarkupAudit

/-- A flagged text at its place in a file. -/
structure Snippet where
  name : String
  raw : String
  line : UInt64
  column : UInt64
  deriving DecidableEq, Repr

namespace Snippet

/-- What is asked for: `length` bytes from `offset` on, with so many lines before and after. -/
structure Query where
  offset : Nat
  length : Nat
  before : Nat
  after : Nat

/-- Where the last byte asked for stands. -/
def Query.last (q : Query) : Nat :=
  (q.offset + q.length) % UInt64.size - 1

/-- How far a text is read. -/
structure Progress where
  offset : Nat := 0
  /-- The line ends so far. -/
  lineCount : Nat := 0
  /-- The line and the column where the part to be shown starts. -/
  line : Nat := 0
  column : Nat := 0
  /-- Where the current line starts. -/
  lineStart : Nat := 0
  /-- Where the lines before the part start, as many as are asked for, the first one first. -/
  starts : List Nat := []
  /-- The lines after the part. -/
  linesAfter : Nat := 0
  /-- Whether the last byte asked for is read. -/
  past : Bool := false
  /-- Whether a line end was read behind it. -/
  pastLine : Bool := false
  /-- Whether all is read that is to be shown. -/
  finished : Bool := false

/-- Ends the reading behind the current byte. -/
def Progress.finish (p : Progress) : Progress :=
  { p with offset := p.offset + 1, finished := true }

/-- A line end before the part: the lines before it move on by one. -/
def Progress.lineBefore (p : Progress) (q : Query) : Progress :=
  let starts := p.starts ++ [p.lineStart]
  if q.before < starts.length then
    { p with column := 0, starts := starts.drop 1, line := p.line + 1 }
  else { p with column := 0, starts }

/-- A line end behind the part. -/
def Progress.lineAfter (p : Progress) (q : Query) : Progress :=
  let p := if p.pastLine then { p with column := 0, linesAfter := p.linesAfter + 1 }
    else { p with column := 0, pastLine := true }
  if q.after ≤ p.linesAfter then p.finish else p

/-- A line end. -/
def Progress.lineEnd (p : Progress) (q : Query) : Progress :=
  let p := { p with lineCount := p.lineCount + 1 }
  let p :=
    if p.offset < q.offset then p.lineBefore q
    else if (q.offset + (q.length - 1)) % UInt64.size ≤ p.offset && p.past then p.lineAfter q
    else p
  if p.finished then p else { p with lineStart := p.offset + 1 }

/-- A byte that ends no line. -/
def Progress.byte (p : Progress) (q : Query) : Progress :=
  if p.offset < q.offset then { p with column := p.column + 1 } else p

/-- Goes on behind the current byte, unless all is read. -/
def Progress.next (p : Progress) (q : Query) : Progress :=
  if p.finished then p
  else if q.last ≤ p.offset then
    let p := { p with past := true }
    if q.after ≤ p.linesAfter then p.finish else { p with offset := p.offset + 1 }
  else { p with offset := p.offset + 1 }

/-- Reads a text by its bytes. A carriage return, a line feed, or one right before the other ends a
line. -/
def scan (q : Query) (p : Progress) : List UInt8 → Progress
  | [] => p
  | 13 :: 10 :: rest =>
    if p.finished then p else scan q ((({ p with offset := p.offset + 1 }).lineEnd q).next q) rest
  | c :: rest =>
    if p.finished then p
    else if c == 13 || c == 10 then scan q ((p.lineEnd q).next q) rest
    else scan q ((p.byte q).next q) rest

/-- A part of a text, with lines around it. -/
structure Part where
  data : List UInt8
  offset : Nat
  line : UInt64
  column : UInt64
  lineCount : Nat
  deriving DecidableEq, Repr

/-- Reads a part, unless it goes beyond the text. Lines and columns count from the place of the
snippet; only the first line of the text is moved by its column. -/
def read? (s : Snippet) (q : Query) : Guarded (Option Part) := do
  Guarded.insist (decide (q.offset + q.length < UInt64.size)) .overflow
  let bytes := s.raw.toUTF8.toList
  let p := scan q {} bytes
  if p.offset < q.last then return none
  let start := p.starts.head?.getD (if q.before = 0 then q.offset else 0)
  let column := if q.before = 0 then p.column else 0
  let firstColumn := if s.column = 0 then 0 else s.column - 1
  return some {
    data := (bytes.take p.offset).drop start
    offset := start
    line := ← Guarded.sum (if s.line = 0 then 0 else s.line - 1) p.line
    column := ← if p.line = 0 then Guarded.sum firstColumn column else pure (.ofNat column)
    lineCount := p.lineCount }

/-- The bytes of a part as a text, if they are one. -/
def Part.text? (p : Part) : Option String :=
  String.fromUTF8? ⟨p.data.toArray⟩

end Snippet

/-- The flagged text of a violation, if there is one. -/
def Violation.snippet? (v : Violation) : Option Snippet :=
  if v.location.raw.isEmpty then none
  else some {
    name := v.location.file
    raw := v.location.raw
    line := v.location.line
    column := v.location.column }

end MarkupAudit

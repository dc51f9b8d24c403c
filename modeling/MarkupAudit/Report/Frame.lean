import MarkupAudit.Report.LintResult
import MarkupAudit.Report.Snippet

namespace MarkupAudit

/-- The mark before the message of a violation. -/
def Severity.mark : Severity → String
  | .error => "x"
  | .warning => "!"
  | .info => ">"

namespace Frame

/-- So many copies of a character. -/
def fill (n : Nat) (c : Char) : String :=
  String.ofList (List.replicate n c)

/-- A line with its tabs as blanks up to the next column that is a multiple of four. -/
def expandTabs (column : Nat) : List Char → List Char
  | [] => []
  | '\t' :: rest =>
    let width := 4 - column % 4
    List.replicate width ' ' ++ expandTabs (column + width) rest
  | c :: rest => c :: expandTabs (column + 1) rest

/-- The line under a flagged text of so many columns, with a stem in the middle. -/
def underline (n : Nat) : String :=
  fill (n / 2) '^' ++ "|" ++ fill (n - n / 2 - 1) '^'

/-- The rows of a frame around a flagged text. -/
def rows (s : Snippet) (label : String) : List String :=
  let line := toString (Nat.max 1 s.line.toNat)
  let column := toString (Nat.max 1 s.column.toNat)
  let margin := fill (line.length + 2) ' '
  let text := expandTabs 0 s.raw.toList
  [margin ++ ",-[" ++ s.name ++ ":" ++ line ++ ":" ++ column ++ "]",
    " " ++ line ++ " | " ++ String.ofList text,
    margin ++ ": " ++ underline text.length,
    margin ++ ": " ++ fill (text.length / 2) ' ' ++ "\x60-- " ++ label,
    margin ++ "\x60----"]

/-- The rows of a violation. -/
def violationRows (v : Violation) : List String :=
  [v.code, "", "  " ++ v.severity.mark ++ " " ++ v.message] ++
    ((v.snippet?.map fun s => rows s v.rule).getD []) ++
    (v.suggestion.map fun s => "  help: " ++ s).toList ++ [""]

end Frame

namespace LintResult

/-- Each row with a line end behind it. -/
def lines (rows : List String) : String :=
  String.join (rows.map (· ++ "\n"))

/-- How many violations there are, on one line. -/
def summary (r : LintResult) : String :=
  let counts := r.counts
  "Found " ++ toString counts.errors ++ " error(s), " ++ toString counts.warnings ++
    " warning(s), " ++ toString counts.infos ++ " info(s) in " ++ toString r.documentsChecked ++
    " document(s)"

/-- The colour of the summary: red with errors, yellow with warnings, else green. -/
def summaryColour (r : LintResult) : String :=
  if 0 < r.counts.errors then "\x1b[31m"
  else if 0 < r.counts.warnings then "\x1b[33m"
  else "\x1b[32m"

/-- The outcome for reading. -/
def framed (r : LintResult) : String :=
  lines (r.violations.flatMap Frame.violationRows ++
    [r.summaryColour ++ r.summary ++ "\x1b[0m"])

/-- The outcome with one line for each violation. -/
def listed (r : LintResult) : String :=
  lines (r.violations.map Violation.display)

end LintResult

end MarkupAudit

import MarkupAudit.Guarded
import MarkupAudit.Report.Violation

namespace MarkupAudit

/-- The violations found, and how many documents were checked. -/
structure LintResult where
  violations : List Violation := []
  documentsChecked : Nat := 0
  deriving DecidableEq, Repr

/-- How many violations there are of each severity. -/
structure SeverityCounts where
  errors : Nat
  warnings : Nat
  infos : Nat
  deriving DecidableEq, Repr

namespace LintResult

/-- Whether some violation is at least as serious as a threshold. -/
def hasViolationsAt (r : LintResult) (threshold : Severity) : Bool :=
  r.violations.any (·.severity.reaches threshold)

/-- The violations of a rule. -/
def byRule (r : LintResult) (rule : String) : List Violation :=
  r.violations.filter (·.rule == rule)

/-- How many violations are of a severity. -/
def count (r : LintResult) (severity : Severity) : Nat :=
  r.violations.countP (·.severity == severity)

/-- How many violations there are of each severity. -/
def counts (r : LintResult) : SeverityCounts where
  errors := r.count .error
  warnings := r.count .warning
  infos := r.count .info

/-- Both outcomes, one after the other. -/
def append (r s : LintResult) : LintResult where
  violations := r.violations ++ s.violations
  documentsChecked := r.documentsChecked + s.documentsChecked

/-- The outcome with another one behind it. The number of documents has to be a machine word. -/
def extend (r s : LintResult) : Guarded LintResult := do
  Guarded.insist (decide (r.documentsChecked + s.documentsChecked < UInt64.size)) .overflow
  return { r.append s with
    documentsChecked := (r.documentsChecked + s.documentsChecked) % UInt64.size }

/-- Reads an outcome. -/
def ofJson? (j : Json) : Option LintResult := do
  match (← j.record? ["violations", "documents_checked"]).fields with
  | [violations, documentsChecked] =>
    return {
      violations := ← Json.required (Json.list? Violation.ofJson?) violations
      documentsChecked := ← Json.required Json.count? documentsChecked }
  | _ => none

/-- Writes an outcome. -/
def toJson (r : LintResult) : Json :=
  .object [("violations", Json.ofList Violation.toJson r.violations),
    ("documents_checked", Json.ofCount r.documentsChecked)]

end LintResult

end MarkupAudit

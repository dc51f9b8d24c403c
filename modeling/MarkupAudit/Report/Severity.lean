import MarkupAudit.Json.Decode

namespace MarkupAudit

/-- Severities, the least serious first. -/
inductive Severity where
  | info
  | warning
  | error
  deriving DecidableEq, Repr

namespace Severity

/-- The name of a severity. -/
def name : Severity → String
  | .info => "info"
  | .warning => "warning"
  | .error => "error"

/-- The severity of a name. -/
def ofName? (s : String) : Option Severity :=
  [error, warning, info].find? (·.name == s)

/-- The complaint about a name that is no severity's. -/
def unknownMessage (s : String) : String :=
  "unknown severity \x60" ++ s ++ "\x60. Valid values: error, warning, info"

/-- How serious, as a number. -/
def rank : Severity → Nat
  | .info => 0
  | .warning => 1
  | .error => 2

/-- Whether a severity is at least as serious as a threshold. -/
def reaches (s threshold : Severity) : Bool :=
  threshold.rank ≤ s.rank

/-- Reads a severity. -/
def ofJson? (j : Json) : Option Severity :=
  j.name?.bind ofName?

end Severity

end MarkupAudit

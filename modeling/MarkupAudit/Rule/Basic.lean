import MarkupAudit.Document.Basic
import MarkupAudit.Guarded
import MarkupAudit.Message.Basic
import MarkupAudit.Report.Violation
import MarkupAudit.Spec.Table
import MarkupAudit.Toml.Value

namespace MarkupAudit

/-- Why a rule cannot do its work. -/
inductive RuleError where
  /-- An option has a value that the rule cannot use. -/
  | invalidOption (option message : String)
  | failed (message : String)
  deriving DecidableEq, Repr

/-- The wording of an error. -/
def RuleError.message : RuleError → String
  | .invalidOption option message => "Invalid option \x60" ++ option ++ "\x60: " ++ message
  | .failed message => message

/-- What a rule reports: where, and in which words. -/
structure Report where
  span : Span
  message : String
  suggestion : Option String := none
  deriving DecidableEq, Repr

/-- An option that a rule takes. -/
structure RuleOption where
  name : String
  /-- The value that stands for an absent one. -/
  fallback : Toml
  description : String

/-- A rule. It looks at one document at a time and either fails or makes reports, in order. Rules do
not see what other rules report. -/
structure Rule where
  name : String
  code : String
  description : String := ""
  severity : Severity := .error
  /-- The main value that stands for an absent one. -/
  value : Toml := .boolean true
  options : List RuleOption := []
  /-- The reports on a document. -/
  run : SpecLookup → Locale → Document → Guarded (Except RuleError (List Report))
  /-- What the rule notes for a log while it works. -/
  notes : SpecLookup → Document → List String := fun _ _ => []

namespace Report

/-- The file that reports on a document name. -/
def file (d : Document) : String :=
  d.path.getD "<input>"

/-- A report as a violation of a rule. -/
def violation (r : Report) (code rule : String) (severity : Severity) (file : String) :
    Violation where
  code := code
  rule := rule
  severity := severity
  location := .ofSpan file r.span
  message := r.message
  suggestion := r.suggestion

end Report

/-- The violations that a rule finds in a document. -/
def Rule.violations (r : Rule) (specs : SpecLookup) (locale : Locale) (d : Document) :
    Guarded (Except RuleError (List Violation)) :=
  (fun outcome => outcome.map fun reports => reports.map fun report =>
    report.violation r.code r.name r.severity (Report.file d)) <$> r.run specs locale d

/-- The reports on a document of a check that looks at one element, and at its children, at a
time. -/
def inspect (check : NodeInfo → List NodeInfo → Guarded (List Report)) (d : Document) :
    Guarded (List Report) :=
  Guarded.collect (fun e => check e.info (d.childInfos e)) d.elements

end MarkupAudit

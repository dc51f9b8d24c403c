import MarkupAudit.Config.Basic
import MarkupAudit.Pattern.Basic
import MarkupAudit.Rule.Basic

namespace MarkupAudit

/-- The rule that class names match one of the given patterns. Every class that matches none is
reported at its own place in the list of classes. Without patterns nothing is reported. -/
structure ClassNaming where
  patterns : List Pattern := []
  severity : Severity := .warning

namespace ClassNaming

def name : String := "class-naming"

def code : String := "ML002"

/-- The pieces of a text, each with the place where it starts, counted in characters. One character
stands between two pieces. -/
def placed (start : Nat) : List (List Char) → List (Nat × List Char)
  | [] => []
  | piece :: rest => (start, piece) :: placed (start + piece.length + 1) rest

/-- The classes of a list of classes, each with the place where it starts, counted in characters. -/
def classNames (value : String) : List (Nat × String) :=
  ((placed 0 (value.toList.splitOnP Text.isBlank)).filter (!·.2.isEmpty)).map
    fun (start, piece) => (start, String.ofList piece)

/-- Whether a class matches a pattern. -/
def accepts (r : ClassNaming) (className : String) : Bool :=
  r.patterns.any (·.accepts className)

/-- The complaint about a class. -/
def complaint (r : ClassNaming) (l : Locale) (className : String) : String :=
  l.expand Message.Phrase.shouldMatch
    [l.expand Message.Phrase.theClassName [className], l.list (r.patterns.map (·.source))]

/-- Where a class stands: behind the start of the value, if that is known, else with the name. -/
def place (a : Attribute) (start : Nat) (className : String) : Guarded Span :=
  match a.valueSpan with
  | some span => do
    return { span with column := ← Guarded.sum span.column start, raw := className }
  | none => pure a.nameSpan

/-- The report on a class, unless it matches a pattern. -/
def classReport (r : ClassNaming) (l : Locale) (a : Attribute) (start : Nat) (className : String) :
    Guarded (List Report) := do
  if r.accepts className then return []
  return [{ span := ← place a start className, message := r.complaint l className }]

/-- The reports on an attribute that lists classes. -/
def attributeReports (r : ClassNaming) (l : Locale) (a : Attribute) : Guarded (List Report) :=
  Guarded.collect (fun (start, className) => r.classReport l a start className) (classNames a.value)

/-- The reports on an element. -/
def check (r : ClassNaming) (l : Locale) (n : NodeInfo) (_ : List NodeInfo) :
    Guarded (List Report) :=
  Guarded.collect (r.attributeReports l) ((n.attributesNamed "class").filter (!·.dynamic))

/-- The rule. -/
def rule (r : ClassNaming) : Rule where
  name := name
  code := code
  description := "Requires class names to match the configured patterns"
  severity := r.severity
  value := .array []
  run := fun _ locale d =>
    Except.ok <$> if r.patterns.isEmpty then pure [] else inspect (r.check locale) d

/-- The rule with patterns of the given sources. -/
def ofSources (sources : List String) : Except RuleError ClassNaming :=
  match sources.mapM Pattern.ofSource? with
  | some patterns => .ok { patterns }
  | none => .error (.invalidOption "value" "not a list of patterns")

/-- The rule with the given settings. -/
def ofSettings (s : RuleSettings) : Except RuleError ClassNaming :=
  ofSources s.valueStrings

end ClassNaming

end MarkupAudit

import MarkupAudit.Report.LintResult
import MarkupAudit.Rule.Registry
import MarkupAudit.Spec.Html

namespace MarkupAudit

/-- Why a document cannot be checked. -/
inductive LintError where
  /-- A rule failed. -/
  | rule (name : String) (cause : RuleError)
  /-- There is no bundled locale of the tag. -/
  | locale (tag : String)
  deriving DecidableEq, Repr

/-- The wording of an error. -/
def LintError.message : LintError → String
  | .rule name cause => "Rule \x60" ++ name ++ "\x60 failed: " ++ cause.message
  | .locale tag => "Locale error: " ++ Locale.unsupportedMessage tag

/-- A linter. -/
structure Linter where
  rules : List Rule
  config : Config := {}
  locale : Locale := .english
  specs : SpecLookup := SpecTable.html.lookup

namespace Linter

/-- The locale to word messages in: one that is given, else the bundled one of the given tag, else
of the tag in the configuration, else English. -/
def chooseLocale (c : Config) (given : Option Locale) (tag : Option String) :
    Except LintError Locale :=
  match given, tag <|> c.locale with
  | some locale, _ => .ok locale
  | none, none => .ok .english
  | none, some tag =>
    match Locale.bundled? tag with
    | some locale => .ok locale
    | none => .error (.locale tag)

/-- A linter with the given rules. -/
def build (rules : List Rule) (config : Config) (given : Option Locale) (tag : Option String)
    (specs : SpecLookup) : Except LintError Linter := do
  return { rules, config, specs, locale := ← chooseLocale config given tag }

/-- Whether the configuration lets a rule run. -/
def isEnabled (l : Linter) (r : Rule) : Bool :=
  l.config.isEnabled r.name r.code

/-- The rules that run. -/
def enabledRules (l : Linter) : List Rule :=
  l.rules.filter l.isEnabled

/-- A violation with the severity that the configuration gives to its rule. -/
def override (l : Linter) (r : Rule) (v : Violation) : Violation :=
  match l.config.severity? r.name r.code with
  | some severity => { v with severity }
  | none => v

/-- What a rule finds in a document. -/
def found (l : Linter) (d : Document) (r : Rule) : Guarded (Except LintError (List Violation)) :=
  (fun outcome => match outcome with
    | .ok violations => .ok (violations.map (l.override r))
    | .error cause => .error (.rule r.name cause)) <$> r.violations l.specs l.locale d

/-- Checks a document: runs the enabled rules, the first of which that fails ends the check, and
puts what they find in the order of its place in the file. -/
def verify (l : Linter) (d : Document) : Guarded (Except LintError LintResult) := ExceptT.run do
  let violations ← l.enabledRules.mapM fun r => ExceptT.mk (l.found d r)
  return { violations := violations.flatten.mergeSort Violation.noLater, documentsChecked := 1 }

end Linter

/-- Why a linter cannot be made from a configuration. -/
inductive SetupError where
  | registry (cause : RegistryError)
  | lint (cause : LintError)
  deriving DecidableEq, Repr

/-- The linter that a configuration asks for. -/
def Linter.ofConfig (c : Config) : Except SetupError Linter :=
  match c.configuredRules with
  | .error cause => .error (.registry cause)
  | .ok rules =>
    match Linter.build rules c none none SpecTable.html.lookup with
    | .error cause => .error (.lint cause)
    | .ok linter => .ok linter

end MarkupAudit

import MarkupAudit.Report.Severity
import MarkupAudit.Toml.Value

namespace MarkupAudit

/-- The settings of a rule. -/
structure RuleSettings where
  enabled : Option Bool := none
  severity : Option Severity := none
  /-- The main value of the rule. -/
  value : Option Toml := none
  options : List (String × Toml) := []

namespace RuleSettings

/-- Whether the rule is to run: neither `enabled` nor the value says no. -/
def isEnabled (s : RuleSettings) : Bool :=
  s.enabled.getD true && (s.value.bind Toml.boolean?).getD true

/-- An option that is a truth value, else the given one. -/
def bool (s : RuleSettings) (key : String) (fallback : Bool) : Bool :=
  ((s.options.lookup key).bind Toml.boolean?).getD fallback

/-- The texts of an option. -/
def strings (s : RuleSettings) (key : String) : List String :=
  ((s.options.lookup key).map Toml.strings).getD []

/-- The texts of the main value. -/
def valueStrings (s : RuleSettings) : List String :=
  (s.value.map Toml.strings).getD []

end RuleSettings

/-- A configuration: which rules run, how serious their findings are, and what their options are.
The table of a rule stands under its name or its code; one under the name comes first. -/
structure Config where
  preset : Option String := none
  /-- The severity from which on a check fails. -/
  failOn : Option String := none
  locale : Option String := none
  /-- The tables of rules by key, in no order that matters. -/
  rules : List (String × RuleSettings) := []
  /-- There is one table to a key. -/
  distinct : (rules.map (·.1)).Nodup := by exact List.nodup_nil

namespace Config

/-- The settings of a rule. -/
def settings? (c : Config) (name code : String) : Option RuleSettings :=
  match c.rules.lookup name with
  | some s => some s
  | none => c.rules.lookup code

/-- Whether a rule is to run. -/
def isEnabled (c : Config) (name code : String) : Bool :=
  ((c.settings? name code).map RuleSettings.isEnabled).getD true

/-- The severity that replaces a rule's own. -/
def severity? (c : Config) (name code : String) : Option Severity :=
  (c.settings? name code).bind (·.severity)

/-- The severity from which on a check fails, or the name that is none. -/
def failOnSeverity (c : Config) : Except String Severity :=
  match c.failOn with
  | none => .ok .error
  | some name =>
    match Severity.ofName? name with
    | some severity => .ok severity
    | none => .error name

/-- The complaint about a threshold that is no severity. -/
def failOnMessage (name : String) : String :=
  "Failed to parse config: " ++ Severity.unknownMessage name

end Config

end MarkupAudit

import MarkupAudit.Config.Basic
import MarkupAudit.Toml.Reader

namespace MarkupAudit

/-- A severity: its name, or its name as the only key of a table, with nothing in it. -/
def Severity.ofToml? : Toml → Option Severity
  | .string name => ofName? name
  | .table [(name, .table [])] => ofName? name
  | .table [(name, .array [])] => ofName? name
  | _ => none

namespace Config

/-- The value of a key that may be absent. -/
def field? {α : Type} (value? : Toml → Option α) (entries : List (String × Toml)) (key : String) :
    Option (Option α) :=
  match entries.lookup key with
  | none => some none
  | some v => (value? v).map some

end Config

namespace RuleSettings

/-- The keys that are no options. -/
def ownKeys : List String :=
  ["enabled", "severity", "value"]

/-- Reads the settings of a rule from the entries of its table. Keys that are not known are options.
-/
def ofEntries? (entries : List (String × Toml)) : Option RuleSettings := do
  return {
    enabled := ← Config.field? Toml.boolean? entries "enabled"
    severity := ← Config.field? Severity.ofToml? entries "severity"
    value := entries.lookup "value"
    options := entries.filter fun entry => !ownKeys.contains entry.1 }

/-- Reads the settings of a rule. -/
def ofToml? : Toml → Option RuleSettings
  | .table entries => ofEntries? entries
  | _ => none

/-- Reads the text of the settings of one rule. -/
def ofText? (text : String) : Option RuleSettings := do
  ofEntries? (← Toml.read? text)

end RuleSettings

namespace Config

/-- Reads the tables of rules. -/
def rulesOfToml? : Toml → Option (List (String × RuleSettings))
  | .table entries => entries.mapM fun (key, v) => (RuleSettings.ofToml? v).map (key, ·)
  | _ => none

/-- Reads a configuration. Keys that are not known are skipped. -/
def ofEntries? (entries : List (String × Toml)) : Option Config := do
  let preset ← field? Toml.string? entries "preset"
  let failOn ← field? Toml.string? entries "fail_on"
  let locale ← field? Toml.string? entries "locale"
  let rules := (← field? rulesOfToml? entries "rules").getD []
  if distinct : (rules.map (·.1)).Nodup then
    return { preset, failOn, locale, rules, distinct }
  else none

/-- Reads the text of a configuration. -/
def ofText? (text : String) : Option Config := do
  ofEntries? (← Toml.read? text)

end Config

end MarkupAudit

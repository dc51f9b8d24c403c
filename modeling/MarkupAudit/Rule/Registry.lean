import MarkupAudit.Rule.ClassNaming
import MarkupAudit.Rule.DuplicateAttribute
import MarkupAudit.Rule.EmptyContent
import MarkupAudit.Rule.InvalidAttribute

namespace MarkupAudit

/-- The built-in rules. -/
inductive BuiltIn where
  | invalidAttribute
  | classNaming
  | emptyContent
  | duplicateAttribute
  deriving DecidableEq, Repr

namespace BuiltIn

/-- All built-in rules, in the order of their codes. -/
def all : List BuiltIn :=
  [invalidAttribute, classNaming, emptyContent, duplicateAttribute]

/-- The name of a rule. -/
def name : BuiltIn → String
  | .invalidAttribute => InvalidAttribute.name
  | .classNaming => ClassNaming.name
  | .emptyContent => EmptyContent.name
  | .duplicateAttribute => DuplicateAttribute.name

/-- The code of a rule. -/
def code : BuiltIn → String
  | .invalidAttribute => InvalidAttribute.code
  | .classNaming => ClassNaming.code
  | .emptyContent => EmptyContent.code
  | .duplicateAttribute => DuplicateAttribute.code

/-- The rule of a name or code. -/
def ofKey? (key : String) : Option BuiltIn :=
  all.find? fun b => b.name == key || b.code == key

/-- The rule without settings. -/
def standard : BuiltIn → Rule
  | .invalidAttribute => ({} : InvalidAttribute).rule
  | .classNaming => ({} : ClassNaming).rule
  | .emptyContent => ({} : EmptyContent).rule
  | .duplicateAttribute => ({} : DuplicateAttribute).rule

/-- The rule with the given settings. -/
def create (b : BuiltIn) (s : RuleSettings) : Except RuleError Rule :=
  match b with
  | .invalidAttribute => (InvalidAttribute.ofSettings s).map InvalidAttribute.rule
  | .classNaming => (ClassNaming.ofSettings s).map ClassNaming.rule
  | .emptyContent => .ok (EmptyContent.ofSettings s).rule
  | .duplicateAttribute => .ok b.standard

/-- The settings that a configuration has for the rule. -/
def settings? (b : BuiltIn) (c : Config) : Option RuleSettings :=
  c.settings? b.name b.code

end BuiltIn

/-- Why a set of rules cannot be made. -/
inductive RegistryError where
  | unknownRule (key : String)
  | unknownPreset (name : String)
  /-- A rule does not take its settings. -/
  | rejected (rule : String) (cause : RuleError)
  deriving DecidableEq, Repr

/-- The wording of an error. -/
def RegistryError.message : RegistryError → String
  | .unknownRule key => "Unknown rule: " ++ key
  | .unknownPreset name =>
    "Unknown preset: " ++ name ++ ". Valid values: recommended, strict, minimal"
  | .rejected rule cause =>
    "Invalid configuration for \x60" ++ rule ++ "\x60: " ++ cause.message

/-- The built-in rule of a name or code, with the given settings. -/
def createRule (key : String) (s : RuleSettings) : Except RegistryError Rule :=
  match BuiltIn.ofKey? key with
  | none => .error (.unknownRule key)
  | some b =>
    match b.create s with
    | .ok r => .ok r
    | .error cause => .error (.rejected key cause)

/-- Sets of rules to start from. -/
inductive Preset where
  | recommended
  | strict
  | minimal
  deriving DecidableEq, Repr

namespace Preset

/-- The name of a preset. -/
def name : Preset → String
  | .recommended => "recommended"
  | .strict => "strict"
  | .minimal => "minimal"

/-- The preset of a name. -/
def ofName (s : String) : Except RegistryError Preset :=
  match [recommended, strict, minimal].find? (·.name == s) with
  | some p => .ok p
  | none => .error (.unknownPreset s)

/-- The rules of a preset. The strict one lets no element be empty because it is being loaded. -/
def rules : Preset → List Rule
  | .recommended =>
    [({} : InvalidAttribute).rule, ({} : EmptyContent).rule, ({} : DuplicateAttribute).rule]
  | .strict =>
    [({} : InvalidAttribute).rule, ({ busyExempt := false } : EmptyContent).rule,
      ({} : DuplicateAttribute).rule]
  | .minimal => [({} : InvalidAttribute).rule]

end Preset

/-- All built-in rules without settings. -/
def allRules : List Rule :=
  BuiltIn.all.map BuiltIn.standard

namespace Config

/-- The preset of a configuration. -/
def presetOf (c : Config) : Except RegistryError Preset :=
  Preset.ofName (c.preset.getD "recommended")

/-- A rule of a preset, made anew if the configuration has settings for it. -/
def rebuild (c : Config) (r : Rule) : Except RegistryError Rule :=
  match c.settings? r.name r.code with
  | some s => createRule r.name s
  | none => .ok r

/-- The rules to add, after one more table has been looked at. A table counts if it is enabled,
and its key has to be that of a rule; the rule is added, with the settings that hold for it,
unless it is there already or those settings disable it. -/
def addExtra (c : Config) (present : List String) (extras : List (BuiltIn × RuleSettings))
    (table : String × RuleSettings) : Except RegistryError (List (BuiltIn × RuleSettings)) :=
  if !table.2.isEnabled then .ok extras
  else
    match BuiltIn.ofKey? table.1 with
    | none => .error (.unknownRule table.1)
    | some b =>
      if present.contains b.name || extras.any (·.1.name == b.name) then .ok extras
      else
        match b.settings? c with
        | some s => .ok (if s.isEnabled then extras ++ [(b, s)] else extras)
        | none => .ok extras

/-- The rules that are configured and enabled outside of the given ones, with their settings, in the
order of their names. -/
def extras (c : Config) (present : List String) :
    Except RegistryError (List (BuiltIn × RuleSettings)) := do
  let found ← c.rules.foldlM (c.addExtra present) []
  return found.mergeSort fun a b => decide (a.1.name ≤ b.1.name)

/-- The rules that a configuration asks for: those of the preset, then the configured ones outside
of it. Disabled rules of the preset are left for the linter to skip. -/
def configuredRules (c : Config) : Except RegistryError (List Rule) := do
  let preset ← c.presetOf
  let rules ← preset.rules.mapM c.rebuild
  let extras ← c.extras (rules.map (·.name))
  let more ← extras.mapM fun (b, s) => createRule b.name s
  return rules ++ more

/-- The built-in rules of the given names or codes, each once, with the settings that the
configuration has for them. Other names are skipped. -/
def selectedRules (c : Config) (keys : List String) : Except RegistryError (List Rule) :=
  (keys.filterMap BuiltIn.ofKey?).eraseDups.mapM fun b =>
    createRule b.name ((b.settings? c).getD {})

end Config

end MarkupAudit

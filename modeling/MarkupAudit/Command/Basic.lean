import MarkupAudit.Command.Check

namespace MarkupAudit.Command

/-- What a call of the command comes to. -/
structure Outcome where
  exit : Nat := 0
  output : String := ""
  error : Option String := none
  log : List LogLine := []
  /-- The text that is written to the configuration of the project. -/
  written : Option String := none
  deriving DecidableEq, Repr

/-- The program and its version. -/
def versionText : String :=
  "markup-lint 0.4.2\n"

/-- How to call the command. -/
def usageText : String :=
  LintResult.lines [
    "Rule-based linter for HTML-like markup documents",
    "",
    "Usage: markup-lint [OPTIONS] <COMMAND>",
    "",
    "Commands:",
    "  check       Lint parsed documents",
    "  list-rules  List available rules",
    "  init        Initialize configuration file"]

/-- The configuration of a project. -/
def configName : String :=
  "markup-lint.toml"

/-- A configuration to start from. -/
def startingConfig : String :=
  LintResult.lines [
    "# markup-lint configuration",
    "",
    "# Rule set to start from: \"recommended\", \"strict\" or \"minimal\"",
    "preset = \"recommended\"",
    "",
    "# Exit with a failure status at or above this severity",
    "fail_on = \"error\"",
    "",
    "# Message locale: \"en\" or \"ja\"",
    "# locale = \"ja\"",
    "",
    "# Rule configurations",
    "# Each rule can be enabled/disabled and have its severity overridden",
    "",
    "[rules.invalid-attr]",
    "enabled = true",
    "# ignore_attr_name_prefix = [\"v-\", \"@\"]",
    "",
    "# [rules.invalid-attr.attrs.x-size]",
    "# type = \"Uint\"",
    "",
    "# [rules.class-naming]",
    "# value = [\"^c-[a-z][a-z0-9-]*$\"]",
    "# severity = \"warning\"",
    "",
    "[rules.no-empty-palpable-content]",
    "ignore_if_aria_busy = true",
    "extends_exposable_elements = true"]

/-- Makes a configuration to start from, in place of another only if that is asked for. -/
def init (files : Files) (force : Bool) : Outcome :=
  let state := files configName
  if state.isPresent && !force then
    { exit := 1
      error := some ("Configuration file already exists at " ++ configName ++
        ". Use --force to overwrite.") }
  else if state = .directory then
    { exit := 1, error := some "Is a directory (os error 21)" }
  else
    { written := some startingConfig
      output := LintResult.lines [
        "Created markup-lint.toml",
        "",
        "Next steps:",
        "  1. Edit markup-lint.toml to configure rules",
        "  2. Run: markup-lint check <document.json>"] }

/-- A text with blanks behind it, up to a width. -/
def padTo (width : Nat) (s : String) : String :=
  s ++ Frame.fill (width - s.length) ' '

/-- A row of the list of rules. -/
def ruleRow (code name severity description : String) : String :=
  padTo 8 code ++ " " ++ padTo 28 name ++ " " ++ padTo 9 severity ++ " " ++ description

/-- The value that stands for an absent option. -/
def fallbackText : Toml → String
  | .boolean true => "true"
  | .boolean false => "false"
  | .array _ => "[]"
  | .table _ => "\x7b\x7d"
  | _ => ""

/-- The row of an option. -/
def optionRow (o : RuleOption) : String :=
  padTo 8 "" ++ "   " ++ o.name ++ " = " ++ fallbackText o.fallback ++ "  (" ++ o.description ++ ")"

/-- The rows of a rule. -/
def ruleRows (r : Rule) : List String :=
  ruleRow r.code r.name r.severity.name r.description :: r.options.map optionRow

/-- The list of rules. -/
def listRules : String :=
  LintResult.lines (
    ["Available rules:", "", ruleRow "Code" "Name" "Severity" "Description", Frame.fill 90 '-'] ++
    allRules.flatMap ruleRows ++
    ["", "Presets:",
      "  recommended  - ML001, ML003, ML004; ML002 when configured (default)",
      "  strict       - As recommended, aria-busy elements are not exempt",
      "  minimal      - ML001 only (for gradual adoption)",
      "", "Use --rules to filter specific rules, e.g.:",
      "  markup-lint check --rules invalid-attr,attr-duplication page.json",
      "  markup-lint check --rules ML001,ML004 page.json"])

/-- Whether a line is logged: lines for debugging only on demand. -/
def isLogged (verbose : Bool) (l : LogLine) : Bool :=
  verbose || l.level != .debug

/-- Checks documents. A build that is stopped prints nothing. -/
def runCheck (b : Build) (s : Surroundings) (i : Invocation) (o : CheckOptions) : Outcome :=
  let source := ConfigSource.find s i.config
  let log := (checkJournal b s.files source o).filter (isLogged i.verbose)
  match (check s.files source o).run b with
  | .ok (.ok checked) =>
    { exit := if checked.failing then 1 else 0
      output := o.format.print checked.result
      log }
  | .ok (.error cause) => { exit := 1, error := some cause.message, log }
  | .error _ => { exit := 101, log }

/-- Does what a call asks for. -/
def Invocation.run (b : Build) (i : Invocation) (s : Surroundings) : Outcome :=
  match i.action with
  | .check o => runCheck b s i o
  | .listRules => { output := listRules }
  | .init force => init s.files force

/-- The paths that a call looks at. -/
def Invocation.paths (i : Invocation) (envVar? : String → Option String) : List String :=
  match i.action with
  | .check o =>
    let surroundings : Surroundings := { files := fun _ => .missing, envVar? }
    i.config.toList ++ ConfigSource.projectPaths ++
      (ConfigSource.globalPath? surroundings).toList ++ o.documents
  | .listRules => []
  | .init _ => [configName]

/-- The variables of the environment that the command looks at. -/
def variableNames : List String :=
  ["MARKUP_LINT_CONFIG", "MARKUP_LINT_CONFIG_DIR", "HOME"]

/-- The paths that the command looks at. -/
def paths (args : List String) (envVar? : String → Option String) : List String :=
  match Invocation.ofArguments args (envVar? "MARKUP_LINT_CONFIG") with
  | .ok i => i.paths envVar?
  | .error _ => []

/-- Runs the command, whose outcome is a function of its arguments and its surroundings. -/
def run (b : Build) (args : List String) (s : Surroundings) : Outcome :=
  match Invocation.ofArguments args (s.envVar? "MARKUP_LINT_CONFIG") with
  | .ok i => i.run b s
  | .error .version => { output := versionText }
  | .error .help => { output := usageText }
  | .error .usage => { exit := 2 }

end MarkupAudit.Command

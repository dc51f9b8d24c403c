import MarkupAudit.Command.Arguments
import MarkupAudit.Command.Files
import MarkupAudit.Config.Reader
import MarkupAudit.Document.Json
import MarkupAudit.Json.Printer
import MarkupAudit.Linter.Journal
import MarkupAudit.Report.Frame

namespace MarkupAudit.Command

/-- Where the configuration was found. -/
inductive ConfigSource where
  | explicit (path : String)
  | project (path : String)
  | global (path : String)
  | default
  deriving DecidableEq, Repr

/-- What a command finds around it. -/
structure Surroundings where
  files : Files
  envVar? : String → Option String

namespace ConfigSource

/-- The files of a project that may hold its configuration, the first choice first. -/
def projectPaths : List String :=
  ["./markup-lint.toml", "./.markup-lint.toml"]

/-- The file that holds the configuration of all projects. -/
def globalPath? (s : Surroundings) : Option String :=
  let folder := s.envVar? "MARKUP_LINT_CONFIG_DIR" <|>
    (s.envVar? "HOME").map fun home => join home ".markup-lint"
  folder.map fun folder => join folder "config.toml"

/-- Finds the configuration: the file that is asked for, whether it is there or not, else one of the
project, else the global one. -/
def find (s : Surroundings) (asked : Option String) : ConfigSource :=
  match asked, projectPaths.find? fun path => (s.files path).isFile with
  | some path, _ => .explicit path
  | none, some path => .project path
  | none, none =>
    match (globalPath? s).filter fun path => (s.files path).isFile with
    | some path => .global path
    | none => .default

/-- The file. -/
def path? : ConfigSource → Option String
  | .explicit path => some path
  | .project path => some path
  | .global path => some path
  | .default => none

/-- What is logged while the configuration is found and read. -/
def journal : ConfigSource → List LogLine
  | .explicit _ => []
  | .project path => [⟨.debug, "Found project config: " ++ path⟩]
  | .global path =>
    [⟨.debug, "Found global config: " ++ path⟩, ⟨.info, "Using global config: " ++ path⟩]
  | .default => []

end ConfigSource

/-- Why a check fails. -/
inductive CheckError where
  | config (path : String)
  | failOn (name : String)
  /-- The configured rules cannot be made. -/
  | ruleSet (cause : RegistryError)
  /-- The selected rules cannot be made. -/
  | selection (cause : RegistryError)
  | linter (cause : LintError)
  | read (path : String)
  | decode (path : String)
  | lint (path : String) (cause : LintError)
  deriving DecidableEq, Repr

/-- The wording of a failure. -/
def CheckError.message : CheckError → String
  | .config path => "Failed to load config: " ++ path
  | .failOn _ => "Invalid \x60fail_on\x60 in config"
  | .ruleSet _ => "Failed to build rule set"
  | .selection cause => cause.message
  | .linter _ => "Failed to build linter"
  | .read path => "Failed to read document: " ++ path
  | .decode path => "Failed to decode document: " ++ path
  | .lint path _ => "Lint failed for " ++ path

/-- A result, or the failure that it means here. -/
def orElse {ε α : Type} (failure : ε → CheckError) : Except ε α → Except CheckError α
  | .ok a => .ok a
  | .error cause => .error (failure cause)

/-- Something, or a failure without it. -/
def orFail {α : Type} (failure : CheckError) : Option α → Except CheckError α
  | some a => .ok a
  | none => .error failure

/-- Reads the configuration. -/
def loadConfig (files : Files) (source : ConfigSource) : Except CheckError Config :=
  match source.path? with
  | none => .ok {}
  | some path => orFail (.config path) ((files path).content?.bind Config.ofText?)

/-- The keys of rules in a list divided by commas. -/
def ruleKeys (list : String) : List String :=
  (list.toList.splitOnP (· == ',')).map fun key => Text.trim (String.ofList key)

/-- The rules to run: the selected ones, else the configured ones. -/
def chooseRules (config : Config) : Option String → Except CheckError (List Rule)
  | some list => orElse .selection (config.selectedRules (ruleKeys list))
  | none => orElse .ruleSet config.configuredRules

/-- What is logged while the rules are made. -/
def rulesJournal (config : Config) : Option String → List LogLine
  | some list => config.selectedJournal (ruleKeys list)
  | none => config.configuredJournal

/-- The linter for a check. -/
def makeLinter (config : Config) (o : CheckOptions) : Except CheckError Linter := do
  let rules ← chooseRules config o.rules
  orElse .linter (Linter.build rules config none o.locale SpecTable.html.lookup)

/-- Reads a document. One that does not name its path has the path of its file. -/
def loadDocument (files : Files) (path : String) : Except CheckError Document := do
  let text ← orFail (.read path) (files path).content?
  let document ← orFail (.decode path) (Document.ofText? text)
  return match document.path with
    | some _ => document
    | none => document.withPath path

/-- Checks one document. -/
def checkDocument (files : Files) (linter : Linter) (path : String) :
    Guarded (Except CheckError LintResult) :=
  match loadDocument files path with
  | .ok document => orElse (.lint path) <$> linter.verify document
  | .error cause => pure (.error cause)

/-- What is logged while one document is checked in a build. -/
def documentJournal (b : Build) (files : Files) (linter : Linter) (path : String) : List LogLine :=
  match loadDocument files path with
  | .ok document => linter.journal b document
  | .error _ => []

/-- The outcome of a check, and whether it reaches the severity from which on checks fail. -/
structure Checked where
  result : LintResult
  failing : Bool

/-- What a check needs before it comes to the documents: the severity from which on it fails, and
the linter. -/
def prepare (files : Files) (source : ConfigSource) (o : CheckOptions) :
    Except CheckError (Severity × Linter) := do
  let config ← loadConfig files source
  let failOn ← orElse .failOn config.failOnSeverity
  return (failOn, ← makeLinter config o)

/-- Checks all documents, one after the other. The first failure ends the work. -/
def check (files : Files) (source : ConfigSource) (o : CheckOptions) :
    Guarded (Except CheckError Checked) := ExceptT.run do
  let (failOn, linter) ← ExceptT.mk (pure (prepare files source o))
  let results ← o.documents.mapM fun path => ExceptT.mk (checkDocument files linter path)
  let result := results.foldl LintResult.append {}
  return { result, failing := result.hasViolationsAt failOn }

/-- What is logged while all documents are checked in a build. -/
def checkJournal (b : Build) (files : Files) (source : ConfigSource) (o : CheckOptions) :
    List LogLine :=
  source.journal ++
    match loadConfig files source with
    | .error _ => []
    | .ok config =>
      match config.failOnSeverity with
      | .error _ => []
      | .ok _ =>
        rulesJournal config o.rules ++
          match makeLinter config o with
          | .error _ => []
          | .ok linter =>
            ⟨.info, "Checking " ++ toString o.documents.length ++ " document(s) with " ++
              toString linter.rules.length ++ " rules"⟩ ::
            (upToFailure (fun path => (checkDocument files linter path).fails b)
              o.documents).flatMap (documentJournal b files linter)

/-- The outcome in a form of output. -/
def Format.print (format : Format) (r : LintResult) : String :=
  match format with
  | .text => r.framed
  | .json => r.toJson.pretty ++ "\n"
  | .compact => r.listed

end MarkupAudit.Command

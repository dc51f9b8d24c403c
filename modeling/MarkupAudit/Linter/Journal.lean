import MarkupAudit.Linter.Basic

namespace MarkupAudit

/-- How much a line of the log matters. -/
inductive LogLevel where
  | debug
  | info
  | warn
  deriving DecidableEq, Repr

/-- The name of a level. -/
def LogLevel.name : LogLevel → String
  | .debug => "DEBUG"
  | .info => "INFO"
  | .warn => "WARN"

/-- A line of the log. -/
structure LogLine where
  level : LogLevel
  text : String
  deriving DecidableEq, Repr

/-- A line of the log as text. -/
def LogLine.display (l : LogLine) : String :=
  l.level.name ++ " " ++ l.text

/-- Steps up to the first that fails, which is included. -/
def upToFailure {α : Type} (fails : α → Bool) : List α → List α
  | [] => []
  | a :: rest => if fails a then [a] else a :: upToFailure fails rest

/-- Whether something failed. -/
def isFailure {ε α : Type} : Except ε α → Bool
  | .error _ => true
  | .ok _ => false

/-- How a preset is called in the log. -/
def Preset.title : Preset → String
  | .recommended => "Recommended"
  | .strict => "Strict"
  | .minimal => "Minimal"

namespace Config

/-- What is logged while the configured rules are made. -/
def configuredJournal (c : Config) : List LogLine :=
  match c.presetOf with
  | .error _ => []
  | .ok preset =>
    ⟨.debug, "Using preset " ++ preset.title⟩ ::
      match preset.rules.mapM c.rebuild with
      | .error _ => []
      | .ok rules =>
        match c.extras (rules.map (·.name)) with
        | .error _ => []
        | .ok extras =>
          (upToFailure (fun (b, s) => isFailure (createRule b.name s)) extras).map
            fun (b, _) => ⟨.debug, "Adding configured rule: " ++ b.name⟩

/-- Whether a key selects a rule that does not take its settings. -/
def isRejected (c : Config) (key : String) : Bool :=
  match BuiltIn.ofKey? key with
  | some b => isFailure (createRule b.name ((b.settings? c).getD {}))
  | none => false

/-- What is logged while rules are selected by the given keys. -/
def selectedJournal (c : Config) (keys : List String) : List LogLine :=
  ((upToFailure c.isRejected keys).filter fun key => (BuiltIn.ofKey? key).isNone).map
    fun key => ⟨.warn, "Unknown rule: " ++ key⟩

end Config

namespace Linter

/-- What is logged about a rule. -/
def ruleJournal (l : Linter) (d : Document) (r : Rule) : List LogLine :=
  if l.isEnabled r then
    ⟨.debug, "Running rule: " ++ r.name⟩ :: (r.notes l.specs d).map (⟨.debug, ·⟩)
  else [⟨.debug, "Skipping disabled rule: " ++ r.name⟩]

/-- What is logged while a document is checked in a build. The log follows the work: it ends where
the work fails. -/
def journal (l : Linter) (b : Build) (d : Document) : List LogLine :=
  let fails := fun r => l.isEnabled r && (l.found d r).fails b
  ⟨.info, "Linting " ++ Report.file d ++ " (" ++ toString d.size ++ " nodes)"⟩ ::
    (upToFailure fails l.rules).flatMap (l.ruleJournal d) ++
    match (l.verify d).run b with
    | .ok (.ok result) =>
      [⟨.info, "Lint complete: " ++ toString result.violations.length ++ " violations"⟩]
    | _ => []

end Linter

end MarkupAudit

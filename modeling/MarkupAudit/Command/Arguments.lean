namespace MarkupAudit.Command

/-- The forms of output. -/
inductive Format where
  | text
  | json
  | compact
  deriving DecidableEq, Repr

/-- The form of a name. -/
def Format.ofName? : String → Option Format
  | "text" => some .text
  | "json" => some .json
  | "compact" => some .compact
  | _ => none

/-- What is to be checked, and how. -/
structure CheckOptions where
  documents : List String
  format : Format := .text
  /-- The rules to run, divided by commas. -/
  rules : Option String := none
  locale : Option String := none
  deriving DecidableEq, Repr

/-- What the command is asked to do. -/
inductive Action where
  | check (options : CheckOptions)
  | listRules
  | init (force : Bool)
  deriving DecidableEq, Repr

/-- A call of the command. Options may stand before and after the name of the subcommand; a value
follows its option as the next argument, behind an equals sign, or right behind a single letter. -/
structure Invocation where
  verbose : Bool := false
  /-- The file with the configuration. -/
  config : Option String := none
  action : Action
  deriving DecidableEq, Repr

/-- Why arguments are not followed: they are wrong, or they ask for something else first. -/
inductive Refusal where
  | usage
  | help
  | version
  deriving DecidableEq, Repr

/-- An option. -/
structure OptionForm where
  long : String
  letter : Option Char := none
  takesValue : Bool := false

/-- What may stand among the arguments of a command. -/
structure Grammar where
  options : List OptionForm
  /-- The subcommands, one of which has to follow. -/
  commands : List String := []
  /-- Whether there may be other words. -/
  words : Bool := false

/-- The options and words that were read, in order. -/
structure Given where
  options : List (String × String) := []
  words : List String := []
  /-- The subcommand and its arguments. -/
  command : Option (String × List String) := none

namespace Grammar

/-- Adds an option, which may stand once only. -/
def give (given : Given) (o : OptionForm) (value : String) : Except Refusal Given :=
  if o.long = "help" then .error .help
  else if o.long = "version" then .error .version
  else if (given.options.lookup o.long).isSome then .error .usage
  else .ok { given with options := given.options ++ [(o.long, value)] }

/-- Whether an argument looks like an option. -/
def isOption (arg : List Char) : Bool :=
  match arg with
  | '-' :: _ :: _ => true
  | _ => false

/-- Options written as single letters in one argument. Answers with the option that still lacks its
value, if there is one. -/
def letters (g : Grammar) (given : Given) : List Char → Except Refusal (Given × Option OptionForm)
  | [] => .ok (given, none)
  | c :: rest =>
    match g.options.find? (·.letter == some c) with
    | none => .error .usage
    | some o =>
      if !o.takesValue then do g.letters (← give given o "") rest
      else
        match rest with
        | [] => .ok (given, some o)
        | '=' :: value => do return (← give given o (String.ofList value), none)
        | value => do return (← give given o (String.ofList value), none)

/-- An option by its long name, with or without a value behind an equals sign. Answers with the
option if it still lacks its value. -/
def longName (g : Grammar) (given : Given) (arg : List Char) :
    Except Refusal (Given × Option OptionForm) :=
  let (name, rest) := (arg.takeWhile (· != '='), arg.dropWhile (· != '='))
  match g.options.find? (·.long == String.ofList name), rest with
  | none, _ => .error .usage
  | some o, '=' :: value =>
    if o.takesValue then do return (← give given o (String.ofList value), none) else .error .usage
  | some o, _ =>
    if o.takesValue then .ok (given, some o) else do return (← give given o "", none)

/-- An argument that looks like an option. -/
def option (g : Grammar) (given : Given) (arg : List Char) :
    Except Refusal (Given × Option OptionForm) :=
  match arg with
  | '-' :: '-' :: name => g.longName given name
  | '-' :: cs => g.letters given cs
  | _ => .error .usage

/-- Adds a word. -/
def word (g : Grammar) (given : Given) (arg : String) : Except Refusal Given :=
  if g.words then .ok { given with words := given.words ++ [arg] } else .error .usage

/-- Reads arguments. Behind a double hyphen there are words only. -/
def read (g : Grammar) (given : Given) : List String → Except Refusal Given
  | [] => .ok given
  | "--" :: rest => rest.foldlM g.word given
  | arg :: rest =>
    if isOption arg.toList then do
      match ← g.option given arg.toList with
      | (given, none) => g.read given rest
      | (given, some o) =>
        match rest with
        | [] => .error .usage
        | value :: rest =>
          if isOption value.toList then .error .usage
          else do g.read (← give given o value) rest
    else if g.commands.contains arg then .ok { given with command := some (arg, rest) }
    else do g.read (← g.word given arg) rest

end Grammar

/-- The options that may stand everywhere. -/
def commonOptions : List OptionForm :=
  [{ long := "verbose", letter := some 'v' },
   { long := "config", letter := some 'c', takesValue := true },
   { long := "help", letter := some 'h' }]

/-- The arguments before the subcommand. -/
def mainGrammar : Grammar where
  options := commonOptions ++ [{ long := "version", letter := some 'V' }]
  commands := ["check", "list-rules", "init", "help"]

/-- The arguments of a check. -/
def checkGrammar : Grammar where
  options := commonOptions ++
    [{ long := "format", letter := some 'f', takesValue := true },
     { long := "rules", takesValue := true },
     { long := "locale", takesValue := true }]
  words := true

/-- The arguments of the list of rules. -/
def listRulesGrammar : Grammar where
  options := commonOptions

/-- The arguments of the making of a configuration. -/
def initGrammar : Grammar where
  options := commonOptions ++ [{ long := "force" }]

/-- The check that is asked for. -/
def checkAction (given : Given) : Except Refusal Action :=
  let format? := match given.options.lookup "format" with
    | none => some .text
    | some name => Format.ofName? name
  match format? with
  | none => .error .usage
  | some format =>
    if given.words.isEmpty || given.words.any (·.isEmpty) then .error .usage
    else .ok (.check {
      documents := given.words
      format
      rules := given.options.lookup "rules"
      locale := given.options.lookup "locale" })

/-- The subcommand that is asked for, with what was read of its arguments. -/
def subcommand (name : String) (args : List String) : Except Refusal (Given × Action) :=
  match name with
  | "check" => do
    let given ← checkGrammar.read {} args
    return (given, ← checkAction given)
  | "list-rules" => do return (← listRulesGrammar.read {} args, .listRules)
  | "init" => do
    let given ← initGrammar.read {} args
    return (given, .init (given.options.lookup "force").isSome)
  | _ => .error (if args.all mainGrammar.commands.contains then .help else .usage)

/-- The path of the configuration: the one behind the subcommand, else the one before it, else the
one that the environment holds. No path is empty. -/
def configPath (before behind : Given) (surrounding : Option String) :
    Except Refusal (Option String) :=
  let here := behind.options.lookup "config"
  let there := before.options.lookup "config"
  let paths := [here, there].filterMap id ++
    if here.isSome && there.isSome then [] else surrounding.toList
  if paths.any (·.isEmpty) then .error .usage else .ok paths.head?

/-- What the arguments ask for. -/
def Invocation.ofArguments (args : List String) (surrounding : Option String) :
    Except Refusal Invocation := do
  let before ← mainGrammar.read {} args
  match before.command with
  | none => .error .usage
  | some (name, args) =>
    let (behind, action) ← subcommand name args
    let config ← configPath before behind surrounding
    let verbose := (before.options.lookup "verbose").isSome ||
      (behind.options.lookup "verbose").isSome
    return { verbose, config, action }

end MarkupAudit.Command

import RecipeRunner.CommandLine.Help
import RecipeRunner.Recipe.Loading
import RecipeRunner.Run.Outcome
/-!
# The program

What the program does for its arguments: it reads the settings and the components, and runs or
checks a recipe or lists the components.  Nothing here reads or writes but through the file
system it is given, so the program is a function of what is around it.
-/

namespace RecipeRunner.CommandLine

/-- What is around the program. -/
structure Setting (m : Type → Type) where
  disk : Disk m
  workdir : String
  environment : List (String × String) := []
  /-- What can be read from the standard input. -/
  input : String := ""
  /-- The files that commands have to do with. -/
  files : Files := {}
  /-- The random numbers of a run. -/
  chance : Chance := .lowest

/-- What the program comes to. -/
structure Reply where
  code : Nat := 0
  streams : Streams := {}
  /-- The outcome of which a summary was written. -/
  summarised : Option Outcome := none

namespace Reply

/-- A reply that is a text. -/
def say (text : String) : Reply :=
  { streams := { out := text } }

/-- A reply that reports a failure behind what was written. -/
def failed (written : Streams) (failure : Failure) : Reply :=
  let isAbort := match failure with
    | .plain e | .during _ e => e.isUserAbort
    | .complaint _ => false
  let report := if isAbort then "Aborted.\n" else "Error: " ++ failure.report ++ "\n"
  { code := failure.exitCode, streams := written ++ { err := report } }

end Reply

/-- A result below what was being done. -/
def during {α : Type} (activity : String) (result : Except Error α) : Except Failure α :=
  result.mapError (.during activity)

/-- The variables of arguments such as `name=value`. -/
def assignedVars (arguments : List String) : Except Failure (List (String × Value)) :=
  arguments.mapM fun argument =>
    match Text.splitOnce? "=" argument with
    | some (name, value) =>
      if Text.isAllBlank name then .error (malformed argument)
      else .ok (Text.trimmed name, Value.ofOutput value)
    | none => .error (malformed argument)
where
  /-- The complaint about an argument. -/
  malformed (argument : String) : Failure :=
    .complaint ("Invalid variable '" ++ argument ++ "', expected KEY=VALUE")

/-- The file of the settings where none is named: the first of these that is there. -/
def configCandidates (environment? : String → Option String) : List String :=
  let home := (environment? "HOME").map fun home => Disk.child home ".config"
  let dir := ((environment? "XDG_CONFIG_HOME").filter fun dir => dir.startsWith "/").or home
  "sous.toml" :: (dir.map fun dir => Disk.child (Disk.child dir "sous") "config.toml").toList

section

variable {m : Type → Type} [Monad m]

/-- The first path that leads to a file. -/
def firstFile? (disk : Disk m) : List String → m (Option String)
  | [] => return none
  | path :: rest => do
    if ← disk.isFile path then return some path else firstFile? disk rest

/-- The settings of the program. -/
def loadConfig (s : Setting m) (named : Option String) : m (Except Error Config) := do
  let environment? (name : String) : Option String := s.environment.lookup name
  let path ← match named with
    | some path => pure (some path)
    | none => firstFile? s.disk (configCandidates environment?)
  let read ← match path with
    | some path => Config.load s.disk path
    | none => pure (.ok {})
  return read.map (·.withEnvironment environment?)

/-- The components in directories. -/
def loadComponents (s : Setting m) : List String → Registry → m (Except Failure Registry)
  | [], registry => return .ok registry
  | dir :: rest, registry => do
    match during ("Cannot load components from " ++ dir) (← s.disk.loadDir dir) with
    | .ok components => loadComponents s rest (registry.registerAll components)
    | .error failure => return .error failure

/-- Where and how a recipe is run. -/
def orderOf (s : Setting m) (config : Config) (registry : Registry) (request : RunRequest)
    (workdir : String) (vars : List (String × Value)) : Order where
  registry := registry
  config := config
  console := {
    color := config.color
    escapes := false
    progress := config.progress && !request.json
    quiet := request.json
    debug := request.debug }
  workplace := { shell := config.shell, workdir := workdir, environment := s.environment }
  state := {
    operator := if request.yes then .prepared {} true else .present
    input := Input.ofText s.input
    files := s.files }
  input := request.input
  vars := vars
  chance := s.chance

/-- The reply to a run that has come to its end. -/
def replyOf (recipe : Recipe) (json : Bool) (result : Except Error Outcome) (written : Streams) :
    Reply :=
  match during ("Recipe '" ++ recipe.name ++ "' failed") result with
  | .error failure => .failed written failure
  | .ok outcome =>
    if json then
      { streams := written ++ { out := outcome.summary.toJson 0 ++ "\n" }
        summarised := some outcome }
    else if outcome.exited then
      { streams := written ++ { err := "Recipe '" ++ recipe.name ++ "' exited early\n" } }
    else { streams := written }

/-- Runs a recipe. -/
def runRecipe (s : Setting m) (config : Config) (registry : Registry) (request : RunRequest) :
    m Reply := do
  match ← s.disk.loadRecipe request.recipe with
  | .error e => return .failed {} (.plain e)
  | .ok recipe =>
    match assignedVars request.vars with
    | .error failure => return .failed {} failure
    | .ok vars =>
      let workdir ← match request.workdir with
        | some dir => do
          pure (during ("Cannot use working directory " ++ dir)
            ((← s.disk.resolve dir).mapError .system))
        | none => pure (.ok s.workdir)
      match workdir with
      | .error failure => return .failed {} failure
      | .ok workdir =>
        match recipe.run (orderOf s config registry request workdir vars) with
        | some (result, written) => return replyOf recipe request.json result written
        | none => return { code := 1 }

/-- Checks a recipe. -/
def validate (s : Setting m) (registry : Registry) (path : String) : m Reply := do
  match ← s.disk.loadRecipe path with
  | .error e => return .failed {} (.plain e)
  | .ok recipe =>
    match during ("Cannot expand " ++ path) (Expansion.expand registry recipe.operations) with
    | .error failure => return .failed {} failure
    | .ok ops =>
      return .say ("✓ " ++ recipe.name ++ ": " ++ toString ops.length ++
        " top-level operations, " ++ toString (Operation.handlers ops).toList.length ++
        " addressable ids\n")

/-- The list of the components. -/
def listing (registry : Registry) : String :=
  if registry.size = 0 then "No components registered\n"
  else
    String.join (registry.ids.map fun id =>
      match ((registry.get? id).map Component.description).getD "" with
      | "" => id ++ "\n"
      | description => id ++ "  " ++ description ++ "\n")

/-- Reads the settings and the components for a command. -/
def prepared (s : Setting m) (common : Common) (command : Config → Registry → m Reply) :
    m Reply := do
  match ← loadConfig s common.config with
  | .error e => return .failed {} (.plain e)
  | .ok config =>
    let config := { config with color := config.color && !common.noColor }
    match ← loadComponents s (config.componentDirs ++ common.components) {} with
    | .error failure => return .failed {} failure
    | .ok registry => command config registry

/-- Does what the arguments ask for. -/
def perform (s : Setting m) (arguments : List String) : m Reply :=
  match Request.ofArguments arguments with
  | .error fault => return { code := 2, streams := { err := fault.report } }
  | .ok .version => return .say version
  | .ok (.help command) => return .say (help command)
  | .ok (.run common request) => prepared s common fun config registry =>
    runRecipe s config registry request
  | .ok (.validate common path) => prepared s common fun _ registry => validate s registry path
  | .ok (.components common) => prepared s common fun _ registry => return .say (listing registry)

end

end RecipeRunner.CommandLine

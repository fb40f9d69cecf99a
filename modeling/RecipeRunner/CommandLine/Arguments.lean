/-!
# Arguments of the command line

What the program is asked to do.  Options can stand before or behind what they belong to; what
can be said for all commands can be said before and behind the command, and there the latter
counts.
-/

namespace RecipeRunner.CommandLine

/-- An option. -/
structure Flag where
  long : String
  short : Option Char := none
  /-- What its value is called, if it has one. -/
  value : Option String := none
  repeatable : Bool := false
  /-- Whether its value is a path, which cannot be empty. -/
  isPath : Bool := false
  deriving Repr

/-- The options of all commands. -/
def commonFlags : List Flag :=
  [{ long := "config", short := some 'c', value := some "FILE", isPath := true },
   { long := "components", value := some "DIR", repeatable := true, isPath := true },
   { long := "no-color" }]

/-- The options of the command that runs recipes. -/
def runFlags : List Flag :=
  [{ long := "var", value := some "KEY=VALUE", repeatable := true },
   { long := "workdir", short := some 'C', value := some "DIR", isPath := true },
   { long := "debug" },
   { long := "yes", short := some 'y' },
   { long := "json" }]

/-- The options that show a text instead of doing something. -/
def helpFlag : Flag := { long := "help", short := some 'h' }

@[inherit_doc helpFlag]
def versionFlag : Flag := { long := "version", short := some 'V' }

/-- What is wrong with the arguments. -/
inductive UsageFault where
  | unexpected (argument : String)
  | repeated (option : String)
  | valueMissing (option : String)
  | valueUnexpected (option value : String)
  | unknownCommand (name : String)
  | argumentMissing (name : String)
  | commandMissing
  deriving DecidableEq, Repr

/-- The wording of a fault. -/
def UsageFault.message : UsageFault → String
  | unexpected argument => "unexpected argument '" ++ argument ++ "' found"
  | repeated option => "the argument '" ++ option ++ "' cannot be used multiple times"
  | valueMissing option => "a value is required for '" ++ option ++ "' but none was supplied"
  | valueUnexpected option value =>
    "unexpected value '" ++ value ++ "' for '" ++ option ++ "' found; no more were expected"
  | unknownCommand name => "unrecognized subcommand '" ++ name ++ "'"
  | argumentMissing name =>
    "the following required arguments were not provided:\n  <" ++ name ++ ">"
  | commandMissing => "'sous' requires a subcommand but one was not provided"

/-- How an option is shown. -/
def Flag.shown (f : Flag) : String :=
  "--" ++ f.long ++ (match f.value with
    | some name => " <" ++ name ++ ">"
    | none => "")

/-- What was found among arguments so far. -/
structure Found where
  /-- The options with their values, in order. -/
  options : List (String × String) := []
  positional : List String := []

namespace Found

/-- Whether an option was given. -/
def has (f : Found) (long : String) : Bool :=
  f.options.any (·.1 = long)

/-- The values of an option, in order. -/
def valuesOf (f : Found) (long : String) : List String :=
  (f.options.filter (·.1 = long)).map (·.2)

/-- Notes an option. -/
def note (f : Found) (flag : Flag) (value : String) : Except UsageFault Found :=
  if f.has flag.long && !flag.repeatable then .error (.repeated flag.shown)
  else if flag.isPath && value.isEmpty then .error (.valueMissing flag.shown)
  else .ok { f with options := f.options ++ [(flag.long, value)] }

end Found

/-- An argument, taken apart. -/
inductive Argument where
  /-- Everything behind it stands for itself. -/
  | divider
  /-- An option by its name, possibly with a value. -/
  | long (name : String) (value : Option String)
  /-- Options by their letters. -/
  | short (letters : List Char)
  | plain (text : String)
  deriving DecidableEq, Repr

/-- Takes an argument apart. -/
def Argument.ofText (s : String) : Argument :=
  match s.toList with
  | ['-', '-'] => divider
  | '-' :: '-' :: rest =>
    let name := rest.takeWhile (· != '=')
    long (String.ofList name) (((rest.drop name.length).tail?).map String.ofList)
  | '-' :: c :: rest => short (c :: rest)
  | _ => plain s

/-- Where the reading of arguments stands. -/
inductive Reading where
  /-- All arguments were read. -/
  | finished (found : Found)
  /-- A text was asked for by an option. -/
  | shown (long : String)
  /-- A command was met, with the arguments behind it. -/
  | command (found : Found) (name : String) (rest : List String)

/-- The options of a level, and whether it is followed by a command. -/
structure Level where
  flags : List Flag
  commandFollows : Bool
  /-- How many arguments stand for themselves. -/
  positional : Nat

/-- Reads letters of options.  Gives the option whose value has to follow, if there is one. -/
def readLetters (level : Level) (shown : String) : List Char → Found →
    Except UsageFault (Found × Option Flag × Option String)
  | [], found => .ok (found, none, none)
  | c :: rest, found =>
    match level.flags.find? (·.short = some c) with
    | none => .error (.unexpected ("-" ++ String.singleton c))
    | some flag =>
      if flag.long = "help" || flag.long = "version" then .ok (found, none, some flag.long)
      else if flag.value.isSome then
        match rest with
        | [] => .ok (found, some flag, none)
        | '=' :: value => (found.note flag (String.ofList value)).map (·, none, none)
        | value => (found.note flag (String.ofList value)).map (·, none, none)
      else
        match found.note flag "" with
        | .ok found => readLetters level shown rest found
        | .error fault => .error fault

/-- Reads arguments, where `wanted` is an option that still has no value. -/
def readArguments (level : Level) : (wanted : Option Flag) → List String → Found →
    Except UsageFault Reading
  | some flag, [], _ => .error (.valueMissing flag.shown)
  | none, [], found => .ok (.finished found)
  | some flag, s :: rest, found =>
    match Argument.ofText s with
    | .plain value =>
      match found.note flag value with
      | .ok found => readArguments level none rest found
      | .error fault => .error fault
    | _ => .error (.valueMissing flag.shown)
  | none, s :: rest, found =>
    match Argument.ofText s with
    | .divider =>
      let all := found.positional ++ rest
      match all[level.positional]? with
      | some extra => .error (.unexpected extra)
      | none => .ok (.finished { found with positional := all })
    | .long name value =>
      match level.flags.find? (·.long = name) with
      | none => .error (.unexpected ("--" ++ name))
      | some flag =>
        match flag.value, value with
        | some _, none => readArguments level (some flag) rest found
        | some _, some value =>
          match found.note flag value with
          | .ok found => readArguments level none rest found
          | .error fault => .error fault
        | none, some value => .error (.valueUnexpected flag.shown value)
        | none, none =>
          if name = "help" || name = "version" then .ok (.shown name)
          else
            match found.note flag "" with
            | .ok found => readArguments level none rest found
            | .error fault => .error fault
    | .short letters =>
      match readLetters level s letters found with
      | .error fault => .error fault
      | .ok (_, _, some text) => .ok (.shown text)
      | .ok (found, wanted, none) => readArguments level wanted rest found
    | .plain text =>
      if level.commandFollows then .ok (.command found text rest)
      else if found.positional.length < level.positional then
        readArguments level none rest { found with positional := found.positional ++ [text] }
      else .error (.unexpected text)

/-- What can be said for all commands. -/
structure Common where
  config : Option String := none
  components : List String := []
  noColor : Bool := false
  deriving DecidableEq, Repr

/-- What a recipe is to be run with. -/
structure RunRequest where
  recipe : String
  input : String := ""
  vars : List String := []
  workdir : Option String := none
  debug : Bool := false
  yes : Bool := false
  json : Bool := false
  deriving DecidableEq, Repr

/-- What the program is asked to do. -/
inductive Request where
  | version
  /-- Explains the program or one of its commands. -/
  | help (command : Option String)
  | run (common : Common) (request : RunRequest)
  | validate (common : Common) (recipe : String)
  | components (common : Common)
  deriving DecidableEq, Repr

/-- What was said for all commands before and behind the command. -/
def commonOf (before behind : Found) : Common :=
  let latter (long : String) : List String :=
    if behind.has long then behind.valuesOf long else before.valuesOf long
  { config := (latter "config").getLast?
    components := latter "components"
    noColor := before.has "no-color" || behind.has "no-color" }

/-- The commands by name. -/
def commandName? : String → Option String
  | "run" | "r" => some "run"
  | "validate" => some "validate"
  | "components" => some "components"
  | "help" => some "help"
  | _ => none

/-- The arguments and options of a command. -/
def levelOf (command : String) : Level :=
  match command with
  | "run" => ⟨commonFlags ++ runFlags ++ [helpFlag], false, 2⟩
  | "validate" => ⟨commonFlags ++ [helpFlag], false, 1⟩
  | _ => ⟨commonFlags ++ [helpFlag], false, 0⟩

/-- What a command is asked to do. -/
def Request.ofFound (command : String) (before found : Found) : Except UsageFault Request :=
  let common := commonOf before found
  match command, found.positional with
  | "components", _ => .ok (.components common)
  | _, [] => .error (.argumentMissing "RECIPE")
  | "validate", recipe :: _ =>
    if recipe.isEmpty then .error (.valueMissing "<RECIPE>") else .ok (.validate common recipe)
  | _, recipe :: rest =>
    if recipe.isEmpty then .error (.valueMissing "<RECIPE>")
    else .ok (.run common {
      recipe := recipe
      input := rest.headD ""
      vars := found.valuesOf "var"
      workdir := (found.valuesOf "workdir").getLast?
      debug := found.has "debug"
      yes := found.has "yes"
      json := found.has "json" })

/-- What the arguments ask for. -/
def Request.ofArguments (arguments : List String) : Except UsageFault Request :=
  match readArguments ⟨commonFlags ++ [helpFlag, versionFlag], true, 0⟩ none arguments {} with
  | .error fault => .error fault
  | .ok (.shown "version") => .ok .version
  | .ok (.shown _) => .ok (.help none)
  | .ok (.finished _) => .error .commandMissing
  | .ok (.command before name rest) =>
    match commandName? name with
    | none => .error (.unknownCommand name)
    | some "help" =>
      match rest with
      | [] => .ok (.help none)
      | topic :: _ =>
        match commandName? topic with
        | some command => .ok (.help (some command))
        | none => .error (.unknownCommand topic)
    | some command =>
      match readArguments (levelOf command) none rest {} with
      | .error fault => .error fault
      | .ok (.finished found) => Request.ofFound command before found
      | .ok _ => .ok (.help (some command))

end RecipeRunner.CommandLine

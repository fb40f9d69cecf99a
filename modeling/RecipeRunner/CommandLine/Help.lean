import RecipeRunner.CommandLine.Arguments
/-!
# Help

What the program says about itself.
-/

namespace RecipeRunner.CommandLine

/-- The name and the version of the program. -/
def version : String := "sous 0.1.0\n"

/-- What an option is for. -/
def Flag.purpose (f : Flag) : String :=
  match f.long with
  | "config" => "Config file path"
  | "components" => "Extra component directory (repeatable)"
  | "no-color" => "Disable colored output"
  | "var" => "Recipe variables (KEY=VALUE, repeatable)"
  | "workdir" => "Working directory for commands"
  | "debug" => "Log every operation and echo rendered commands"
  | "yes" => "Never prompt: use prompt defaults and continue past failures"
  | "json" => "Print the final outputs, results and tasks as JSON"
  | "version" => "Print version"
  | _ => "Print help"

/-- What a command is for. -/
def purposeOf : String → String
  | "run" => "Execute a recipe"
  | "validate" => "Parse a recipe and expand its components without running it"
  | "components" => "List registered component ids"
  | _ => "Print this message or the help of the given subcommand(s)"

/-- Lines of two columns. -/
def columns (rows : List (String × String)) : String :=
  let width := (rows.map (·.1.length)).foldl max 0
  String.join (rows.map fun (left, right) =>
    "  " ++ left.pushn ' ' (width - left.length) ++ "  " ++ right ++ "\n")

/-- The lines about options. -/
def flagLines (flags : List Flag) : String :=
  "Options:\n" ++ columns (flags.map fun f =>
    ((match f.short with
      | some c => "-" ++ String.singleton c ++ ", "
      | none => "    ") ++ f.shown, f.purpose))

/-- The lines about the arguments of a command. -/
def argumentLines : String → String
  | "run" => "Arguments:\n" ++ columns [("<RECIPE>", "Path to the recipe YAML file"),
      ("[INPUT]", "Data handed to every command on stdin and exposed as `.input`")] ++ "\n"
  | "validate" => "Arguments:\n" ++ columns [("<RECIPE>", "Path to the recipe YAML file")] ++ "\n"
  | _ => ""

/-- How a command is called. -/
def usageOf : Option String → String
  | none => "sous [OPTIONS] <COMMAND>"
  | some "run" => "sous run [OPTIONS] <RECIPE> [INPUT]"
  | some "validate" => "sous validate [OPTIONS] <RECIPE>"
  | some command => "sous " ++ command ++ " [OPTIONS]"

/-- The help on the program or on one of its commands. -/
def help : Option String → String
  | none =>
    "Run declarative YAML recipes of shell operations\n\nUsage: " ++ usageOf none ++
      "\n\nCommands:\n" ++
      columns (["run", "validate", "components", "help"].map fun c => (c, purposeOf c)) ++ "\n" ++
      flagLines (commonFlags ++ [helpFlag, versionFlag])
  | some command =>
    purposeOf command ++ "\n\nUsage: " ++ usageOf (some command) ++ "\n\n" ++
      argumentLines command ++ flagLines (levelOf command).flags

/-- What is written for a fault. -/
def UsageFault.report (fault : UsageFault) : String :=
  match fault with
  | .commandMissing => help none
  | fault =>
    "error: " ++ fault.message ++ "\n\nUsage: " ++ usageOf none ++
      "\n\nFor more information, try '--help'.\n"

end RecipeRunner.CommandLine

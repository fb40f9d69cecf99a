import RecipeRunner.Shell.Builtin.Basic
import RecipeRunner.Shell.Program
/-!
# Builtins about names

What a command name stands for, and aliases.
-/

namespace RecipeRunner.Shell.Builtin

open Work

/-- The builtins whose assignments stay and whose errors end a script. -/
def special : List String :=
  [".", ":", "break", "continue", "eval", "exec", "exit", "export", "local", "readonly",
   "return", "set", "shift", "times", "trap", "unset"]

/-- The builtins. -/
def names : List String :=
  special ++ ["[", "alias", "bg", "cd", "chdir", "command", "echo", "false", "fg", "getopts",
    "hash", "jobs", "kill", "printf", "pwd", "read", "test", "true", "type", "ulimit", "umask",
    "unalias", "wait"]

/-- What a command name stands for. -/
inductive Meaning where
  | keyword
  | alias (value : String)
  | function
  | builtin
  /-- A program, by its path. -/
  | program (path : String)
  | unknown

/-- What a command name stands for; programs are looked for in the directories of a list. -/
def meaning (s : Session) (files : Files) (path name : String) : Meaning :=
  if Token.keywords.contains name then .keyword
  else
    match s.aliases.get? name with
    | some value => .alias value
    | none =>
      if (s.functions.get? name).isSome then .function
      else if names.contains name then .builtin
      else if name.toList.contains '/' then
        let isThere := (Program.atPath? name).isSome ||
          (files.find (RecipeRunner.Place.ofPath s.workdir) name).toBool
        if isThere then .program name else .unknown
      else (Program.find? path name).elim .unknown .program

/-- A meaning in words; `again` is what a program is called. -/
def Meaning.shown (name again : String) : Meaning → String
  | keyword => name ++ " is a shell keyword"
  | .alias value => name ++ " is an alias for " ++ value
  | function => name ++ " is a shell function"
  | builtin =>
    name ++ (if special.contains name then " is a special shell builtin"
      else " is a shell builtin")
  | program path =>
    name ++ " is " ++ (if name.toList.contains '/' then "" else again) ++ path
  | unknown => name ++ ": not found"

/-- A meaning as a command of the same meaning. -/
def Meaning.command? (name : String) : Meaning → Option String
  | keyword | function | builtin => some name
  | .alias value => some ("alias " ++ name ++ "=" ++ quoted value)
  | program path => some path
  | unknown => none

/-- The directories in which programs are looked for. -/
def searchPath : Work String := do
  return ((← get).vars.get? "PATH").getD ""

/-- Shows what names stand for. -/
def type (arguments : List String) : Work Nat := do
  let s ← get
  let files := (← world).files
  let path ← searchPath
  let meanings := arguments.map fun name => (name, meaning s files path name)
  report (meanings.map fun (name, m) => m.shown name "")
  return if meanings.any fun (_, m) => m matches .unknown then 127 else 0

/-- Shows what a name stands for, in words or as a command. -/
def describe (inWords : Bool) (path : String) : List String → Work Nat
  | [] => return 0
  | name :: _ => do
    let m := meaning (← get) (← world).files path name
    if inWords then report [m.shown name "a tracked alias for "]
    else (m.command? name).forM fun text => report [text]
    return if m matches .unknown then 127 else 0

/-- Shows aliases or gives them values. -/
def «alias» (arguments : List String) : Work Nat := do
  let shown (name value : String) : String := name ++ "=" ++ quoted value
  if arguments.isEmpty then
    report ((← get).aliases.toList.map fun (name, value) => shown name value)
    return 0
  else
    let mut status := 0
    for argument in arguments do
      let name := String.ofList (argument.toList.takeWhile (· != '='))
      if name.length < argument.length && !name.isEmpty then
        modify fun s =>
          { s with aliases := s.aliases.set name (argument.drop (name.length + 1)).toString }
      else
        match (← get).aliases.get? argument with
        | some value => report [shown argument value]
        | none => do
          discard (write 2 ("alias: " ++ argument ++ " not found\n"))
          status := 1
    return status

/-- Takes aliases away. -/
def unalias (arguments : List String) : Work Nat := do
  let (options, operands) ← options [('a', false)] arguments
  if !options.isEmpty then
    modify fun s => { s with aliases := .empty }
    return 0
  else
    let mut status := 0
    for name in operands do
      if ((← get).aliases.get? name).isSome then
        modify fun s => { s with aliases := s.aliases.erase name }
      else
        discard (write 2 ("unalias: " ++ name ++ " not found\n"))
        status := 1
    return status

/-- Looks programs up. -/
def hash (arguments : List String) : Work Nat := do
  let (_, operands) ← options [('r', false), ('v', false)] arguments
  let s ← get
  let files := (← world).files
  let path ← searchPath
  let unknown := operands.filter fun name => meaning s files path name matches .unknown
  for name in unknown do
    complain (name ++ ": not found")
  return if unknown.isEmpty then 0 else 1

end RecipeRunner.Shell.Builtin

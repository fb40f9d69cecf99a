import RecipeRunner.CommandLine.Program
/-!
# Entry point

Connects the program to the file system, the environment and the standard streams.
-/

namespace RecipeRunner.Main

/-- Why a file cannot be read. -/
def reason : IO.Error → String
  | .noFileOrDirectory .. => Obstacle.notFound.message
  | .inappropriateType .. => Obstacle.isDirectory.message
  | e => toString e

/-- The file system of the machine. -/
def disk : Disk IO where
  read path := do
    try
      return .ok (← IO.FS.readFile path)
    catch e => return .error (reason e)
  isFile path := do
    let place := (← IO.currentDir) / path
    return (← place.pathExists) && !(← place.isDir)
  isDir path := do ((← IO.currentDir) / path).isDir
  names path := do
    let found ← ((← IO.currentDir) / path).readDir
    return (found.toList.map (·.fileName)).mergeSort
  resolve path := do
    try
      return .ok (← IO.FS.realPath path).toString
    catch e => return .error (reason e)

/-- The names of the variables of the environment that matter. -/
def environmentNames : List String :=
  ["HOME", "PATH", "USER", "LANG", "XDG_CONFIG_HOME", "NO_COLOR", "SOUS_MAX_DEPTH", "SOUS_SHELL"]

end RecipeRunner.Main

open RecipeRunner in
/-- Runs the program for its arguments.  Only runs read the standard input. -/
def main (arguments : List String) : IO UInt32 := do
  let mut environment : List (String × String) := []
  for name in Main.environmentNames do
    if let some value ← IO.getEnv name then environment := (name, value) :: environment
  let input ← match CommandLine.Request.ofArguments arguments with
    | .ok (.run ..) => (← IO.getStdin).readToEnd
    | _ => pure ""
  let seed := (← IO.getRandomBytes 8).toList.foldl (fun seed byte => seed * 256 + byte.toNat) 0
  let setting : CommandLine.Setting IO := {
    disk := Main.disk
    workdir := (← IO.currentDir).toString
    environment := environment
    input := input
    chance := .ofSeed seed }
  let reply ← CommandLine.perform setting arguments
  (← IO.getStdout).putStr reply.streams.out
  (← IO.getStderr).putStr reply.streams.err
  return reply.code.toUInt32

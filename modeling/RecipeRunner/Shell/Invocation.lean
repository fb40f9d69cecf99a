import RecipeRunner.Shell.Interpretation
/-!
# Invocations of the shell

A script is run by a shell in surroundings: a working directory, variables, an input and files.
What comes of it is how the shell ended, what it and the processes that it started have written,
and what they have left behind.
-/

namespace RecipeRunner.Shell

/-- A script that is to be run by a shell. -/
structure Invocation where
  /-- What the shell is called. -/
  shell : String
  script : String
  workdir : String
  environment : List (String × String) := []
  /-- The bytes that can be read. -/
  input : List UInt8 := []
  /-- Whether the end of the shell is waited for, and not that of all that it writes. -/
  attached : Bool := false
  /-- The files that scripts have to do with. -/
  files : Files := {}

/-- What has come of a script. -/
structure Conclusion where
  ending : Ending
  out : List UInt8 := []
  err : List UInt8 := []
  /-- The bytes that were not read. -/
  input : List UInt8
  files : Files
  /-- How long the script took, in nanoseconds. -/
  duration : Nat := 0

/-- Whether a path leads to a shell. -/
def isShell (program : String) : Bool :=
  let name := if program.toList.contains '/' then Program.atPath? program else some program
  name = some "sh" || name = some "dash"

/-- The number of bytes that an argument of a program has at most. -/
def longestArgument : Nat := 131071

/-- Why a shell cannot be started. -/
def obstacle? (i : Invocation) : Option String :=
  let files := i.files.withSystem
  if i.script.contains '\x00' || i.shell.contains '\x00' then
    some "nul byte found in provided data"
  else if files.find [] i.workdir matches .ok (_, .file _) then some Obstacle.notDirectory.message
  else if !isShell i.shell then
    if (files.find [] i.shell).toBool then some Obstacle.denied.message
    else some Obstacle.notFound.message
  else if longestArgument < i.script.utf8ByteSize then
    some "Argument list too long (os error 7)"
  else none

/-- The fuel of a script that is run. -/
def patience : Nat := Decimal.tenTo 15

namespace Invocation

/-- The number of the process of the shell. -/
def process : Nat := 1000

/-- Runs a script by a shell. -/
def run (i : Invocation) : Conclusion :=
  match obstacle? i with
  | some reason => { ending := .notStarted reason, input := i.input, files := i.files }
  | none =>
    let empty : World := { files := i.files.withSystem, nextProcess := process + 1 }
    let (source, w) := empty.openPipe (ofBytes i.input) false
    let (out, w) := w.openPipe "" true
    let (err, w) := w.openPipe "" true
    let shell : Process := {
      parent := 1
      descriptors := [(0, .reading source), (1, .writing out), (2, .writing err)] }
    let environment := i.environment.map fun (name, value) => (name, ofText value)
    let session := Session.start i.shell (ofText i.workdir) environment process
    let script : Work Unit :=
      leaving patience (discard (runScript patience {} (ofText i.script)))
    let start := script { session, world := { w with processes := [(process, shell)] } }
      Work.conclude
    let (w, queue) := Waiting.joined [] process start
    let isOver (w : World) : Bool :=
      !w.isAlive process && !w.isHeld (.writing out) && !w.isHeld (.writing err)
    let w := Waiting.run isOver patience w queue
    let (ending, time) := ((w.process? process).bind Process.ending).getD (.exited 2, w.clock)
    { ending := ending
      out := toBytes (w.content out)
      err := toBytes (w.content err)
      input := toBytes (w.content source)
      files := w.files
      duration := if i.attached then time else w.clock }

end Invocation

end RecipeRunner.Shell

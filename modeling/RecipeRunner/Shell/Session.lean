import RecipeRunner.Shell.Command
import RecipeRunner.Shell.Ending
import RecipeRunner.Table
/-!
# Sessions of the shell

What a shell keeps while it runs a script: its variables, functions, options, traps and jobs.
-/

namespace RecipeRunner.Shell

/-- Why a shell stops what it is doing. -/
inductive Halt where
  | exit (code : Nat)
  /-- Something is wrong, and the shell has complained about it. -/
  | error
  /-- Ends as many loops. -/
  | stop (loops : Nat)
  /-- Ends all of as many loops but the last one, which goes on with its next pass. -/
  | again (loops : Nat)
  /-- Ends a function. -/
  | back
  deriving DecidableEq, Repr

/-- Processes that were started together to run in the background. -/
structure Job where
  number : Nat
  /-- The processes and how they ended. -/
  processes : List (Nat × Option Ending)
  /-- Whether the shell has waited for the job. -/
  awaited : Bool := false
  deriving Repr

namespace Job

/-- Whether a process of a job has not ended. -/
def isRunning (j : Job) : Bool :=
  j.processes.any fun (_, ending) => ending.isNone

/-- The ending of the last process of a job. -/
def ending (j : Job) : Ending :=
  (j.processes.getLast?.bind Prod.snd).getD (.exited 0)

/-- The number of the last process of a job. -/
def lastProcess (j : Job) : Nat :=
  (j.processes.getLast?.map Prod.fst).getD 0

end Job

/-- What a shell keeps. -/
structure Session where
  /-- What the shell calls itself. -/
  name : String
  workdir : String
  arguments : List String := []
  vars : Table String := .empty
  exported : List String := []
  readOnly : List String := []
  functions : Table Command := .empty
  aliases : Table String := .empty
  /-- The letters of the options that are set. -/
  options : List Char := []
  /-- The scripts that are run when signals come, by their numbers, or at the end, by zero. -/
  traps : List (Nat × String) := []
  /-- The signals whose handling cannot be changed. -/
  settledSignals : List Nat := []
  status : Nat := 0
  /-- The status of the latest command that was run for its output. -/
  innerStatus : Nat := 0
  /-- The status from before the script of a trap, while one is run. -/
  trapStatus : Option Nat := none
  /-- The line that is run. -/
  line : Nat := 1
  /-- The builtin that is run. -/
  builtin : Option String := none
  /-- Whether the builtin could not write all of its output. -/
  outputFailed : Bool := false
  /-- The number of the process. -/
  process : Nat
  /-- The number of the process in which the script was started. -/
  root : Nat
  loops : Nat := 0
  functionDepth : Nat := 0
  /-- The values of variables from before a function made them its own, latest first. -/
  locals : List (String × Option String × Bool) := []
  documents : List (Nat × List Piece) := []
  /-- The jobs, latest first. -/
  jobs : List Job := []
  /-- The bits that new files do not get. -/
  mask : Nat := 18
  /-- The latest process that was started to run in the background. -/
  background : Option Nat := none
  /-- The argument at which options are read next, and the place in the one before it. -/
  optionIndex : Nat := 1
  optionOffset : Option Nat := none
  /-- Whether the mark of traced commands is being expanded. -/
  expandsMark : Bool := false

namespace Session

/-- Whether an option is set. -/
def has (s : Session) (option : Char) : Bool :=
  s.options.contains option

/-- The characters at which unquoted values are cut into words. -/
def separators (s : Session) : List Char :=
  ((s.vars.get? "IFS").getD " \t\n").toList

/-- Whether a script is kept for some signal or for the end. -/
def hasTraps (s : Session) : Bool :=
  s.traps.any fun (_, script) => !script.isEmpty

/-- The variables that programs see. -/
def environment (s : Session) : List (String × String) :=
  s.vars.toList.filter fun (name, _) => s.exported.contains name

/-- Adds a job, with the first number that no other job needs. -/
def startJob (s : Session) (pids : List Nat) : Session :=
  let isNeeded (n : Nat) : Bool := s.jobs.any fun j => j.number = n && (j.isRunning || !j.awaited)
  let number := ((List.range (s.jobs.length + 1)).find? fun n => !isNeeded (n + 1)).elim 1 (· + 1)
  { s with
    jobs := ⟨number, pids.map fun pid => (pid, none), false⟩ ::
      s.jobs.filter (·.number != number)
    background := pids.getLast? }

/-- Notes how processes have ended. -/
def noteEndings (s : Session) (endings : List (Nat × Ending)) : Session :=
  let noted (j : Job) : Job :=
    { j with processes := j.processes.map fun (pid, old) => (pid, (endings.lookup pid).or old) }
  { s with jobs := s.jobs.map noted }

/-- The session of a process that a shell starts for a part of its script. -/
def inner (s : Session) (process : Nat) : Session :=
  { s with
    process := process
    traps := s.traps.filter fun (_, script) => script.isEmpty
    jobs := []
    trapStatus := none }

end Session

end RecipeRunner.Shell

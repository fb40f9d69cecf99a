import RecipeRunner.Decimal.Reading
import RecipeRunner.Shell.Builtin.Basic
import RecipeRunner.Shell.Ending
/-!
# Builtins about processes

Jobs, signals, and the scripts that are run when signals come.  Scripts call signals by their names;
some numbers have no name but their digits, and the number zero stands for the end of a shell.
-/

namespace RecipeRunner.Shell

namespace Signal

/-- The number behind the last signal. -/
def limit : Nat := 65

/-- The name of a signal. -/
def name (signal : Nat) : String :=
  if signal = 0 then "EXIT"
  else if signal = 16 || signal = 32 || signal = 33 then toString signal
  else if signal = 34 then "RTMIN"
  else if signal = 64 then "RTMAX"
  else if 34 < signal && signal < 50 then "RTMIN+" ++ toString (signal - 34)
  else if 50 ≤ signal && signal < 64 then "RTMAX-" ++ toString (64 - signal)
  else (signalNames[signal - 1]?).getD (toString signal)

/-- The signal of a number or a name, in any case; `least` is the first signal whose name
counts. -/
def read? (least : Nat) (s : String) : Option Nat :=
  match Decimal.readDigits? s.toList with
  | some n => if n < limit then some n else none
  | none =>
    let upper := s.map Char.toUpper
    ((List.range limit).drop least).find? fun n => name n = upper

end Signal

namespace Builtin

open Work

/-- The job that is meant by a text such as `%1`. -/
def jobOf (text : String) : Work Job := do
  let jobs := (← get).jobs
  let missing (reason : String) : Option Job → Work Job
    | some job => return job
    | none => abort reason
  match text.toList with
  | ['%'] | ['%', '%'] | ['%', '+'] => missing "No current job" jobs.head?
  | ['%', '-'] => missing "No previous job" jobs[1]?
  | '%' :: digits =>
    missing ("No such job: " ++ text)
      ((Decimal.readDigits? digits).bind fun n => jobs.find? (·.number = n))
  | _ => abort ("No such job: " ++ text)

/-- How a job stands. -/
def standing (job : Job) : String :=
  if job.isRunning then "Running"
  else
    match job.ending with
    | .exited 0 => "Done"
    | .exited code => "Done(" ++ toString code ++ ")"
    | .killed signal => signalPhrase signal
    | .notStarted _ | .lost _ => "Done"

/-- The line of a job; `mark` says whether it is the current or the previous one. -/
def jobLine (mark : Char) (showsProcesses : Bool) (job : Job) : String :=
  let front := "[" ++ toString job.number ++ "] " ++ String.singleton mark ++ " "
  let pids := job.processes.map fun (pid, _) => toString pid
  if showsProcesses then
    let first := front ++ pids.headD "" ++ " " ++ standing job
    let indent := "".pushn ' ' front.length
    let further := pids.tail.map fun pid => "\n" ++ indent ++ pid ++ " "
    String.join ((first :: further).map fun line => line ++ "".pushn ' ' (33 - line.length))
  else
    let first := front ++ standing job
    first ++ "".pushn ' ' (max (33 - first.length) 1) ++
      String.join (pids.tail.map fun _ => " | ")

/-- The lines that show jobs, and the jobs that are kept: one that is done is forgotten once it
is shown. -/
def jobLines (option : Char) : (all shown : List Job) → List String × List Job
  | all, [] => ([], all)
  | all, job :: rest =>
    let isAt (i : Nat) : Bool := (all[i]?).any (·.number = job.number)
    let mark := if isAt 0 then '+' else if isAt 1 then '-' else ' '
    let line := if option = 'p' then toString ((job.processes.head?.map Prod.fst).getD 0)
      else jobLine mark (option = 'l') job
    let isKept := option = 'p' || job.isRunning
    let (lines, all) :=
      jobLines option (if isKept then all else all.filter (·.number != job.number)) rest
    (line :: lines, all)

/-- Shows jobs. -/
def jobs (arguments : List String) : Work Nat := do
  let (options, operands) ← options [('l', false), ('p', false)] arguments
  discard collect
  let all := (← get).jobs
  let shown ← if operands.isEmpty then pure all else operands.mapM jobOf
  let (lines, kept) := jobLines ((options.getLast?.map Prod.fst).getD ' ') all shown
  report lines
  modify fun s => { s with jobs := kept }
  return 0

/-- Notes that the shell has waited for jobs. -/
def noteAwaited (numbers : List Nat) : Work Unit :=
  let noted (job : Job) : Job :=
    { job with awaited := job.awaited || numbers.contains job.number }
  modify fun s => { s with jobs := s.jobs.map noted }

/-- The nanoseconds that pass before a shell notices what it waits for. -/
def noticeTime : Nat := 50000

/-- Waits until jobs that satisfy a predicate are done.  If a signal is to be handled before, its
number is given. -/
def waitFor (tells : Bool) (isMeant : Job → Bool) : (steps : Nat) → Work (Option Nat)
  | 0 => return none
  | steps + 1 => do
    let endings ← collect
    let meant := (← get).jobs.filter isMeant
    let told := endings.filter fun (pid, _) =>
      tells && meant.any fun job => (job.processes.lookup pid).isSome
    for (_, ending) in told do
      ending.notice?.forM fun notice => discard (write 2 (notice ++ "\n"))
    if !meant.any Job.isRunning then
      noteAwaited (meant.map Job.number)
      return none
    else
      let pid := (← get).process
      let pending (w : World) : List Nat := (w.process? pid).elim [] Process.pending
      let signals := pending (← world)
      if endings.isEmpty && !signals.isEmpty then return signals.min?
      else
        await (.event fun w => !(w.endedChildren pid).isEmpty || !(pending w).isEmpty)
        spend noticeTime
        waitFor tells isMeant steps

/-- Waits for jobs. -/
def wait (arguments : List String) : Work Nat := do
  let words ← operands arguments
  let steps := 2 * (← world).processes.length + 4
  if words.isEmpty then
    return (← waitFor false (fun _ => true) steps).elim 0 (128 + ·)
  else
    let mut status := 127
    for word in words do
      let job? ← if word.startsWith "%" then some <$> jobOf word
        else do
          let pid ← number word
          pure ((← get).jobs.find? (·.lastProcess = pid))
      match job? with
      | none => status := 127
      | some job =>
        match ← waitFor true (·.number = job.number) steps with
        | some signal => return 128 + signal
        | none => status := (((← get).jobs.find? (·.number = job.number)).getD job).ending.code
    return status

/-- What `kill` is to be given. -/
def killUsage : String :=
  "Usage: kill [-s sigspec | -signum | -sigspec] [pid | job]... or\nkill -l [exitstatus]"

/-- Shows the names of signals. -/
def listSignals : List String → Work Nat
  | [] => do
    report ("0" :: (List.range Signal.limit).tail.map Signal.name)
    return 0
  | text :: _ => do
    let n ← number text
    let signal := if 128 < n then n - 128 else n
    if 0 < signal && signal < Signal.limit then
      report [Signal.name signal]
      return 0
    else abort ("invalid signal number or exit status: " ++ text)

/-- Sends a signal to what is meant by a text; gives whether there is such a process. -/
def sendTo (signal : Nat) (text : String) : Work Bool := do
  let pids ← if text.startsWith "%" then
      let job ← jobOf text
      -- Jobs are no groups of processes of their own.
      pure (if job.processes.isEmpty then [0] else [])
    else if text.startsWith "-" then do
      discard (number (text.drop 1).toString)
      pure []
    else do
      let pid ← number text
      pure [pid]
  let w ← world
  if pids.any fun pid => (w.process? pid).isSome then
    act fun w => pids.foldl (fun w pid => w.send pid signal) w
    return true
  else
    complain "No such process\n"
    return false

/-- Sends a signal to processes, or shows the names of signals. -/
def kill (arguments : List String) : Work Nat := do
  let (signal?, isList, operands) ← match arguments with
    | [] => abort killUsage
    | first :: rest => do
      let named := if first.startsWith "-" then Signal.read? 1 (first.drop 1).toString else none
      match named with
      | some signal => pure (some signal, false, rest)
      | none => do
        let (options, rest) ← options [('l', false), ('s', true)] arguments
        let signal? ← match options.reverse.lookup 's' with
          | some text =>
            match Signal.read? 1 text with
            | some signal => pure (some signal)
            | none => abort ("invalid signal number or name: " ++ text)
          | none => pure none
        pure (signal?, options.any fun (c, _) => c = 'l', rest)
  if isList && signal?.isNone then listSignals operands
  else if isList || operands.isEmpty then abort killUsage
  else
    let sent ← operands.mapM (sendTo (signal?.getD 15))
    return if sent.all id then 0 else 1

/-- Sets what is done when a signal comes. -/
def setTrap (signal : Nat) (script : Option String) : Work Unit := do
  modify fun s =>
    let others := s.traps.filter (·.1 != signal)
    { s with traps := script.elim others fun text => (signal, text) :: others }
  let s ← get
  if signal != 0 && !s.settledSignals.contains signal then
    let isIgnored := script = some ""
    let isCaught := script.any fun text => !text.isEmpty
    act (·.modify s.process fun p =>
      let ignored := p.ignored.filter (· != signal)
      let caught := p.caught.filter (· != signal)
      { p with
        ignored := if isIgnored then signal :: ignored else ignored
        caught := if isCaught then signal :: caught else caught })

/-- Keeps scripts that are run when signals come, or shows them. -/
def trap (arguments : List String) : Work Nat := do
  match ← operands arguments with
  | [] => do
    let traps := (← get).traps
    report ((List.range Signal.limit).filterMap fun signal =>
      (traps.lookup signal).map fun script =>
        "trap -- " ++ quoted script ++ " " ++ Signal.name signal)
    return 0
  | first :: rest => do
    let isScript := !rest.isEmpty && (Decimal.readDigits? first.toList).all (Signal.limit ≤ ·)
    let script := if isScript && first != "-" then some first else none
    for word in if isScript then rest else first :: rest do
      match Signal.read? 0 word with
      | some signal => setTrap signal script
      | none => do
        discard (write 2 ("trap: " ++ word ++ ": bad trap\n"))
        return 1
    return 0

end Builtin

end RecipeRunner.Shell

/-!
# How commands end

A command exits with a code, is killed by a signal, or could not be started.  One that was started
is lost to whoever waits for it if waiting for it, interrupting it or killing it fails.
-/

namespace RecipeRunner.Shell

/-- The signals by name, in the order of their numbers, which count from one. -/
def signalNames : List String :=
  ["HUP", "INT", "QUIT", "ILL", "TRAP", "ABRT", "BUS", "FPE", "KILL", "USR1", "SEGV", "USR2",
   "PIPE", "ALRM", "TERM", "STKFLT", "CHLD", "CONT", "STOP", "TSTP", "TTIN", "TTOU", "URG",
   "XCPU", "XFSZ", "VTALRM", "PROF", "WINCH", "IO", "PWR", "SYS"]

/-- What signals are called, in the order of their numbers. -/
def signalPhrases : List String :=
  ["Hangup", "Interrupt", "Quit", "Illegal instruction", "Trace/breakpoint trap", "Aborted",
   "Bus error", "Floating point exception", "Killed", "User defined signal 1",
   "Segmentation fault", "User defined signal 2", "Broken pipe", "Alarm clock", "Terminated",
   "Stack fault", "Child exited", "Continued", "Stopped (signal)", "Stopped",
   "Stopped (tty input)", "Stopped (tty output)", "Urgent I/O condition",
   "CPU time limit exceeded", "File size limit exceeded", "Virtual timer expired",
   "Profiling timer expired", "Window changed", "I/O possible", "Power failure",
   "Bad system call"]

/-- What a signal is called. -/
def signalPhrase (signal : Nat) : String :=
  match signalPhrases[signal - 1]? with
  | some phrase => phrase
  | none =>
    if 34 ≤ signal then "Real-time signal " ++ toString (signal - 34)
    else "Unknown signal " ++ toString signal

/-- How a command comes to its end. -/
inductive Ending where
  | exited (code : Nat)
  | killed (signal : Nat)
  | notStarted (reason : String)
  | lost (reason : String)
  deriving DecidableEq, Repr, Inhabited

namespace Ending

/-- Whether a command was successful. -/
def isSuccess : Ending → Bool
  | exited code => code = 0
  | killed _ | notStarted _ | lost _ => false

/-- The status by which a shell knows an ending. -/
def code : Ending → Nat
  | exited code => code
  | killed signal => 128 + signal
  | notStarted _ | lost _ => 127

/-- What a shell says of a process that was killed, unless it was interrupted or wrote to a pipe
that nobody reads. -/
def notice? : Ending → Option String
  | killed 2 | killed 13 => none
  | killed signal => some (signalPhrase signal)
  | exited _ | notStarted _ | lost _ => none

/-- The wording of an ending. -/
def status : Ending → String
  | exited code => "exit status: " ++ toString code
  | killed signal =>
    "signal: " ++ toString signal ++
      (match signalNames[signal - 1]? with
        | some name => " (SIG" ++ name ++ ")"
        | none => "")
  | notStarted _ | lost _ => "failed to start"

end Ending

end RecipeRunner.Shell

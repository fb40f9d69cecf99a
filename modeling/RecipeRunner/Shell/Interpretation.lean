import RecipeRunner.Shell.Arithmetic
import RecipeRunner.Shell.Builtin.Job
import RecipeRunner.Shell.Builtin.Name
import RecipeRunner.Shell.Builtin.Place
import RecipeRunner.Shell.Expansion
import RecipeRunner.Shell.Printf
import RecipeRunner.Shell.Reader
import RecipeRunner.Shell.Test
/-!
# Running shell scripts

Words are expanded and commands are run.  Scripts can repeat commands without end, so the fuel
bounds how deep the recursion goes; a shell that would need more is stopped.
-/

namespace RecipeRunner.Shell

/-- How a command is run. -/
structure Mode where
  /-- Whether the status is tested, so that a failure does not end the script. -/
  tested : Bool := false
  /-- Whether the process does nothing behind the command. -/
  last : Bool := false

/-- The mode of a command behind which others are run. -/
def Mode.inner (m : Mode) : Mode :=
  { m with last := false }

/-- The fuel that reading a script takes at most. -/
def readingFuel (script : List Char) : Nat :=
  8 * script.length + 100

namespace Builtin

/-- Ends the process. -/
def exit (arguments : List String) : Work Nat := do
  let s ← get
  throw (.exit (← numberOr (s.trapStatus.getD s.status) arguments))

/-- Ends a function or a script. -/
def «return» (arguments : List String) : Work Nat := do
  Work.setStatus (← numberOr (← get).status arguments)
  throw .back

/-- Leaves loops, either for good or for their next pass. -/
def leaveLoops (halt : Nat → Halt) (arguments : List String) : Work Nat := do
  let n ← numberOr 1 arguments
  if n = 0 then Work.abort ("Illegal number: " ++ arguments.headD "")
  let loops := (← get).loops
  if loops = 0 then return 0
  else
    Work.setStatus 0
    throw (halt (min n loops))

/-- Writes its arguments in a format. -/
def printf (arguments : List String) : Work Nat := do
  let outcome := Printf.run arguments
  for text in outcome.complaints do
    Work.complain text
  output outcome.out
  return outcome.status

/-- What a path leads to. -/
def placeOf (s : Session) (files : Files) (path : String) : Option Test.Place :=
  match files.find (RecipeRunner.Place.ofPath s.workdir) path with
  | .ok (_, .device) => some .device
  | .ok (_, .directory) => some .directory
  | .ok (_, .file text) => some (.file text.isEmpty)
  | .error _ => none

/-- Finds out whether an expression holds; by one of its names it has to end in a bracket. -/
def test (name : String) (arguments : List String) : Work Nat := do
  if name = "[" && arguments.getLast? != some "]" then Work.abort "missing ]"
  else
    let words := if name = "[" then arguments.dropLast else arguments
    let files := (← Work.world).files
    match Test.run (placeOf (← get) files) words with
    | .ok holds => return if holds then 0 else 1
    | .error text => Work.abort text

/-- What there is of job control without a terminal. -/
def resume (arguments : List String) : Work Nat := do
  let job ← jobOf (arguments.headD "%")
  Work.abort ("job " ++ toString job.number ++ " not created under job control")

/-- Runs a builtin that runs no further commands; gives the status. -/
def run (fuel : Nat) (name : String) (arguments : List String) : Work Nat :=
  match name with
  | ":" | "true" | "times" => return 0
  | "false" => return 1
  | "echo" => do
    output (Escape.echo arguments)
    return 0
  | "printf" => printf arguments
  | "test" | "[" => test name arguments
  | "exit" => exit arguments
  | "return" => «return» arguments
  | "break" => leaveLoops .stop arguments
  | "continue" => leaveLoops .again arguments
  | "set" => set arguments
  | "shift" => shift arguments
  | "export" => exportVars arguments
  | "readonly" => protectVars arguments
  | "local" => localVars arguments
  | "unset" => unset arguments
  | "read" => read fuel arguments
  | "getopts" => getopts arguments
  | "cd" | "chdir" => cd arguments
  | "pwd" => pwd arguments
  | "umask" => umask arguments
  | "ulimit" => do
    report ["unlimited"]
    return 0
  | "trap" => trap arguments
  | "kill" => kill arguments
  | "wait" => wait arguments
  | "jobs" => jobs arguments
  | "fg" | "bg" => resume arguments
  | "type" => type arguments
  | "alias" => «alias» arguments
  | "unalias" => unalias arguments
  | "hash" => hash arguments
  | _ => return 0

/-- The options of `command` that only describe, and the directories in which it looks. -/
def commandOptions (arguments : List String) : Work (List Char × Option String × List String) := do
  let (options, rest) ← options [('p', false), ('v', false), ('V', false)] arguments
  let letters := options.map Prod.fst
  return (letters.filter (· != 'p'),
    if letters.contains 'p' then some Program.defaultPath else none, rest)

end Builtin

namespace Session

/-- The session of a shell that is started by a program. -/
def start (name workdir : String) (environment : List (String × String)) (process : Nat) :
    Session :=
  let vars := Table.ofList ([("PATH", Program.defaultPath)] ++ environment ++
    [("PWD", workdir), ("IFS", " \t\n"), ("OPTIND", "1"), ("PS1", "$ "), ("PS2", "> "),
      ("PS4", "+ ")])
  { name := name
    workdir := workdir
    vars := vars
    exported := "PWD" :: environment.map Prod.fst
    process := process
    root := process }

end Session

open Work

/-- How the arguments of a shell are read: its options, and what it runs. -/
structure Order where
  /-- Whether a script is among the arguments. -/
  hasScript : Bool := false
  readsInput : Bool := false
  operands : List String := []

/-- Reads the arguments of a shell and sets its options. -/
def readOrder : (steps : Nat) → Order → List String → Work Order
  | 0, order, rest => return { order with operands := rest }
  | _, order, [] => return order
  | steps + 1, order, word :: rest =>
    match word.toList with
    | ['-'] | ['-', '-'] => return { order with operands := rest }
    | sign :: c :: more =>
      if sign = '-' || sign = '+' then do
        let letters := c :: more
        let known := letters.filter fun letter => sign = '+' || letter != 'c'
        let rest ← Builtin.setLetters (sign = '-') known rest
        readOrder steps { order with
          hasScript := order.hasScript || (sign = '-' && letters.contains 'c')
          readsInput := order.readsInput || (sign = '-' && letters.contains 's') } rest
      else return { order with operands := word :: rest }
    | _ => return { order with operands := word :: rest }

mutual

/-- The spans of pieces. -/
def expandPieces : (fuel : Nat) → List Piece → Work (List Span)
  | 0, _ => throw (.exit 2)
  | _ + 1, [] => return []
  | fuel + 1, piece :: rest => do
    let first ← expandPiece fuel piece
    return first ++ (← expandPieces fuel rest)

/-- The spans of a piece. -/
def expandPiece : (fuel : Nat) → Piece → Work (List Span)
  | 0, _ => throw (.exit 2)
  | fuel + 1, piece => do
    let origin (quoted : Bool) : Origin := if quoted then .quoted else .expanded
    match piece with
    | .text s quoted => return [.text s (if quoted then .quoted else .written)]
    | .output body quoted => do
      let text ← outputOf fuel body
      let kept := (text.toList.filter (· != '\x00')).reverse.dropWhile (· = '\n')
      return [.text kept.reverse (origin quoted)]
    | .number expression quoted => do
      let text ← joined (← expandPieces fuel expression)
      let vars := (← get).vars
      match Arithmetic.evaluate (fun name => (vars.get? name).getD "") text with
      | .ok (n, assigned) => do
        for (name, value) in assigned do
          assign name (toString value)
        return [.text (toString n).toList (origin quoted)]
      | .error fault => abort (fault.message text)
    | .parameter name change quoted => expandParameter fuel name change quoted

/-- What a command writes. -/
def outputOf : (fuel : Nat) → Command → Work String
  | 0, _ => throw (.exit 2)
  | fuel + 1, body => do
    match body with
    | .sequence [] => do
      modify fun s => { s with innerStatus := 0 }
      return ""
    | _ => do
      let pipe ← openPipe ""
      let child ← fork (fun pid w => w.replace pid 1 (.writing pipe))
        (leaving fuel (run fuel { last := true } body))
      let pid := (← get).process
      -- The pipe is read through a descriptor that no script can name.
      let hidden := 1000
      connect hidden (.reading pipe)
      let text ← readAll hidden fuel ""
      act (·.disconnect pid hidden)
      act (·.closePipe pipe)
      let status ← awaitStatus [child]
      modify fun s => { s with innerStatus := status }
      return text

/-- The spans of a parameter with what is done to its value. -/
def expandParameter : (fuel : Nat) → String → Change → (quoted : Bool) → Work (List Span)
  | 0, _, _, _ => throw (.exit 2)
  | fuel + 1, name, change, quoted => do
    let isAll := name = "@" || name = "*"
    let s ← get
    let value? ← if isAll then pure (if s.arguments.isEmpty then none else some "") else
      parameter? name
    let origin := if quoted then Origin.quoted else .expanded
    let unset : Work Unit :=
      if value?.isNone && s.has 'u' && !isAll then abort (name ++ ": parameter not set")
      else pure ()
    let whole : Work (List Span) := do
      unset
      if isAll then allArguments (name = "*") quoted
      else
        match value? with
        | some v => return [.text v.toList origin]
        | none => return if quoted then [.text [] .quoted] else []
    let absent (orEmpty : Bool) : Bool :=
      match value? with
      | some v => orEmpty && v.isEmpty && !isAll
      | none => true
    match change with
    | .none => whole
    | .unknown => abort "Bad substitution"
    | .length => do
      unset
      let n := if isAll then s.arguments.length else (value?.getD "").length
      return [.text (toString n).toList origin]
    | .otherwise orEmpty word => if absent orEmpty then expandInner fuel word quoted else whole
    | .instead orEmpty word =>
      if absent orEmpty then return if quoted then [.text [] .quoted] else []
      else expandInner fuel word quoted
    | .assign orEmpty word =>
      if absent orEmpty then do
        let text ← joined (← expandPieces fuel word)
        if isName name.toList then assign name text
        else abort (name ++ ": bad variable name")
        return [.text text.toList origin]
      else whole
    | .demand orEmpty word =>
      if absent orEmpty then do
        let text ← joined (← expandPieces fuel word)
        let reason := if !word.isEmpty then text
          else if orEmpty then "parameter not set or null" else "parameter not set"
        abort (name ++ ": " ++ reason)
      else whole
    | .cut atStart longest pattern => do
      unset
      let pattern := Span.pattern (← expandPieces fuel pattern)
      let kept := Pattern.cut atStart longest pattern (value?.getD "").toList
      return [.text kept origin]

/-- The spans of a word inside a parameter, which are cut into words as if they were a value. -/
def expandInner : (fuel : Nat) → List Piece → (quoted : Bool) → Work (List Span)
  | 0, _, _ => throw (.exit 2)
  | fuel + 1, word, quoted => do
    let spans ← expandPieces fuel word
    return spans.map fun span =>
      match span with
      | .text s .written => .text s (if quoted then .quoted else .expanded)
      | other => other

/-- The spans of a word, whose leading tilde stands for the home directory. -/
def expandWord : (fuel : Nat) → List Piece → Work (List Span)
  | 0, _ => throw (.exit 2)
  | fuel + 1, word => do
    let home? := (← get).vars.get? "HOME"
    match word, home? with
    | .text ('~' :: more) false :: rest, some home =>
      if more.isEmpty || more.head? = some '/' then
        expandPieces fuel (.text home.toList true :: .text more false :: rest)
      else expandPieces fuel word
    | _, _ => expandPieces fuel word

/-- The words of words. -/
def expandWords : (fuel : Nat) → List (List Piece) → Work (List String)
  | 0, _ => throw (.exit 2)
  | _ + 1, [] => return []
  | fuel + 1, word :: rest => do
    let first ← wordsOf (← expandWord fuel word)
    return first ++ (← expandWords fuel rest)

/-- The words of a command.  Behind the name of a builtin that takes assignments they are kept
in one piece. -/
def expandCommand : (fuel : Nat) → (before : List String) → List (List Piece) →
    Work (List String)
  | 0, _, _ => throw (.exit 2)
  | _ + 1, before, [] => return before
  | fuel + 1, before, word :: rest => do
    let name := (before.find? (· != "command")).getD ""
    let takesAssignments := ["export", "readonly", "local", "alias"].contains name
    let isAssignment := match word with
      | .text s false :: _ =>
        let front := s.takeWhile (· != '=')
        isName front && front.length < s.length
      | _ => false
    let words ← if takesAssignments && isAssignment then do
        let text ← joined (← expandPieces fuel word)
        pure [text]
      else do
        let spans ← expandWord fuel word
        wordsOf spans
    expandCommand fuel (before ++ words) rest

/-- Gives variables the values of assignments, each of which sees the ones before it. -/
def assignAll : (fuel : Nat) → (give : String → String → Work Unit) →
    List (String × List Piece) → Work (List (String × String))
  | 0, _, _ => throw (.exit 2)
  | _ + 1, _, [] => return []
  | fuel + 1, give, (name, word) :: rest => do
    let value ← joined (← expandWord fuel word)
    give name value
    return (name, value) :: (← assignAll fuel give rest)

/-- The targets of redirections. -/
def expandTargets : (fuel : Nat) → List Redirection → Work (List Target)
  | 0, _ => throw (.exit 2)
  | _ + 1, [] => return []
  | fuel + 1, r :: rest => do
    let first ← match r with
      | .document descriptor number => do
        let pieces := ((← get).documents.lookup number).getD []
        pure (.document descriptor (← joined (← expandPieces fuel pieces)))
      | .file descriptor connection target => do
        pure (.file descriptor connection (← joined (← expandWord fuel target)))
    return first :: (← expandTargets fuel rest)

/-- Runs the scripts for signals that have come. -/
def handleSignals : (fuel : Nat) → Work Unit
  | 0 => throw (.exit 2)
  | fuel + 1 => do
    let s ← get
    let pending := ((← world).process? s.process).elim [] Process.pending
    match pending.min? with
    | none => pure ()
    | some signal => do
      act (·.modify s.process fun p => { p with pending := p.pending.filter (· != signal) })
      match s.traps.lookup signal with
      | some script => do
        modify fun s => { s with trapStatus := s.trapStatus.or (some s.status) }
        discard (runScript fuel {} script)
        modify fun inner => { inner with status := s.status, trapStatus := s.trapStatus }
      | none => pure ()
      handleSignals fuel

/-- Runs a part of a script at whose end the process ends: first it runs the script for the
end. -/
def leaving : (fuel : Nat) → Work Unit → Work Unit
  | 0, _ => throw (.exit 2)
  | fuel + 1, work => do
    let result ← settled work
    let s ← get
    let status := match result with
      | .error (.exit code) => code
      | _ => s.status
    match s.traps.lookup 0 with
    | none => throw (.exit status)
    | some script => do
      set { s with
        traps := s.traps.filter (·.1 != 0)
        status := status
        trapStatus := some status
        builtin := none }
      match ← settled (runScript fuel {} script) with
      | .error (.exit code) => throw (.exit code)
      | .error .error => throw (.exit (← get).status)
      | _ => throw (.exit status)

/-- Runs a command. -/
def run : (fuel : Nat) → Mode → Command → Work Unit
  | 0, _, _ => throw (.exit 2)
  | fuel + 1, mode, command => do
    if (← get).has 'n' then return
    handleSignals fuel
    let checked : Work Unit := do
      let s ← get
      if s.has 'e' && !mode.tested && s.status != 0 then throw (.exit s.status)
    match command with
    | .simple line assignments words redirections => do
      modify fun s => { s with line := line }
      runSimple fuel mode assignments words redirections
      checked
    | .pipeline commands => do
      setStatus (← awaitStatus (← startBars fuel { mode with last := true } false commands none))
      checked
    | .negated c => do
      run fuel { tested := true } c
      modify fun s => { s with status := if s.status = 0 then 1 else 0 }
    | .both a b => do
      run fuel { tested := true } a
      if (← get).status = 0 then run fuel mode b
    | .either a b => do
      run fuel { tested := true } a
      if (← get).status != 0 then run fuel mode b
    | .sequence commands => runAll fuel mode commands
    | .background c => do
      let pids ← match c with
        | .pipeline commands => startBars fuel { mode with last := true } true commands none
        | _ => do
          let child ← fork (fun pid w => (w.detached pid).replace pid 0 .nowhere)
            (leaving fuel (run fuel { last := true } c))
          pure [child]
      modify fun s => (s.startJob pids)
      setStatus 0
    | .apart line c => do
      modify fun s => { s with line := line }
      if mode.last && !(← get).hasTraps then run fuel mode c
      else
        let child ← fork (fun _ w => w) (leaving fuel (run fuel { mode with last := true } c))
        setStatus (← awaitStatus [child])
      checked
    | .redirected line c redirections => do
      modify fun s => { s with line := line }
      let targets ← expandTargets fuel redirections
      connecting targets (setStatus 2) (run fuel mode.inner c)
      checked
    | .choice condition success failure => do
      run fuel { tested := true } condition
      if (← get).status = 0 then run fuel mode success
      else
        match failure with
        | .sequence [] => setStatus 0
        | _ => run fuel mode failure
    | .loop whileFails condition body => runLoop fuel mode.inner whileFails condition body 0
    | .each line name words body => do
      modify fun s => { s with line := line }
      let items ← match words with
        | some words => expandWords fuel words
        | none => pure (← get).arguments
      setStatus 0
      runEach fuel mode.inner name body items
    | .cases line word arms => do
      modify fun s => { s with line := line }
      let text ← joined (← expandWord fuel word)
      runArms fuel mode text.toList arms
    | .define name body =>
      modify fun s => { s with functions := s.functions.set name body, status := 0 }
    handleSignals fuel

/-- Runs commands one after the other. -/
def runAll : (fuel : Nat) → Mode → List Command → Work Unit
  | 0, _, _ => throw (.exit 2)
  | _ + 1, _, [] => pure ()
  | fuel + 1, mode, [command] => run fuel mode command
  | fuel + 1, mode, command :: rest => do
    run fuel mode.inner command
    runAll fuel mode rest

/-- Starts the commands of a pipeline, the first of which reads `input` if there is one. -/
def startBars : (fuel : Nat) → Mode → (detached : Bool) → List Command →
    (input : Option Nat) → Work (List Nat)
  | 0, _, _, _, _ => throw (.exit 2)
  | _ + 1, _, _, [], _ => return []
  | fuel + 1, mode, detached, command :: rest, input => do
    let output ← if rest.isEmpty then pure none else some <$> openPipe ""
    let child ← fork (fun pid w =>
        let w := if detached then w.detached pid else w
        let w := match input with
          | some pipe => w.replace pid 0 (.reading pipe)
          | none => if detached then w.replace pid 0 .nowhere else w
        match output with
        | some pipe => w.replace pid 1 (.writing pipe)
        | none => w)
      (leaving fuel (run fuel mode command))
    return child :: (← startBars fuel mode detached rest output)

/-- Runs a loop with a condition; `status` is that of its latest pass. -/
def runLoop : (fuel : Nat) → Mode → (whileFails : Bool) → Command → Command → (status : Nat) →
    Work Unit
  | 0, _, _, _, _, _ => throw (.exit 2)
  | fuel + 1, mode, whileFails, condition, body, status => do
    let goesOn ← loopPass do
      run fuel { tested := true } condition
      if decide ((← get).status = 0) == whileFails then
        setStatus status
        throw (.stop 1)
      run fuel mode body
    if goesOn then runLoop fuel mode whileFails condition body (← get).status

/-- Runs a command for each of several words. -/
def runEach : (fuel : Nat) → Mode → String → Command → List String → Work Unit
  | 0, _, _, _, _ => throw (.exit 2)
  | _ + 1, _, _, _, [] => pure ()
  | fuel + 1, mode, name, body, item :: rest => do
    assign name item
    if ← loopPass (run fuel mode body) then runEach fuel mode name body rest

/-- Runs the first arm that has a pattern for a text. -/
def runArms : (fuel : Nat) → Mode → List Char → List (List (List Piece) × Command) → Work Unit
  | 0, _, _, _ => throw (.exit 2)
  | _ + 1, _, _, [] => setStatus 0
  | fuel + 1, mode, text, (patterns, body) :: rest => do
    if ← matchesSome fuel text patterns then
      match body with
      | .sequence [] => setStatus 0
      | _ => run fuel mode body
    else runArms fuel mode text rest

/-- Whether one of several patterns matches a text. -/
def matchesSome : (fuel : Nat) → List Char → List (List Piece) → Work Bool
  | 0, _, _ => throw (.exit 2)
  | _ + 1, _, [] => return false
  | fuel + 1, text, pattern :: rest => do
    if Pattern.isMatch (Span.pattern (← expandWord fuel pattern)) text then return true
    else matchesSome fuel text rest

/-- Writes words to where errors were written before redirections, if commands are traced. -/
def trace : (fuel : Nat) → Handle → List String → Work Unit
  | 0, _, _ => throw (.exit 2)
  | fuel + 1, errors, words => do
    let s ← get
    if s.has 'x' && !s.expandsMark then
      let mark := ((s.vars.get? "PS4").getD "").toList
      modify fun s => { s with expandsMark := true }
      let shown ← match (readPieces (readingFuel mark) .document).run { rest := mark } with
        | .ok (pieces, _) => joined (← expandPieces fuel pieces)
        | .error _ => pure (String.ofList mark)
      modify fun s => { s with expandsMark := false }
      discard (writeTo errors (shown ++ " ".intercalate words ++ "\n"))

/-- Runs a simple command. -/
def runSimple : (fuel : Nat) → Mode → List (String × List Piece) → List (List Piece) →
    List Redirection → Work Unit
  | 0, _, _, _, _ => throw (.exit 2)
  | fuel + 1, mode, assignments, words, redirections => do
    modify fun s => { s with innerStatus := 0 }
    let words ← expandCommand fuel [] words
    let targets ← expandTargets fuel redirections
    let errors ← handle 2
    let shown (assigned : List (String × String)) (words : List String) : List String :=
      assigned.map (fun (name, value) => name ++ "=" ++ value) ++ words
    match words with
    | [] =>
      connecting targets (setStatus 2) do
        let assigned ← assignAll fuel assign assignments
        trace fuel errors (shown assigned [])
        modify fun s => { s with status := s.innerStatus }
    | name :: arguments => do
      if Builtin.special.contains name then
        if ← connectAll targets then
          let isExec := name = "exec"
          ensuring (do
            let give (name value : String) : Work Unit := do
              assign name value
              if isExec && !arguments.isEmpty then
                modify fun s => { s with exported := s.exported ++ [name] }
            let assigned ← assignAll fuel give assignments
            trace fuel errors (shown assigned words)
            runBuiltin fuel mode name arguments)
            (if isExec then settleAll targets else disconnectAll targets)
        else
          setStatus 2
          throw .error
      else
        connecting targets (setStatus 2) do
          let give (name value : String) : Work Unit := do
            Builtin.keep name (some value)
            modify fun s => { s with exported := s.exported ++ [name] }
          let work : Work Unit := do
            let assigned ← assignAll fuel give assignments
            trace fuel errors (shown assigned words)
            runNamed fuel mode true none name arguments
          if assignments.isEmpty then work else restoring work
    spend 1000

/-- Runs what a name stands for: a function, a builtin, or a program that is looked for in the
directories of a list. -/
def runNamed : (fuel : Nat) → Mode → (mayBeFunction : Bool) → (path : Option String) →
    String → List String → Work Unit
  | 0, _, _, _, _, _ => throw (.exit 2)
  | fuel + 1, mode, mayBeFunction, path, name, arguments => do
    let s ← get
    match if mayBeFunction then s.functions.get? name else none with
    | some body =>
      functionBody arguments (run fuel mode.inner body)
    | none =>
      if name = "command" then runCommand fuel mode arguments
      else if Builtin.names.contains name then
        try runBuiltin fuel mode name arguments
        catch
          | .error => modify fun inner => { inner with builtin := s.builtin }
          | halt => throw halt
      else
        let s := match path with
          | some path => { s with vars := s.vars.set "PATH" path }
          | none => s
        match Program.named? s name with
        | some (program, _) =>
          if mode.last && !s.hasTraps then become s (runProgram fuel program name arguments)
          else
            let child ← fork (fun _ w => w) (runProgram fuel program name arguments)
            setStatus (← awaitStatus [child])
        | none => do
          let (reason, status) ← Program.obstacleTo name
          complain (name ++ ": " ++ reason)
          setStatus status

/-- Runs a command that is no function, or describes it. -/
def runCommand : (fuel : Nat) → Mode → List String → Work Unit
  | 0, _, _ => throw (.exit 2)
  | fuel + 1, mode, arguments => do
    let s ← get
    modify fun s => { s with builtin := some "command" }
    let result ← settled (Builtin.commandOptions arguments)
    modify fun inner => { inner with builtin := s.builtin }
    match result with
    | .error _ => setStatus 2
    | .ok ([], path, name :: rest) => runNamed fuel mode false path name rest
    | .ok ([], _, []) => setStatus 0
    | .ok (letters, path, names) => do
      let path := path.getD (← Builtin.searchPath)
      setStatus (← Builtin.describe (letters.contains 'V') path names)

/-- Runs a builtin. -/
def runBuiltin : (fuel : Nat) → Mode → String → List String → Work Unit
  | 0, _, _, _ => throw (.exit 2)
  | fuel + 1, mode, name, arguments => do
    let outer := (← get).builtin
    modify fun s => { s with builtin := some name, outputFailed := false }
    let status ← match name with
      | "eval" => do
        if ← runScript fuel mode.inner (" ".intercalate arguments) then pure (← get).status
        else pure 0
      | "." => runFile fuel (← Builtin.operands arguments)
      | "exec" =>
        match ← Builtin.operands arguments with
        | [] => pure 0
        | program :: rest => runInstead fuel program rest
      | _ => Builtin.run fuel name arguments
    if (← get).outputFailed then
      complain (name ++ ": I/O error")
      setStatus (status ||| 1)
    else setStatus status
    modify fun s => { s with builtin := outer, outputFailed := false }

/-- Runs the commands of a file in the present session. -/
def runFile : (fuel : Nat) → List String → Work Nat
  | 0, _ => throw (.exit 2)
  | _ + 1, [] => return 0
  | fuel + 1, path :: _ => do
    let s ← get
    if !path.toList.contains '/' then abort (path ++ ": not found")
    else
      match (← world).files.find (RecipeRunner.Place.ofPath s.workdir) path with
      | .error _ => abort ("cannot open " ++ path ++ ": No such file")
      | .ok (_, entry) => do
        let text := match entry with
          | .file text => text
          | _ => ""
        modify fun s => { s with builtin := some path }
        match ← settled (runScript fuel {} text) with
        | .ok true | .error .back => return (← get).status
        | .ok false => return 0
        | .error halt => throw halt

/-- Runs a program in place of the shell. -/
def runInstead : (fuel : Nat) → String → List String → Work Nat
  | 0, _, _ => throw (.exit 2)
  | fuel + 1, name, arguments => do
    let s ← get
    match Program.named? s name with
    | some (program, _) => become s (runProgram fuel program name arguments)
    | none => do
      let (reason, status) ← Program.obstacleTo name
      complain (name ++ ": " ++ reason)
      throw (.exit status)

/-- Runs a program, at whose end the process ends. -/
def runProgram : (fuel : Nat) → (program name : String) → List String → Work Unit
  | 0, _, _, _ => throw (.exit 2)
  | fuel + 1, program, name, arguments => do
    renounce
    if program = "sh" || program = "dash" then
      spend Program.startTime
      let s ← get
      let settled := ((← world).process? s.process).elim [] Process.ignored
      set { Session.start name s.workdir s.environment s.process with
        settledSignals := settled
        mask := s.mask }
      runShell fuel arguments
    else throw (.exit (← Program.run fuel program arguments))

/-- Runs a shell by its arguments. -/
def runShell : (fuel : Nat) → List String → Work Unit
  | 0, _ => throw (.exit 2)
  | fuel + 1, arguments => do
    let name := (← get).name
    modify fun s => { s with line := 0 }
    let order ← readOrder (arguments.length + 1) {} arguments
    let script ← if order.hasScript then
        match order.operands with
        | [] => abort "-c requires an argument"
        | script :: rest => do
          modify fun s => { s with name := rest.headD name, arguments := rest.tail }
          pure script
      else
        match order.readsInput, order.operands with
        | false, path :: rest => do
          let s ← get
          match (← world).files.find (RecipeRunner.Place.ofPath s.workdir) path with
          | .ok (_, entry) => do
            modify fun s => { s with name := path, arguments := rest }
            pure (match entry with
              | .file text => text
              | _ => "")
          | .error _ => abort ("cannot open " ++ path ++ ": No such file")
        | _, rest => do
          modify fun s =>
            { s with
              arguments := rest
              options := if s.has 's' then s.options else 's' :: s.options }
          readAll 0 fuel ""
    modify fun s => { s with line := 1 }
    leaving fuel (discard (runScript fuel {} script))

/-- Runs a script in the present session; gives whether there was a command in it. -/
def runScript : (fuel : Nat) → Mode → String → Work Bool
  | 0, _, _ => throw (.exit 2)
  | fuel + 1, mode, script => do
    let cs := script.toList
    runLines fuel mode (readingFuel cs) { rest := cs, nextDocument := (← get).documents.length }
      false

/-- Runs the lines of a script one after the other; `before` is whether a command was run. -/
def runLines : (fuel : Nat) → Mode → (readingFuel : Nat) → Cursor → (before : Bool) → Work Bool
  | 0, _, _, _, _ => throw (.exit 2)
  | fuel + 1, mode, readingFuel, cursor, before => do
    let cursor := { cursor with aliases := (← get).aliases.toList }
    match (readLine readingFuel).run cursor with
    | .error fault => do
      modify fun s => { s with line := fault.line }
      abort fault.text
    | .ok (none, _) => return before
    | .ok (some command, cursor) => do
      modify fun s => { s with documents := cursor.documents ++ s.documents }
      let isEmpty := match command with
        | .sequence [] => true
        | _ => false
      if !isEmpty then run fuel mode command
      runLines fuel mode readingFuel { cursor with documents := [] } (before || !isEmpty)

end

end RecipeRunner.Shell

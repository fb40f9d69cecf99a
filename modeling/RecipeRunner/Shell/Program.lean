import RecipeRunner.Shell.Cat
import RecipeRunner.Shell.Escape
import RecipeRunner.Shell.Sleep
import RecipeRunner.Shell.Transliteration
import RecipeRunner.Shell.Work
/-!
# Programs

The programs outside the shell that scripts can use, where they are found, and what they do.
-/

namespace RecipeRunner.Shell.Program

open Work

/-- The programs. -/
def names : List String :=
  ["cat", "dash", "echo", "false", "sh", "sleep", "tr", "true"]

/-- The directories that hold the programs. -/
def homes : List String := ["/bin", "/usr/bin"]

/-- Where programs are looked for unless a script says otherwise. -/
def defaultPath : String := "/usr/local/sbin:/usr/local/bin:/usr/sbin:/usr/bin:/sbin:/bin"

/-- The name of the program to which a path leads. -/
def atPath? (path : String) : Option String :=
  (homes.findSome? fun home => Text.stripStart? (home ++ "/") path).filter names.contains

/-- The path of a program by its name, in the directories of a list. -/
def find? (path name : String) : Option String :=
  ((Text.piecesOf ":" path).map (· ++ "/" ++ name)).find? fun found => (atPath? found).isSome

/-- The name of a program that is called by a name or a path, and its path. -/
def named? (s : Session) (name : String) : Option (String × String) := do
  let path ← if name.toList.contains '/' then some name
    else find? ((s.vars.get? "PATH").getD "") name
  return (← atPath? path, path)

/-- Why there is no program of a name, and the status that stands for it. -/
def obstacleTo (name : String) : Work (String × Nat) := do
  let here := RecipeRunner.Place.ofPath (← get).workdir
  let isThere := ((← world).files.find here name).toBool
  return if name.isEmpty then (Obstacle.denied.phrase, 127)
    else if name.toList.contains '/' && isThere then (Obstacle.denied.phrase, 126)
    else ("not found", 127)

/-- The nanoseconds that a program needs to start. -/
def startTime : Nat := 1000000

/-- Complains in the name of a program. -/
def complain (program text : String) : Work Unit :=
  discard (write 2 (program ++ ": " ++ text ++ "\n"))

/-- What `cat` has done so far. -/
structure Copying where
  state : Cat.State := {}
  status : Nat := 0

/-- Copies what is read from the standard input. -/
def copyInput (style : Cat.Style) : (fuel : Nat) → Cat.State → Work (Except Obstacle Cat.State)
  | 0, state => return .ok state
  | fuel + 1, state => do
    match ← supply 0 with
    | .error obstacle => return .error obstacle
    | .ok text =>
      if text.isEmpty then return .ok state
      else
        consume 0 text.length
        let (shown, state) := style.copy state text.toList
        discard (write 1 shown)
        copyInput style fuel state

/-- Copies a file. -/
def copyFile (fuel : Nat) (style : Cat.Style) (c : Copying) (path : String) : Work Copying := do
  let refuse (text : String) : Work Copying := do
    complain "cat" (path ++ ": " ++ text)
    return { c with status := 1 }
  let w ← world
  if path = "-" || path = "/dev/stdin" then
    match ← copyInput style fuel c.state with
    | .ok state => return { c with state := state }
    | .error obstacle => do
      let c ← refuse obstacle.phrase
      if obstacle = .badDescriptor then
        complain "cat" ("closing standard input: " ++ obstacle.phrase)
      return c
  else
    match w.files.find (RecipeRunner.Place.ofPath (← get).workdir) path with
    | .error obstacle => refuse obstacle.phrase
    | .ok (_, .directory) => refuse Obstacle.isDirectory.phrase
    | .ok (_, .device) => return c
    | .ok (place, .file text) => do
      let isOutput := match ← handle 1 with
        | .file number => (w.openFiles.lookup number).any fun f => f.place = place
        | _ => false
      if isOutput && !text.isEmpty then refuse "input file is output file"
      else
        let (shown, state) := style.copy c.state text.toList
        discard (write 1 shown)
        return { c with state := state }

/-- Copies files one behind the other. -/
def cat (fuel : Nat) (arguments : List String) : Work Nat := do
  match Cat.known.parse arguments with
  | .error text => do
    discard (write 2 text)
    return 1
  | .ok parsed => do
    if (← handle 1) = .closed then
      complain "cat" ("standard output: " ++ Obstacle.badDescriptor.phrase)
      return 1
    else
      let files := if parsed.operands.isEmpty then ["-"] else parsed.operands
      let style := Cat.Style.ofOptions parsed.options
      return (← files.foldlM (copyFile fuel style) {}).status

/-- Replaces characters. -/
def tr (fuel : Nat) (arguments : List String) : Work Nat := do
  let (text, filter?) := Transliteration.ofArguments arguments
  discard (write 2 text)
  match filter? with
  | some filter => do
    let input ← readAll 0 fuel ""
    discard (write 1 (String.ofList (filter.run input.toList)))
    return 0
  | none => return 1

/-- Lets time pass. -/
def sleep (arguments : List String) : Work Nat := do
  match Sleep.ofArguments arguments with
  | .ok nanoseconds => do
    spend nanoseconds
    return 0
  | .error text => do
    discard (write 2 text)
    return 1

/-- Writes its arguments; unlike the builtin it looks for escape sequences only if an option
asks for it. -/
def echo (arguments : List String) : Work Nat := do
  let isOption (s : String) : Bool :=
    match s.toList with
    | '-' :: c :: more => (c :: more).all ['n', 'e', 'E'].contains
    | _ => false
  let options := (arguments.takeWhile isOption).flatMap fun s => s.toList.tail
  let text := " ".intercalate (arguments.dropWhile isOption)
  let expands := options.findRev? (fun c => c = 'e' || c = 'E') = some 'e'
  let (shown, ended) := if expands then Escape.expand text else (text, false)
  discard (write 1 (if ended || options.contains 'n' then shown else shown ++ "\n"))
  return 0

/-- Runs a program that is no shell. -/
def run (fuel : Nat) (program : String) (arguments : List String) : Work Nat := do
  spend startTime
  match program with
  | "cat" => cat fuel arguments
  | "echo" => echo arguments
  | "false" => return 1
  | "sleep" => sleep arguments
  | "tr" => tr fuel arguments
  | _ => return 0

end RecipeRunner.Shell.Program

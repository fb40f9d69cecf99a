import RecipeRunner.Files
import RecipeRunner.Shell.Builtin.Option
import RecipeRunner.Shell.Builtin.Variable
import RecipeRunner.Shell.Pattern
import RecipeRunner.Shell.Word
/-!
# Values of parameters and targets of redirections

What parameters stand for, and what file descriptors are connected to for redirections.  A word that
is a pattern stands for the paths that it matches, name by name; a name that starts with a period is
matched only by a pattern that starts with one.
-/

namespace RecipeRunner.Shell

namespace Glob

/-- The parts of a pattern between slashes. -/
def parts : List Letter → List (List Letter)
  | [] => [[]]
  | ('/', _) :: rest => [] :: parts rest
  | letter :: rest =>
    match parts rest with
    | part :: others => (letter :: part) :: others
    | [] => [[letter]]

/-- The names in a directory that a part of a pattern matches. -/
def namesOf (f : Files) (here : RecipeRunner.Place) (dir : String) (part : List Letter) :
    List String :=
  match f.find here (if dir.isEmpty then "." else dir) with
  | .ok (p, .directory) =>
    let isHidden := (Pattern.unescaped part).head?.any fun (c, _) => c = '.'
    ([".", ".."] ++ f.names p).filter fun name =>
      name.startsWith "." = isHidden && Pattern.isMatch part name.toList
  | _ => []

/-- The paths that parts of a pattern match behind a directory. -/
def pathsFrom (f : Files) (here : RecipeRunner.Place) (dir : String) : List (List Letter) →
    List String
  | [] => []
  | [part] =>
    if Pattern.isActive part then (namesOf f here dir part).map (dir ++ ·)
    else
      let path := dir ++ String.ofList ((Pattern.unescaped part).map Prod.fst)
      if (f.find here path).toBool then [path] else []
  | part :: rest =>
    if Pattern.isActive part then
      (namesOf f here dir part).flatMap fun name => pathsFrom f here (dir ++ name ++ "/") rest
    else
      pathsFrom f here (dir ++ String.ofList ((Pattern.unescaped part).map Prod.fst) ++ "/") rest

/-- The words that a word stands for: the paths that it matches, ascending, or itself if there
are none. -/
def words (f : Files) (here : RecipeRunner.Place) (letters : List Letter) : List String :=
  let itself := String.ofList (letters.map Prod.fst)
  if !Pattern.isActive letters then [itself]
  else
    match (pathsFrom f here "" (parts letters)).mergeSort with
    | [] => [itself]
    | paths => paths

end Glob

/-- A redirection whose target is known. -/
inductive Target where
  | file (descriptor : Nat) (connection : Connection) (path : String)
  | document (descriptor : Nat) (text : String)

/-- The descriptor that a redirection connects. -/
def Target.descriptor : Target → Nat
  | file descriptor _ _ | document descriptor _ => descriptor

namespace Work

/-- The value of a parameter by its name; nothing if it is not set. -/
def parameter? (name : String) : Work (Option String) := do
  let s ← get
  match name with
  | "?" => return some (toString s.status)
  | "#" => return some (toString s.arguments.length)
  | "$" => return some (toString s.root)
  | "-" => return some (Builtin.shownOptions s)
  | "!" => return s.background.map toString
  | "0" => return some s.name
  | _ =>
    match Decimal.readDigits? name.toList with
    | some 0 => return some s.name
    | some (n + 1) => return s.arguments[n]?
    | none => return s.vars.get? name

/-- The spans of all arguments of the shell. -/
def allArguments (isStar quoted : Bool) : Work (List Span) := do
  let s ← get
  if isStar && quoted then
    let separator := s.separators.take 1
    return [.text (Text.joinWith separator (s.arguments.map String.toList)) .quoted]
  else
    let origin := if quoted then Origin.quoted else .expanded
    return (s.arguments.map fun a => Span.text a.toList origin).intersperse .separate

/-- The text of spans that are one word. -/
def joined (spans : List Span) : Work String := do
  return Span.joined ((← get).separators.take 1) spans

/-- The words of spans. -/
def wordsOf (spans : List Span) : Work (List String) := do
  let s ← get
  let files := (← world).files
  let here := RecipeRunner.Place.ofPath s.workdir
  return (Span.words s.separators spans).flatMap fun letters =>
    if s.has 'f' then [String.ofList (letters.map Prod.fst)] else Glob.words files here letters

/-- The descriptor to which a path leads that stands for one. -/
def descriptor? (path : String) : Option Nat :=
  match path with
  | "/dev/stdin" => some 0
  | "/dev/stdout" => some 1
  | "/dev/stderr" => some 2
  | _ => (Text.stripStart? "/dev/fd/" path).bind fun s => Decimal.readDigits? s.toList

/-- What a file descriptor of its own leads to, or why it leads nowhere. -/
def copied (text : String) : Work (Except String Handle) := do
  if text = "-" then return .ok .closed
  else
    match text.toList with
    | [c] =>
      if c.isDigit then
        match ← handle (c.toNat - '0'.toNat) with
        | .closed => return .error (text ++ ": " ++ Obstacle.badDescriptor.phrase)
        | h => return .ok h
      else abort "Syntax error: Bad fd number"
    | _ => abort "Syntax error: Bad fd number"

/-- What a path leads to, or why it leads nowhere. -/
def opened (connection : Connection) (path : String) : Work (Except String Handle) := do
  let s ← get
  let w ← world
  let here := RecipeRunner.Place.ofPath s.workdir
  let openAs (file : OpenFile) : Work (Except String Handle) := do
    let (h, w) := (← world).openFile file
    act fun _ => w
    return .ok h
  let cannotOpen (reason : String) : Except String Handle :=
    .error ("cannot open " ++ path ++ ": " ++ reason)
  let cannotCreate (reason : String) : Except String Handle :=
    .error ("cannot create " ++ path ++ ": " ++ reason)
  let reasonOf (missing : String) (o : Obstacle) : String :=
    if o = .notFound || o = .notDirectory then missing else o.phrase
  match descriptor? path, connection, w.files.find here path with
  | some d, _, _ => return .ok (← handle d)
  | none, _, .ok (_, .device) => return .ok .nowhere
  | none, .from, .ok (place, _) => openAs { place := place, reads := true, writes := false }
  | none, .from, .error o => return cannotOpen (reasonOf "No such file" o)
  | none, _, .ok (_, .directory) => return cannotCreate Obstacle.isDirectory.phrase
  | none, _, .ok (place, .file _) => do
    if connection = .into && s.has 'C' then return cannotCreate "File exists"
    else
      if connection = .into || connection = .over then
        act fun w => { w with files := w.files.put place (.file "") }
      openAs { place, reads := connection = .both, writes := true, appends := connection = .behind }
  | none, _, .error _ =>
    match w.files.locate here path with
    | .error o => return cannotCreate (reasonOf "Directory nonexistent" o)
    | .ok place =>
      if !w.files.isDirAt place.dropLast || path.endsWith "/" then
        return cannotCreate "Directory nonexistent"
      else
        act fun w => { w with files := w.files.put place (.file "") }
        openAs { place, reads := connection = .both, writes := true, appends := connection = .behind }

/-- Connects what redirections ask for, over what is connected already; gives whether all of it
could be connected.  If not, nothing stays. -/
def connectAll : List Target → Work Bool
  | [] => return true
  | t :: rest => do
    let result ← match t with
      | .document _ text => do
        let pipe ← openPipe text
        pure (.ok (.reading pipe))
      | .file _ .copy path => copied path
      | .file _ connection path => opened connection path
    match result with
    | .error reason => do
      complain reason
      return false
    | .ok h => do
      connect t.descriptor h
      if ← connectAll rest then return true
      else
        let pid := (← get).process
        act (·.disconnect pid t.descriptor)
        return false

/-- Disconnects what redirections asked for. -/
def disconnectAll (targets : List Target) : Work Unit := do
  let pid := (← get).process
  act fun w => targets.foldl (fun w t => w.disconnect pid t.descriptor) w

/-- Makes what redirections connected the only thing to which descriptors lead. -/
def settleAll (targets : List Target) : Work Unit := do
  let pid := (← get).process
  act fun w => (targets.reverse.map Target.descriptor).foldl (fun w d =>
    let h := w.handle pid d
    (w.disconnect pid d).replace pid d h) w

/-- Connects what redirections ask for while work is done; where that cannot be, `otherwise` is
done. -/
def connecting (targets : List Target) (otherwise work : Work Unit) : Work Unit := do
  if ← connectAll targets then ensuring work (disconnectAll targets) else otherwise

/-- Runs the body of a loop and gives whether the loop goes on. -/
def loopPass (body : Work Unit) : Work Bool := do
  modify fun s => { s with loops := s.loops + 1 }
  let result ← settled body
  modify fun s => { s with loops := s.loops - 1 }
  match result with
  | .ok _ | .error (.again 1) => return true
  | .error (.stop 1) => return false
  | .error (.stop n) => throw (.stop (n - 1))
  | .error (.again n) => throw (.again (n - 1))
  | .error halt => throw halt

/-- Takes back what variables were before work changed them. -/
def restoring (work : Work Unit) : Work Unit := do
  let outer := (← get).locals
  modify fun s => { s with locals := [] }
  ensuring work do
    modify fun s =>
      let restored (s : Session) (entry : String × Option String × Bool) : Session :=
        let (name, value, isExported) := entry
        let others := s.exported.filter (· != name)
        { s with
          vars := s.vars.restore name value
          exported := if isExported then others ++ [name] else others }
      { s.locals.foldl restored s with locals := outer }

/-- Runs the body of a function with arguments of its own. -/
def functionBody (arguments : List String) (body : Work Unit) : Work Unit := do
  let outer ← get
  modify fun s => { s with
    arguments := arguments
    functionDepth := outer.functionDepth + 1
    loops := 0
    optionIndex := 1
    optionOffset := none }
  let result ← settled (restoring body)
  modify fun s => { s with
    arguments := outer.arguments
    functionDepth := outer.functionDepth
    loops := outer.loops
    optionIndex := outer.optionIndex
    optionOffset := outer.optionOffset }
  match result with
  | .ok _ | .error .back => pure ()
  | .error halt => throw halt

/-- Makes the process one for a program: it handles no signals, and of what its descriptors lead
to it keeps what counts. -/
def renounce : Work Unit := do
  let pid := (← get).process
  act (·.modify pid fun p =>
    { p with
      caught := []
      pending := []
      descriptors := (Handle.visible p.descriptors).filter (·.1 < 10) })

end Work

end RecipeRunner.Shell

import RecipeRunner.Shell.Builtin.Basic
import RecipeRunner.Shell.Pattern
/-!
# Builtins about variables

What exports variables, makes them read-only or a function's own, takes them away, reads them
from a line and takes options apart.
-/

namespace RecipeRunner.Shell.Builtin

open Work

/-- Lists variables as commands that declare them. -/
def listDeclared (command : String) (names : List String) : Work Unit := do
  let s ← get
  report (names.eraseDups.mergeSort.map fun name =>
    command ++ " " ++ name ++ ((s.vars.get? name).elim "" fun value => "=" ++ quoted value))

/-- Marks variables, by arguments such as `name=value`. -/
def mark (command : String) (marked : Session → List String)
    (add : String → Session → Session) (arguments : List String) : Work Nat := do
  let (options, names) ← options [('p', false)] arguments
  if names.isEmpty || !options.isEmpty then listDeclared command (marked (← get))
  else
    for argument in names do
      let (name, value) ← assignment argument
      value.forM (assign name)
      modify (add name)
  return 0

/-- Exports variables. -/
def exportVars : List String → Work Nat :=
  mark "export" Session.exported fun name s => { s with exported := s.exported ++ [name] }

/-- Makes variables read-only. -/
def protectVars : List String → Work Nat :=
  mark "readonly" Session.readOnly fun name s => { s with readOnly := s.readOnly ++ [name] }

/-- Makes a variable a function's own: it keeps its value until it gets another one. -/
def keep (name : String) (value : Option String) : Work Unit := do
  modify fun s =>
    { s with locals := (name, s.vars.get? name, s.exported.contains name) :: s.locals }
  value.forM (assign name)

/-- Makes variables a function's own. -/
def localVars (arguments : List String) : Work Nat := do
  if (← get).functionDepth = 0 then abort "not in a function"
  for argument in arguments do
    let (name, value) ← assignment argument
    keep name value
  return 0

/-- Takes a variable away. -/
def takeAway (name : String) : Work Unit := do
  if (← get).readOnly.contains name then abort (name ++ ": is read only")
  modify fun s =>
    { s with
      vars := s.vars.erase name
      exported := s.exported.filter (· != name)
      optionIndex := if name = "OPTIND" then 1 else s.optionIndex
      optionOffset := if name = "OPTIND" then none else s.optionOffset }

/-- Takes variables or functions away. -/
def unset (arguments : List String) : Work Nat := do
  let (options, names) ← options [('v', false), ('f', false)] arguments
  for name in names do
    if options.getLast?.any fun (c, _) => c = 'f' then
      modify fun s => { s with functions := s.functions.erase name }
    else
      let (name, _) ← assignment name
      takeAway name
  return 0

/-- Drops arguments of the shell. -/
def shift (arguments : List String) : Work Nat := do
  let n ← numberOr 1 arguments
  let s ← get
  if s.arguments.length < n then abort "can't shift that many"
  else
    modify fun s =>
      { s with arguments := s.arguments.drop n, optionIndex := 1, optionOffset := none }
    return 0

/-- The blanks among separators. -/
def isBlankOf (separators : List Char) (c : Char) : Bool :=
  separators.contains c && (c = ' ' || c = '\t' || c = '\n')

/-- What is behind the blanks at the start of a line and at most one other separator. -/
def behindSeparator (separators : List Char) (letters : List Letter) : List Letter :=
  let isBlank (l : Letter) : Bool := l.2 && isBlankOf separators l.1
  match letters.dropWhile isBlank with
  | (c, true) :: rest => if separators.contains c then rest.dropWhile isBlank else (c, true) :: rest
  | rest => rest

/-- A line without the blanks at its end. -/
def withoutEndBlanks (separators : List Char) (letters : List Letter) : List Letter :=
  (letters.reverse.dropWhile fun l => l.2 && isBlankOf separators l.1).reverse

/-- Cuts a line into as many parts as there are names.  The last one takes all the rest, but not
the separator behind a single part. -/
def fields (separators : List Char) : (names : Nat) → List Letter → List (List Letter)
  | 0, _ => []
  | names + 1, letters =>
    let letters := letters.dropWhile fun l => l.2 && isBlankOf separators l.1
    let isInside (l : Letter) : Bool := !(l.2 && separators.contains l.1)
    let field := letters.takeWhile isInside
    let behind := letters.drop field.length
    if names = 0 then
      if (behindSeparator separators behind).isEmpty then [field]
      else [withoutEndBlanks separators letters]
    else field :: fields separators names (behindSeparator separators behind)

/-- The letters of a line, where backslashes quote, and whether the line goes on behind its
end. -/
def lineLetters : List Char → List Letter × Bool
  | [] => ([], false)
  | ['\\'] => ([], true)
  | '\\' :: c :: rest =>
    let (letters, goesOn) := lineLetters rest
    ((c, false) :: letters, goesOn)
  | c :: rest =>
    let (letters, goesOn) := lineLetters rest
    ((c, true) :: letters, goesOn)

/-- Reads a line from the standard input, and whether its end was read. -/
def readLetters (fuel : Nat) (isRaw : Bool) : (steps : Nat) → Work (List Letter × Bool)
  | 0 => return ([], false)
  | steps + 1 => do
    let (line, isWhole) ← Work.readLine 0 fuel ""
    let cs := line.toList.filter (· != '\x00')
    if isRaw then return (cs.map fun c => (c, true), isWhole)
    else
      let (letters, goesOn) := lineLetters cs
      if goesOn && isWhole then
        let (others, isWhole) ← readLetters fuel isRaw steps
        return (letters ++ others, isWhole)
      else return (letters, isWhole)

/-- Reads variables from a line. -/
def read (fuel : Nat) (arguments : List String) : Work Nat := do
  let (options, names) ← options [('p', true), ('r', false)] arguments
  if names.isEmpty then abort "arg count"
  else
    let (letters, isWhole) ← readLetters fuel (options.any fun (c, _) => c = 'r') fuel
    let parts := fields (← get).separators names.length letters
    for (name, part) in names.zip parts do
      let (name, _) ← assignment name
      assign name (String.ofList (part.map Prod.fst))
    return if isWhole then 0 else 1

/-- Where the reading of options stands. -/
structure Scan where
  /-- The word that is next, counting from one. -/
  index : Nat
  /-- What is left of the word before it. -/
  rest : List Char

/-- Finds the next option among words: its letter and its value, or nothing at their end. -/
def nextOption (known : List Char) (words : List String) (scan : Scan) :
    Work (Option (Char × Option String) × Scan) := do
  let isSilent := known.head? = some ':'
  let word (index : Nat) : Option String := words[index - 1]?
  let found : Option (List Char × Nat) :=
    if scan.rest.isEmpty then
      match (word scan.index).map String.toList with
      | some ['-', '-'] => none
      | some ('-' :: c :: more) => some (c :: more, scan.index + 1)
      | _ => none
    else some (scan.rest, scan.index)
  match found with
  | none =>
    let isMark := scan.rest.isEmpty && word scan.index = some "--"
    return (none, ⟨if isMark then scan.index + 1 else scan.index, []⟩)
  | some ([], index) => return (none, ⟨index, []⟩)
  | some (c :: more, index) =>
    let behind := known.dropWhile (· != c)
    if c = ':' || behind.isEmpty then
      if isSilent then return (some ('?', some (String.singleton c)), ⟨index, more⟩)
      else
        discard (write 2 ("Illegal option -" ++ String.singleton c ++ "\n"))
        return (some ('?', none), ⟨index, more⟩)
    else if behind[1]? = some ':' then
      match more, word index with
      | [], some value => return (some (c, some value), ⟨index + 1, []⟩)
      | [], none =>
        if isSilent then return (some (':', some (String.singleton c)), ⟨index, []⟩)
        else
          discard (write 2 ("No arg for -" ++ String.singleton c ++ " option\n"))
          return (some ('?', none), ⟨index, []⟩)
      | _, _ => return (some (c, some (String.ofList more)), ⟨index, []⟩)
    else return (some (c, some ""), ⟨index, more⟩)

/-- Takes the next option of the shell's arguments, or of further arguments, apart. -/
def getopts (arguments : List String) : Work Nat := do
  match ← operands arguments with
  | known :: name :: further => do
    let s ← get
    let words := if further.isEmpty then s.arguments else further
    let index := if words.length + 1 < s.optionIndex then 1 else s.optionIndex
    let rest := if index ≤ 1 || index ≠ s.optionIndex then []
      else s.optionOffset.elim [] fun offset => ((words[index - 2]?).getD "").toList.drop offset
    let (found, scan) ← nextOption known.toList words ⟨max index 1, rest⟩
    match found with
    | some (_, some value) => assign "OPTARG" value
    | some (_, none) => takeAway "OPTARG"
    | none => pure ()
    assign "OPTIND" (toString scan.index)
    let (name, _) ← assignment name
    assign name (String.singleton (found.elim '?' Prod.fst))
    let length := ((words[scan.index - 2]?).getD "").length
    modify fun s =>
      { s with
        optionIndex := scan.index
        optionOffset := if scan.rest.isEmpty then none else some (length - scan.rest.length) }
    return if found.isSome then 0 else 1
  | _ => abort "Usage: getopts optstring var [arg...]"

end RecipeRunner.Shell.Builtin

import RecipeRunner.Shell.Builtin.Basic
/-!
# Options of the shell

The builtin `set`, which sets the options of the shell and its arguments.
-/

namespace RecipeRunner.Shell.Builtin

open Work

/-- The names of the options, and their letters where they have some. -/
def shellOptions : List (String × Option Char) :=
  [("errexit", some 'e'), ("noglob", some 'f'), ("ignoreeof", some 'I'),
   ("interactive", some 'i'), ("monitor", some 'm'), ("noexec", some 'n'), ("stdin", some 's'),
   ("xtrace", some 'x'), ("verbose", some 'v'), ("vi", some 'V'), ("emacs", some 'E'),
   ("noclobber", some 'C'), ("allexport", some 'a'), ("notify", some 'b'), ("nounset", some 'u'),
   ("privileged", some 'p'), ("nolog", none), ("debug", none)]

/-- The letters of the options that are set, as a shell shows them. -/
def shownOptions (s : Session) : String :=
  String.ofList ((shellOptions.filterMap Prod.snd).reverse.filter s.has)

/-- Sets an option, or takes it back. -/
def setOption (on : Bool) (letter : Char) : Work Unit := do
  if shellOptions.any fun (_, known) => known = some letter then
    modify fun s =>
      let others := s.options.filter (· != letter)
      { s with options := if on then letter :: others else others }
  else abort ("Illegal option -" ++ String.singleton letter)

/-- Lists the options, as a table or as commands that set them. -/
def listOptions (asTable : Bool) : Work Unit := do
  let s ← get
  let isOn (letter : Option Char) : Bool := letter.any s.has
  if asTable then
    report ("Current option settings" :: shellOptions.map fun (name, letter) =>
      name ++ "".pushn ' ' (16 - name.length) ++ (if isOn letter then "on" else "off"))
  else
    report (shellOptions.map fun (name, letter) =>
      "set " ++ (if isOn letter then "-o " else "+o ") ++ name)

/-- Sets options by the letters of one word; the words behind it may name options. -/
def setLetters (on : Bool) : List Char → List String → Work (List String)
  | [], rest => return rest
  | 'o' :: more, rest =>
    match rest with
    | [] => do
      listOptions on
      setLetters on more []
    | name :: rest => do
      match shellOptions.lookup name with
      | none => abort ("Illegal option -o " ++ name)
      | some letter => do
        letter.forM (setOption on)
        setLetters on more rest
  | c :: more, rest => do
    setOption on c
    setLetters on more rest

/-- Sets options and gives the arguments that the shell gets; `steps` bounds the number of
words. -/
def setWords : (steps : Nat) → List String → Work (Option (List String))
  | 0, _ => return none
  | _, [] => return none
  | steps + 1, word :: rest =>
    let orNone (words : List String) : Option (List String) :=
      if words.isEmpty then none else some words
    match word.toList with
    | ['-', '-'] => return some rest
    | ['-'] => do
      setOption false 'x'
      setOption false 'v'
      return orNone rest
    | '-' :: letters => do setWords steps (← setLetters true letters rest)
    | '+' :: letters => do setWords steps (← setLetters false letters rest)
    | _ => return some (word :: rest)

/-- Sets options. -/
def set (arguments : List String) : Work Nat := do
  match arguments with
  | [] => do
    let vars := (← get).vars.toList.mergeSort fun a b => a.1 ≤ b.1
    report (vars.map fun (name, value) => name ++ "=" ++ quoted value)
  | _ => do
    match ← setWords (arguments.length + 1) arguments with
    | some words => modify fun s =>
        { s with arguments := words, optionIndex := 1, optionOffset := none }
    | none => pure ()
  return 0

end RecipeRunner.Shell.Builtin

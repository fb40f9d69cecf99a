import RecipeRunner.Decimal.Reading
import RecipeRunner.Shell.Token
import RecipeRunner.Shell.Work
/-!
# What the builtins of the shell have in common

How options, numbers and names among arguments are read, and how texts are quoted.
-/

namespace RecipeRunner.Shell.Builtin

open Work

/-- The letters that are known, and whether a value follows them. -/
abbrev Letters := List (Char × Bool)

/-- Reads the options that stand in one word, and the words behind it. -/
def lettersOf (known : Letters) : List Char → List String →
    Work (List (Char × String) × List String)
  | [], rest => return ([], rest)
  | c :: more, rest =>
    match known.lookup c with
    | none => abort ("Illegal option -" ++ String.singleton c)
    | some false => do
      let (options, rest) ← lettersOf known more rest
      return ((c, "") :: options, rest)
    | some true =>
      match more, rest with
      | [], [] => abort ("No arg for -" ++ String.singleton c ++ " option")
      | [], value :: rest => return ([(c, value)], rest)
      | _, _ => return ([(c, String.ofList more)], rest)

/-- Reads options up to the first word that is none; `steps` bounds the number of words. -/
def optionsWithin (known : Letters) : (steps : Nat) → List String →
    Work (List (Char × String) × List String)
  | 0, rest => return ([], rest)
  | steps + 1, word :: rest =>
    match word.toList with
    | ['-', '-'] => return ([], rest)
    | '-' :: c :: more => do
      let (options, rest) ← lettersOf known (c :: more) rest
      let (others, rest) ← optionsWithin known steps rest
      return (options ++ others, rest)
    | _ => return ([], word :: rest)
  | _, [] => return ([], [])

/-- Reads the options of a builtin and gives the arguments behind them. -/
def options (known : Letters) (arguments : List String) :
    Work (List (Char × String) × List String) :=
  optionsWithin known (arguments.length + 1) arguments

/-- The arguments of a builtin that has no options. -/
def operands (arguments : List String) : Work (List String) := do
  return (← options [] arguments).2

/-- The largest number that a builtin takes. -/
def greatest : Nat := 2147483647

/-- A natural number. -/
def number (s : String) : Work Nat :=
  match Decimal.readDigits? s.toList with
  | some n => if n ≤ greatest then return n else abort ("Illegal number: " ++ s)
  | none => abort ("Illegal number: " ++ s)

/-- The number that is the first argument, or what stands for it where there is none. -/
def numberOr (missing : Nat) : List String → Work Nat
  | [] => return missing
  | s :: _ => number s

/-- Cuts a text into runs of quotes and of other characters. -/
def runs (cs : List Char) : List (List Char) :=
  cs.splitBy fun a b => (a = '\'') = (b = '\'')

/-- A text in quotes, such that a shell reads it back. -/
def quoted (s : String) : String :=
  let cs := s.toList
  let pieces := runs cs
  let shown := pieces.map fun run =>
    let mark := if run.head? = some '\'' then "\"" else "'"
    mark ++ String.ofList run ++ mark
  (if cs.isEmpty || cs.head? = some '\'' then "''" else "") ++ String.join shown

/-- The name of an assignment, and its value if there is one. -/
def assignment (s : String) : Work (String × Option String) := do
  let name := s.toList.takeWhile (· != '=')
  let value := match s.toList.drop name.length with
    | _ :: value => some (String.ofList value)
    | [] => none
  if isName name then return (String.ofList name, value)
  else abort (String.ofList name ++ ": bad variable name")

/-- Writes to the standard output. -/
def output (text : String) : Work Unit := do
  if !(← write 1 text) then modify fun s => { s with outputFailed := true }

/-- Writes lines to the standard output. -/
def report (lines : List String) : Work Unit :=
  output (String.join (lines.map (· ++ "\n")))

end RecipeRunner.Shell.Builtin

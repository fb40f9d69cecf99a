import RecipeRunner.Shell.Builtin.Basic
/-!
# Builtins about places

The working directory and the bits that new files do not get.
-/

namespace RecipeRunner.Shell.Builtin

open Work

/-- The directory that is meant by the argument of `cd`, and whether it is shown. -/
def destination (s : Session) (isDirectory : String → Bool) (argument : Option String) :
    String × Bool :=
  let value (name : String) : String := (s.vars.get? name).getD ""
  let (target, shows) := match argument with
    | none => (value "HOME", false)
    | some "-" => (value "OLDPWD", true)
    | some target => (target, false)
  let isPlain := target.startsWith "/" || target = "." || target = ".." ||
    target.startsWith "./" || target.startsWith "../"
  if isPlain then (target, shows)
  else
    let target := if target.isEmpty then "." else target
    let bases := Text.piecesOf ":" ((s.vars.get? "CDPATH").getD "")
    let paths := bases.map fun base =>
      if base.isEmpty then (target, shows) else (base ++ "/" ++ target, true)
    (paths.find? fun (path, _) => isDirectory path).getD (target, shows)

/-- Changes the working directory. -/
def cd (arguments : List String) : Work Nat := do
  let (_, operands) ← options [('L', false), ('P', false)] arguments
  let s ← get
  let w ← world
  let here := RecipeRunner.Place.ofPath s.workdir
  let isDirectory (path : String) : Bool := w.files.find here path matches .ok (_, .directory)
  let (target, shows) := destination s isDirectory operands.head?
  match w.files.find here target with
  | .ok (place, .directory) => do
    modify fun s => { s with workdir := place.path }
    assign "OLDPWD" s.workdir
    assign "PWD" place.path
    if shows then report [place.path]
    return 0
  | _ => abort ("can't cd to " ++ target)

/-- Shows the working directory. -/
def pwd (arguments : List String) : Work Nat := do
  discard (options [('L', false), ('P', false)] arguments)
  report [(← get).workdir]
  return 0

/-- The rights of one kind of user that a mask leaves. -/
def rights (mask shift : Nat) : String :=
  let bits := 7 - mask / shift % 8
  String.join ([(4, "r"), (2, "w"), (1, "x")].map fun (bit, letter) =>
    if bits / bit % 2 = 1 then letter else "")

/-- Shows or sets the bits that new files do not get. -/
def umask (arguments : List String) : Work Nat := do
  let (options, operands) ← options [('S', false)] arguments
  match operands with
  | [] => do
    let mask := (← get).mask
    if options.isEmpty then
      let digits := String.ofList (Nat.toDigits 8 mask)
      report ["".pushn '0' (4 - digits.length) ++ digits]
    else report ["u=" ++ rights mask 64 ++ ",g=" ++ rights mask 8 ++ ",o=" ++ rights mask 1]
  | text :: _ =>
    if text.toList.all Char.isDigit then
      if text.toList.all fun c => c < '8' then
        let mask := text.toList.foldl (fun n c => 8 * n + (c.toNat - '0'.toNat)) 0
        modify fun s => { s with mask := mask % 512 }
      else abort ("Illegal number: " ++ text)
  return 0

end RecipeRunner.Shell.Builtin

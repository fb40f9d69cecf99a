import RecipeRunner.Document.Yaml.Reading
import RecipeRunner.Files
import RecipeRunner.Recipe.Basic
import RecipeRunner.Recipe.Document
/-!
# Loading recipes and components

Reading recipes and components from texts and files.  A directory is searched with all that is
in it, in the order of names, and files of components that cannot be read are passed over.
-/

namespace RecipeRunner

/-- What reading a document gives, with a document that does not fit as the error. -/
def Document.fitting (result : Document.Decoded α) : Except Error α :=
  result.mapError .document

/-- The recipe of a text. -/
def Recipe.ofYaml (text : String) : Except Error Recipe :=
  let shape := .record (Recipe.fieldShapes Document.maxDepth)
  Document.fitting (Document.ofYaml shape text >>= Recipe.ofDocument)

/-- The components of a text.  Scalars have their types before it is known whether a text holds
one component or a list of them. -/
def Component.listOfYaml (text : String) : Except Error (List Component) :=
  Document.fitting (Document.ofYaml (.anything false) text >>= Component.listOfDocument)

namespace Disk

variable {m : Type → Type} [Monad m]

/-- Reads a file whose text has to be something. -/
def load (disk : Disk m) (ofText : String → Except Error α) (path : String) :
    m (Except Error α) := do
  match ← disk.read path with
  | .error reason => return .error (.load path reason)
  | .ok text => return (ofText text).mapError fun e => .load path e.message

/-- Reads a recipe. -/
def loadRecipe (disk : Disk m) (path : String) : m (Except Error Recipe) :=
  disk.load Recipe.ofYaml path

/-- Reads the components of a file. -/
def loadComponents (disk : Disk m) (path : String) : m (Except Error (List Component)) :=
  disk.load Component.listOfYaml path

/-- What follows the last point in the name of a file, unless the name starts with that point. -/
def extension? (name : String) : Option String :=
  let back := name.toList.reverse
  let last := back.takeWhile (· ≠ '.')
  let before := (back.dropWhile (· ≠ '.')).drop 1
  if before.isEmpty || name = ".." then none else some (String.ofList last.reverse)

/-- Whether a name is that of a file of components. -/
def isComponentFile (name : String) : Bool :=
  extension? name = some "yml" || extension? name = some "yaml"

mutual

/-- Reads the components in a directory, in which directories may be nested `depth` levels
deep. -/
def gather (disk : Disk m) (dir : String) : (depth : Nat) → m (List Component)
  | 0 => return []
  | depth + 1 => do gatherNames disk dir depth (← disk.names dir)

/-- Reads the components under names in a directory. -/
def gatherNames (disk : Disk m) (dir : String) (depth : Nat) :
    List String → m (List Component)
  | [] => return []
  | name :: rest => do
    let path := child dir name
    let found ←
      if ← disk.isDir path then disk.gather path depth
      else if (← disk.isFile path) && isComponentFile name then do
        match ← disk.loadComponents path with
        | .ok components => pure components
        | .error _ => pure []
      else pure []
    return found ++ (← gatherNames disk dir depth rest)

end

/-- How deeply directories may be nested. -/
def maxDepth : Nat := 255

/-- Reads the components in a directory. -/
def loadDir (disk : Disk m) (dir : String) : m (Except Error (List Component)) := do
  if ← disk.isDir dir then return .ok (← disk.gather dir maxDepth)
  else return .error (.load dir "not a directory")

end Disk

end RecipeRunner

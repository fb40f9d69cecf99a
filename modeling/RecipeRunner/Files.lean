import RecipeRunner.Text.Basic
/-!
# Files

What the loaders need of a file system, and a file system that is a value.  A path is followed
name by name: each name but the last has to lead to a directory that is there.
-/

namespace RecipeRunner

/-- Why a file cannot be used. -/
inductive Obstacle where
  | notFound
  | notDirectory
  | isDirectory
  | nameTooLong
  | denied
  | badDescriptor
  deriving DecidableEq, Repr

namespace Obstacle

/-- What is the matter. -/
def phrase : Obstacle → String
  | notFound => "No such file or directory"
  | notDirectory => "Not a directory"
  | isDirectory => "Is a directory"
  | nameTooLong => "File name too long"
  | denied => "Permission denied"
  | badDescriptor => "Bad file descriptor"

/-- The number by which systems know an obstacle. -/
def code : Obstacle → Nat
  | notFound => 2
  | notDirectory => 20
  | isDirectory => 21
  | nameTooLong => 36
  | denied => 13
  | badDescriptor => 9

/-- The wording of an obstacle. -/
def message (o : Obstacle) : String :=
  o.phrase ++ " (os error " ++ toString o.code ++ ")"

end Obstacle

/-- What the loaders need of a file system. -/
structure Disk (m : Type → Type) where
  /-- The text of a file, or why it cannot be read. -/
  read : String → m (Except String String)
  isFile : String → m Bool
  isDir : String → m Bool
  /-- The names in a directory, ascending. -/
  names : String → m (List String)
  /-- The whole path of what a path leads to, or why it leads nowhere. -/
  resolve : String → m (Except String String)

namespace Disk

/-- The path of a name in a directory. -/
def child (dir name : String) : String :=
  if dir.isEmpty then name else if dir.endsWith "/" then dir ++ name else dir ++ "/" ++ name

end Disk

/-- What stands at a place. -/
inductive Entry where
  | file (text : String)
  | directory
  /-- A device from which nothing comes and in which everything is lost. -/
  | device
  deriving DecidableEq, Repr

/-- A place: the names that lead to it from the root. -/
abbrev Place := List String

namespace Place

/-- The place of a whole path without steps back. -/
def ofPath (path : String) : Place :=
  (Text.piecesOf "/" path).filter fun name => name ≠ "" && name ≠ "."

/-- The path of a place. -/
def path (p : Place) : String :=
  "/" ++ "/".intercalate p

end Place

/-- What stands at places.  The root is always a directory. -/
structure Files where
  entries : List (Place × Entry) := []
  deriving Repr

namespace Files

/-- What stands at a place. -/
def entry? (f : Files) (p : Place) : Option Entry :=
  if p.isEmpty then some .directory else f.entries.lookup p

/-- Whether a directory is at a place. -/
def isDirAt (f : Files) (p : Place) : Bool :=
  f.entry? p = some .directory

/-- Puts something at a place. -/
def put (f : Files) (p : Place) (e : Entry) : Files :=
  if (f.entries.lookup p).isSome then
    ⟨f.entries.map fun (q, old) => (q, if q = p then e else old)⟩
  else ⟨f.entries ++ [(p, e)]⟩

/-- Makes the directories that lead to a place. -/
def makeParents (f : Files) (p : Place) : Files :=
  (List.range p.length).foldl (fun f n =>
    if (f.entry? (p.take n)).isSome then f else f.put (p.take n) .directory) f

/-- Puts something where a path leads, unless something stands there, with the directories that
lead there. -/
def provide (f : Files) (path : String) (e : Entry) : Files :=
  let p := Place.ofPath path
  if (f.entry? p).isSome then f else (f.makeParents p).put p e

/-- The files of texts by their paths, and further directories. -/
def ofList (texts : List (String × String)) (dirs : List String) : Files :=
  let start : Files := dirs.foldl (fun f dir => f.provide dir .directory) {}
  texts.foldl (fun f (path, text) =>
    let p := Place.ofPath path
    (f.makeParents p).put p (.file text)) start

/-- The directories that every system has. -/
def systemDirectories : List String :=
  ["/bin", "/dev", "/etc", "/home", "/proc", "/root", "/tmp", "/usr", "/usr/bin", "/var"]

/-- Files together with the directories and devices that every system has. -/
def withSystem (f : Files) : Files :=
  (systemDirectories.foldl (fun f dir => f.provide dir .directory) f).provide "/dev/null" .device

/-- The names in a directory, ascending. -/
def names (f : Files) (dir : Place) : List String :=
  (f.entries.filterMap fun (p, _) =>
    if p.length = dir.length + 1 && dir.isPrefixOf p then p.getLast? else none).mergeSort

/-- The number of bytes of a name at most. -/
def longestName : Nat := 255

/-- The number of bytes of a path, which is always less. -/
def pathLimit : Nat := 4096

/-- Goes from a place by names.  Where a name leads, something need not be there yet, unless
further names follow. -/
def walk (f : Files) (p : Place) : List String → Except Obstacle Place
  | [] => .ok p
  | name :: rest =>
    match f.entry? p with
    | none => .error .notFound
    | some .directory =>
      if longestName < name.utf8ByteSize then .error .nameTooLong
      else
        walk f (if name = "" || name = "." then p else if name = ".." then p.dropLast
          else p ++ [name]) rest
    | some _ => .error .notDirectory

/-- The place to which a path leads in a working directory, whether or not something is there. -/
def locate (f : Files) (workdir : Place) (path : String) : Except Obstacle Place :=
  if path.isEmpty then .error .notFound
  else if pathLimit ≤ path.utf8ByteSize then .error .nameTooLong
  else f.walk (if path.startsWith "/" then [] else workdir) (Text.piecesOf "/" path)

/-- What stands where a path leads, and the place. -/
def find (f : Files) (workdir : Place) (path : String) : Except Obstacle (Place × Entry) := do
  let p ← f.locate workdir path
  match f.entry? p with
  | some e => return (p, e)
  | none => throw .notFound

/-- The text that is read where a path leads. -/
def read (f : Files) (workdir : Place) (path : String) : Except Obstacle String := do
  match ← f.find workdir path with
  | (_, .file text) => return text
  | (_, .device) => return ""
  | (_, .directory) => throw .isDirectory

/-- Files as a file system with a working directory. -/
def disk (f : Files) (workdir : Place) : Disk Id :=
  let found? (path : String) : Option (Place × Entry) := (f.find workdir path).toOption
  { read := fun path => (f.read workdir path).mapError Obstacle.message
    isFile := fun path => (found? path).any fun (_, e) => e matches .file _
    isDir := fun path => (found? path).any fun (_, e) => e = .directory
    names := fun path => (found? path).elim [] fun (p, _) => f.names p
    resolve := fun path => (f.find workdir path).map (fun (p, _) => p.path) |>.mapError Obstacle.message }

end Files

end RecipeRunner

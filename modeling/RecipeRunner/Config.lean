import RecipeRunner.Document.Toml
import RecipeRunner.Error
import RecipeRunner.Files
/-!
# Configuration

The settings of the program, from a file and from the environment, which comes first.
-/

namespace RecipeRunner

open Document (Decoded)

/-- The settings of the program. -/
structure Config where
  /-- How deeply operations may be nested by loops and handlers. -/
  maxDepth : Nat := 50
  /-- How long an interrupted command is waited for. -/
  graceSeconds : Nat := 2
  /-- How often a loop with a condition may be repeated; zero means without limit. -/
  maxRepeats : Nat := 10000
  /-- What runs commands. -/
  shell : String := "sh"
  /-- The directories in which components are looked for. -/
  componentDirs : List String := []
  color : Bool := true
  progress : Bool := true
  deriving DecidableEq, Repr, Inhabited

namespace Config

/-- A natural number of at most 64 bits. -/
def asCount : Document → Decoded Nat
  | .int n =>
    if 0 ≤ n && n < Decimal.twoTo 64 then .ok n.toNat else .error "a number is out of range"
  | _ => .error "a number is expected"

/-- The settings of a group.  An array gives the first of them in their order. -/
def groupFields (known : List String) : Document → Decoded (List (String × Document))
  | .seq items => .ok (known.zip items)
  | d => d.asFields known

/-- The settings of a document. -/
def ofDocument (d : Document) : Decoded Config := do
  let missing : Config := {}
  let group (name : String) (known : List String) : Decoded (List (String × Document)) := do
    match (← d.asFields ["engine", "paths", "ui"]).lookup name with
    | some d => groupFields known d
    | none => return []
  let engine ← group "engine"
    ["max_depth", "interrupt_grace_secs", "max_while_iterations", "shell"]
  let paths ← group "paths" ["components"]
  let ui ← group "ui" ["color", "progress"]
  return {
    maxDepth := ← Document.field engine "max_depth" asCount missing.maxDepth
    graceSeconds := ← Document.field engine "interrupt_grace_secs" asCount missing.graceSeconds
    maxRepeats := ← Document.field engine "max_while_iterations" asCount missing.maxRepeats
    shell := ← Document.field engine "shell" Document.asText missing.shell
    componentDirs := ← Document.field paths "components"
      (fun d => do (← d.asItems).mapM Document.asText) missing.componentDirs
    color := ← Document.field ui "color" Document.asBool missing.color
    progress := ← Document.field ui "progress" Document.asBool missing.progress }

/-- The settings that a text holds. -/
def ofToml (text : String) : Except Error Config :=
  (Document.ofToml text >>= ofDocument).mapError .config

/-- Reads settings from a file. -/
def load {m : Type → Type} [Monad m] (disk : Disk m) (path : String) :
    m (Except Error Config) := do
  match ← disk.read path with
  | .error reason =>
    return .error (.config ("Failed to read config from " ++ path ++ ": " ++ reason))
  | .ok text => return (ofToml text).mapError fun e => .config (path ++ ": " ++ e.message)

/-- The settings with those of the environment in place of theirs. -/
def withEnvironment (c : Config) (environment? : String → Option String) : Config :=
  let depth := (environment? "SOUS_MAX_DEPTH").bind fun s => Decimal.readCount? s.toList
  let shell := (environment? "SOUS_SHELL").filter fun s => !Text.isAllBlank s
  { c with
    maxDepth := depth.getD c.maxDepth
    shell := shell.getD c.shell
    color := c.color && (environment? "NO_COLOR").isNone }

end Config

end RecipeRunner

import RecipeRunner.Config
import RecipeRunner.Document.Json
import RecipeRunner.Recipe.Basic
import RecipeRunner.Recipe.Document
import RecipeRunner.Run.Workplace
/-!
# Outcomes of runs

A recipe is run at a workplace: its references are expanded, a fresh store is filled with
variables, and the strands of the run are scheduled to their end.  Its summary is a document: the
outputs, results, tasks and variables that it leaves.
-/

namespace RecipeRunner

/-- What a run that did not fail comes to. -/
structure Outcome where
  /-- Whether the recipe was ended early by one of its operations. -/
  exited : Bool
  store : Store

/-- What a run is given besides its recipe. -/
structure Order where
  registry : Registry := {}
  config : Config := {}
  console : Console := {}
  workplace : Workplace
  state : Workplace.State
  input : String := ""
  /-- The variables of the caller. -/
  vars : List (String × Value) := []
  /-- The random numbers of the run. -/
  chance : Chance := .lowest

namespace Recipe

/-- How many steps a run may take before it is taken to be endless. -/
def patience : Nat := Decimal.tenTo 15

/-- What stays the same during a run of expanded operations. -/
def runOf (o : Order) (ops : List Operation) : Run where
  maxDepth := o.config.maxDepth
  maxRepeats := o.config.maxRepeats
  patience := patience
  handlers := Operation.handlers ops
  input := o.input
  console := o.console

/-- The store that a run starts with. -/
def storeOf (recipe : Recipe) (o : Order) : Store :=
  let store : Store := { color := o.console.color && o.console.escapes, chance := o.chance }
  store.seed recipe.vars o.workplace.workdir o.vars o.input

/-- Runs a recipe: what it comes to and what was written; nothing if the run is endless. -/
def run (recipe : Recipe) (o : Order) : Option (Except Error Outcome × Streams) :=
  match Expansion.expand o.registry recipe.operations with
  | .error e => some (.error e, {})
  | .ok ops =>
    let run := runOf o ops
    let start := Schedule.start run ops (recipe.storeOf o) o.state
    (Schedule.runWithin run o.workplace.surroundings patience start).map fun (result, scene) =>
      (result.map fun exited => ⟨exited, scene.store⟩, scene.written)

end Recipe

/-! ## Summaries -/

/-- A value as a document; a number that is none stands for nothing. -/
def Value.summary : Value → Document
  | .float x => if x.isFinite then .float x else .null
  | v => v.toDocument

/-- A table as a document, by ascending names. -/
def Table.toDocument {α : Type} (f : α → Document) (t : Table α) : Document :=
  .map ((t.toList.mergeSort fun a b => a.1 ≤ b.1).map fun (name, value) => (.str name, f value))

/-- A task as a document. -/
def Task.toDocument (t : Task) : Document :=
  .map [(.str "id", .str t.id), (.str "command", .str t.command),
    (.str "status", .str t.status.word), (.str "output", .str t.output),
    (.str "error", .str t.error)]

/-- The summary of a run. -/
def Outcome.summary (o : Outcome) : Document :=
  .map [(.str "exited", .bool o.exited), (.str "outputs", o.store.outputs.toDocument .str),
    (.str "results", o.store.results.toDocument .bool),
    (.str "tasks", .seq (o.store.tasks.tasks.map Task.toDocument)),
    (.str "vars", o.store.vars.toDocument Value.summary)]

end RecipeRunner

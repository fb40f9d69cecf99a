import RecipeRunner.Condition.Evaluation
import RecipeRunner.Table
/-!
# The store of a run

Everything that the operations of a run share: variables, the outputs and results published
under ids, the background tasks, the loops being run, whether output is condensed, and the random
numbers that templates draw.  A name refers to a variable if there is one, otherwise to an output.
-/

namespace RecipeRunner

/-- A loop being run. -/
structure Loop where
  /-- Tells loops apart. -/
  key : Nat
  kind : String
  depth : Nat
  /-- How long it had been running when that was last noted, in nanoseconds.  No operation looks at
  it. -/
  elapsed : Nat := 0
  deriving DecidableEq, Repr

/-- What the operations of a run share. -/
structure Store where
  vars : Table Value := .empty
  outputs : Table String := .empty
  results : Table Bool := .empty
  tasks : TaskTable := {}
  /-- The loops being run, the latest one first. -/
  loops : List Loop := []
  /-- Whether output is condensed to one line. -/
  progress : Bool := false
  color : Bool := false
  /-- The number of background units that have not come to their end. -/
  inFlight : Nat := 0
  /-- The key of the next launch or loop. -/
  nextKey : Nat := 0
  /-- The random numbers of the evaluations that are still to come. -/
  chance : Chance := .lowest
  deriving Repr

namespace Store

/-- What is published for a task that is pending. -/
def pendingOutput : String := "pending"

/-- Sets the variables that a run starts with: the defaults of the recipe, the working
directory, the variables of the caller and the input, later ones over earlier ones. -/
def seed (s : Store) (defaults : List (String × Value)) (workdir : String)
    (given : List (String × Value)) (input : String) : Store :=
  let vars := ((s.vars.setAll defaults).set "workdir" (.str workdir)).setAll given
  { s with vars := vars.set "input" (.str input) }

/-- Gives a variable a value. -/
def setVar (s : Store) (name : String) (value : Value) : Store :=
  { s with vars := s.vars.set name value }

/-- Takes a variable away. -/
def eraseVar (s : Store) (name : String) : Store :=
  { s with vars := s.vars.erase name }

/-- Publishes an output under an id. -/
def setOutput (s : Store) (id output : String) : Store :=
  { s with outputs := s.outputs.set id output }

/-- Publishes a result under an id. -/
def setResult (s : Store) (id : String) (success : Bool) : Store :=
  { s with results := s.results.set id success }

/-- The value of a name. -/
def lookup (s : Store) (name : String) : Option Value :=
  (s.vars.get? name).or ((s.outputs.get? name).map .str)

/-- What templates see of a store.  An evaluation draws the first part of the random numbers. -/
def bindings (s : Store) : Template.Bindings where
  lookup := s.lookup
  task? := s.tasks.get?
  pendingTasks := s.tasks.pending
  color := s.color
  chance := s.chance.part 0

/-- What conditions see of a store. -/
def scope (s : Store) : Condition.Scope where
  bindings := s.bindings
  result? := s.results.get?

/-- The store with other random numbers. -/
def drawing (s : Store) (chance : Chance) : Store :=
  { s with chance := chance }

/-- The store behind an evaluation, whose random numbers are not drawn again. -/
def drawn (s : Store) : Store :=
  s.drawing (s.chance.part 1)

/-- Publishes the output and the result of one id under another; what is not there is not
copied. -/
def copyOutcome (s : Store) (source target : String) : Store :=
  let s := match s.outputs.get? source with
    | some output => s.setOutput target output
    | none => s
  match s.results.get? source with
  | some success => s.setResult target success
  | none => s

/-- Records a launch.  The run is the key that the store had next. -/
def recordLaunch (s : Store) (id command : String) : Store :=
  { s with
    tasks := s.tasks.insert { id := id, command := command, run := s.nextKey }
    nextKey := s.nextKey + 1 }

/-- Publishes the placeholder of a pending task. -/
def publishPending (s : Store) (id : String) : Store :=
  (s.setOutput id pendingOutput).setResult id false

/-- Records a launch and publishes the placeholder. -/
def registerTask (s : Store) (id command : String) : Store :=
  (s.recordLaunch id command).publishPending id

/-- Records what has come of a run, unless it was superseded. -/
def recordOutcome (s : Store) (id : String) (run : Nat) (outcome : Except String String) :
    Store :=
  { s with tasks := s.tasks.finish id run outcome }

/-- Publishes what has come of a task. -/
def publishOutcome (s : Store) (id : String) : Except String String → Store
  | .ok output => (s.setOutput id output).setResult id true
  | .error error => ((s.setOutput id "").setResult id false).setVar "error" (.str error)

/-- Records and publishes what has come of a run, unless it was superseded. -/
def finishTask (s : Store) (id : String) (run : Nat) (outcome : Except String String) : Store :=
  if s.tasks.accepts id run then (s.recordOutcome id run outcome).publishOutcome id outcome
  else s

/-- Enters a loop, whose key is the one that the store had next. -/
def pushLoop (s : Store) (kind : String) (depth : Nat) : Store :=
  { s with
    loops := { key := s.nextKey, kind := kind, depth := depth } :: s.loops
    nextKey := s.nextKey + 1 }

/-- Notes how long a loop has been running. -/
def tickLoop (s : Store) (key elapsed : Nat) : Store :=
  { s with loops := s.loops.map fun l => if l.key = key then { l with elapsed := elapsed } else l }

/-- Leaves a loop. -/
def popLoop (s : Store) (key : Nat) : Store :=
  { s with loops := s.loops.eraseP (·.key = key) }

/-- The loop entered last. -/
def currentLoop? (s : Store) : Option Loop :=
  s.loops.head?

/-- Sets whether output is condensed. -/
def setProgress (s : Store) (on : Bool) : Store :=
  { s with progress := on }

/-- The values of names before a loop binds them. -/
def saved (s : Store) (names : List String) : List (String × Option Value) :=
  names.map fun name => (name, s.vars.get? name)

/-- Gives names the values they had. -/
def restoreVars (s : Store) (values : List (String × Option Value)) : Store :=
  { s with vars := values.foldl (fun t (name, value) => t.restore name value) s.vars }

/-- Counts a background unit that starts. -/
def beginUnit (s : Store) : Store :=
  { s with inFlight := s.inFlight + 1 }

/-- Counts a background unit that ends. -/
def endUnit (s : Store) : Store :=
  { s with inFlight := s.inFlight - 1 }

end Store

end RecipeRunner

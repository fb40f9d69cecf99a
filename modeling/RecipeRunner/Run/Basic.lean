import RecipeRunner.Run.Signal
import RecipeRunner.Run.Strand
/-!
# Runs

What stays the same during a run, and the steps that operations are made of: templates and
conditions in the present store, and prompts.
-/

namespace RecipeRunner

/-- What stays the same during a run. -/
structure Run where
  /-- How deeply operations may be nested by loops and handlers. -/
  maxDepth : Nat
  /-- How often a loop with a condition may be repeated; zero means without limit. -/
  maxRepeats : Nat
  /-- How often a loop without limit is repeated before it is taken to be endless. -/
  patience : Nat
  /-- The operations that handlers refer to. -/
  handlers : Table Operation
  /-- What captured commands read. -/
  input : String
  console : Console

namespace Run

/-- The text of a template in the present store. -/
def render (template : String) : Strand String := do
  let s ← Strand.drawn
  Strand.ofExcept (Template.render s.bindings template)

/-- Whether a condition holds in the present store. -/
def holds (condition : String) : Strand Bool := do
  let s ← Strand.drawn
  Strand.ofExcept (Condition.evaluate s.scope condition)

/-- Gives a variable a value. -/
def setVar (name : String) (value : Value) : Strand Unit :=
  Strand.modify (·.setVar name value)

/-- Publishes a result, if there is an id to publish it under. -/
def setResult (id : String) (success : Bool) : Strand Unit :=
  if id.isEmpty then pure () else Strand.modify (·.setResult id success)

/-- Writes the output of an operation. -/
def emit (r : Run) (text : String) : Strand Unit := do
  let s ← Strand.store
  Strand.write (r.console.emit s.progress text)

/-- The message of a prompt in the present store. -/
def messageOf (spec : PromptSpec) : Strand String :=
  if Template.hasTemplate spec.message then render spec.message else pure spec.message

/-- Keeps the answer to a prompt.  Gives whether the operator chose to stop. -/
def keepAnswer (spec : PromptSpec) : Answer → Strand Bool
  | .exit => pure true
  | .value v => do
    setVar spec.key v
    pure false

/-- Asks one prompt and keeps the answer.  Gives whether the operator chose to stop. -/
def askOne (spec : PromptSpec) : Strand Bool := do
  let message ← messageOf spec
  let answer ← Strand.ask { spec with message := message } Strand.ofExcept
  keepAnswer spec answer

/-- Asks prompts one after the other, until the operator chooses to stop. -/
def askAll : List PromptSpec → Strand Bool
  | [] => pure false
  | spec :: rest => do
    if ← askOne spec then pure true else askAll rest

/-- Asks whether to go on behind a failure. -/
def goesOn (label failure : String) : Strand Bool :=
  Strand.confirm label failure Strand.ofExcept

end Run

end RecipeRunner

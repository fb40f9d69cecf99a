import RecipeRunner.Table
import RecipeRunner.Value
/-!
# Recipes

The model of recipe documents: recipes and components are lists of operations, and an operation
is a command, a loop over further operations, or a reference to a component.  A registry holds
components by id: a component that is registered takes the place of one with the same id.
-/

namespace RecipeRunner

/-- How a command is run. -/
inductive ExecutionMode where
  | standard
  | interactive
  | stream
  | background
  deriving DecidableEq, Repr, Inhabited

namespace ExecutionMode

/-- The modes by name. -/
def names : List (String × ExecutionMode) :=
  [("standard", standard), ("interactive", interactive), ("stream", stream),
   ("background", background)]

/-- The name of a mode. -/
def name : ExecutionMode → String
  | standard => "standard"
  | interactive => "interactive"
  | stream => "stream"
  | background => "background"

/-- Whether a command shares the streams of the program instead of being captured. -/
def isAttached : ExecutionMode → Bool
  | interactive | stream => true
  | standard | background => false

end ExecutionMode

/-- What is done to the output of a command. -/
inductive OutputFormat where
  | raw
  | trim
  | lines
  deriving DecidableEq, Repr, Inhabited

namespace OutputFormat

/-- The formats by name. -/
def names : List (String × OutputFormat) :=
  [("raw", raw), ("trim", trim), ("lines", lines)]

/-- The name of a format. -/
def name : OutputFormat → String
  | raw => "raw"
  | trim => "trim"
  | lines => "lines"

/-- Applies a format to an output. -/
def apply : OutputFormat → String → String
  | raw, s => s
  | trim, s => Text.trimmed s
  | lines, s => "\n".intercalate (Text.itemsOf s)

end OutputFormat

/-- What kind of answer a prompt asks for. -/
inductive PromptKind where
  | input
  | text
  | password
  | confirm
  | select
  | multiselect
  | autocomplete
  | number
  deriving DecidableEq, Repr, Inhabited

namespace PromptKind

/-- The kinds by name. -/
def names : List (String × PromptKind) :=
  [("input", input), ("text", text), ("password", password), ("confirm", confirm),
   ("select", select), ("multiselect", multiselect), ("autocomplete", autocomplete),
   ("number", number)]

/-- The name of a kind. -/
def name : PromptKind → String
  | input => "input"
  | text => "text"
  | password => "password"
  | confirm => "confirm"
  | select => "select"
  | multiselect => "multiselect"
  | autocomplete => "autocomplete"
  | number => "number"

end PromptKind

/-- A question that is asked before an operation runs. -/
structure PromptSpec where
  id : String := ""
  name : String := ""
  kind : PromptKind := .input
  message : String := ""
  fallback : Option Value := none
  options : List String := []
  deriving BEq, Repr, Inhabited

/-- The variable that takes the answer: the id, or the name of a prompt without one. -/
def PromptSpec.key (spec : PromptSpec) : String :=
  if spec.id.isEmpty then spec.name else spec.id

/-- How the children of an operation are repeated. -/
inductive ControlFlow where
  /-- As often as a template says; the bound name counts from zero. -/
  | counted (times name : String) (progress progressBar : Bool)
  /-- Once for each item of a template, which the bound name stands for. -/
  | each (collection name : String) (progress : Bool)
  /-- As long as a condition holds. -/
  | whileHolds (condition : String) (progress : Bool)
  deriving DecidableEq, Repr, Inhabited

namespace ControlFlow

/-- The word for a kind of loop. -/
def kind : ControlFlow → String
  | counted .. => "for"
  | each .. => "foreach"
  | whileHolds .. => "while"

/-- Whether a loop condenses the output of its children. -/
def progress : ControlFlow → Bool
  | counted _ _ progress _ => progress
  | each _ _ progress => progress
  | whileHolds _ progress => progress

end ControlFlow

/-- One step of a recipe. -/
structure Operation where
  name : String := ""
  /-- What outputs and results are published under and what handlers refer to; a template. -/
  id : String := ""
  command : String := ""
  controlFlow : Option ControlFlow := none
  /-- The operations that a loop repeats. -/
  operations : List Operation := []
  mode : ExecutionMode := .standard
  format : OutputFormat := .raw
  isSilent : Bool := false
  condition : String := ""
  onSuccess : String := ""
  onFailure : String := ""
  transform : String := ""
  prompts : List PromptSpec := []
  /-- Whether the nearest loop stops behind this operation. -/
  breaksLoop : Bool := false
  /-- Whether the recipe stops behind this operation. -/
  exitsRecipe : Bool := false
  /-- The component that stands in place of this operation. -/
  uses : String := ""
  /-- The id whose outcome this operation copies; only steps made by expansion have one. -/
  copyFrom : Option String := none
  deriving BEq, Repr, Inhabited

/-- What an operation is called in messages. -/
def Operation.label (op : Operation) : String :=
  if !op.name.isEmpty then op.name
  else if !op.id.isEmpty then op.id
  else op.command

/-- A named list of operations. -/
structure Recipe where
  name : String
  description : String := ""
  category : String := ""
  help : String := ""
  /-- The variables that a run starts with unless the caller sets them. -/
  vars : List (String × Value) := []
  operations : List Operation := []
  deriving BEq, Repr, Inhabited

/-- A list of operations that recipes refer to. -/
structure Component where
  id : String
  name : String := ""
  description : String := ""
  operations : List Operation := []
  deriving BEq, Repr, Inhabited

/-- Components by id. -/
structure Registry where
  components : Table Component := .empty
  deriving Repr, Inhabited

namespace Registry

/-- The component of an id. -/
def get? (r : Registry) (id : String) : Option Component :=
  r.components.get? id

/-- Registers a component. -/
def register (r : Registry) (c : Component) : Registry :=
  ⟨r.components.set c.id c⟩

/-- Registers components one after the other. -/
def registerAll (r : Registry) (cs : List Component) : Registry :=
  cs.foldl register r

/-- The ids of the components, ascending. -/
def ids (r : Registry) : List String :=
  (r.components.toList.map (·.1)).mergeSort

/-- The number of components. -/
def size (r : Registry) : Nat :=
  r.components.toList.length

theorem get?_register (r : Registry) (c : Component) (id : String) :
    (r.register c).get? id = if id = c.id then some c else r.get? id :=
  Table.get?_set ..

end Registry

end RecipeRunner

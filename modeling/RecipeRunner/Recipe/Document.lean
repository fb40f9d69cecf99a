import RecipeRunner.Document.Basic
import RecipeRunner.Error
import RecipeRunner.Recipe.Basic
/-!
# Recipes as documents

Reading recipes from documents and writing operations as documents.  Fields that are left out
get their defaults, and fields that are empty are left out when written, so that what was
written reads back as the same operation.  The shapes say what is asked for where scalars have no
types of their own.
-/

namespace RecipeRunner

open Document (Decoded Shape)

namespace Value

/-- A value from a document: a truth value, a number, a text, or a list of texts. -/
def ofDocument : Document → Decoded Value
  | .bool b => .ok (.bool b)
  | .int n => .ok (if Decimal.fits n then .int n else .float (Float.ofInt n))
  | .float x => .ok (.float x)
  | .str s => .ok (.str s)
  | .seq items => (items.mapM Document.asText).map .list
  | _ => .error "a value is expected"

/-- A value as a document. -/
def toDocument : Value → Document
  | .bool b => .bool b
  | .int n => .int n
  | .float x => .float x
  | .str s => .str s
  | .list items => .seq (items.map .str)

end Value

namespace PromptSpec

/-- The fields of a prompt. -/
def fieldShapes : List (String × Shape) :=
  [("id", .text), ("name", .text), ("type", .choice), ("message", .text),
   ("default", .optional (.anything false)), ("options", .seq .text)]

/-- The names of the fields of a prompt. -/
def fieldNames : List String := fieldShapes.map (·.1)

/-- A prompt from a document. -/
def ofDocument (d : Document) : Decoded PromptSpec := do
  let fields ← d.asFields fieldNames
  return {
    id := ← Document.field fields "id" Document.asText ""
    name := ← Document.field fields "name" Document.asText ""
    kind := ← Document.field fields "type" (Document.asChoice PromptKind.names) .input
    message := ← Document.field fields "message" Document.asText ""
    fallback := ← Document.field? fields "default" Value.ofDocument
    options := ← Document.field fields "options" (fun d => do (← d.asItems).mapM Document.asText)
      [] }

end PromptSpec

/-- The entry of a field. -/
def Document.entry (name : String) (d : Document) : List (Document × Document) :=
  [(.str name, d)]

/-- The entry of a text field, left out when it is empty. -/
def Document.textEntry (name s : String) : List (Document × Document) :=
  if s.isEmpty then [] else entry name (.str s)

/-- The entry of a list field, left out when it is empty. -/
def Document.itemsEntry (name : String) (items : List Document) :
    List (Document × Document) :=
  if items.isEmpty then [] else entry name (.seq items)

/-- A prompt as a document. -/
def PromptSpec.toDocument (spec : PromptSpec) : Document :=
  .map (Document.entry "id" (.str spec.id) ++ Document.entry "name" (.str spec.name) ++
    Document.entry "type" (.str spec.kind.name) ++ Document.entry "message" (.str spec.message) ++
    (match spec.fallback with
      | some v => Document.entry "default" v.toDocument
      | none => []) ++
    Document.itemsEntry "options" (spec.options.map .str))

namespace ControlFlow

/-- The fields of a loop before its kind is known. -/
structure Fields where
  kind : String
  count : Option Document := none
  indexName : Option String := none
  collection : Option String := none
  elementName : Option String := none
  condition : Option String := none
  progress : Bool := false
  progressBar : Bool := false

/-- The fields of a loop. -/
def fieldShapes : List (String × Shape) :=
  [("type", .text), ("count", .optional (.anything true)), ("variable", .optional .text),
   ("collection", .optional .text), ("as", .optional .text), ("condition", .optional .text),
   ("progress", .bool), ("progress_bar", .bool)]

/-- The names of the fields of a loop. -/
def fieldNames : List String := fieldShapes.map (·.1)

/-- The fields of a loop from a document. -/
def Fields.ofDocument (d : Document) : Decoded Fields := do
  let fields ← d.asFields fieldNames
  return {
    kind := ← Document.required fields "type" Document.asText
    count := ← Document.field? fields "count" fun d =>
      if d.hasUniqueKeys then .ok d else .error "a key is given twice"
    indexName := ← Document.field? fields "variable" Document.asText
    collection := ← Document.field? fields "collection" Document.asText
    elementName := ← Document.field? fields "as" Document.asText
    condition := ← Document.field? fields "condition" Document.asText
    progress := ← Document.field fields "progress" Document.asBool false
    progressBar := ← Document.field fields "progress_bar" Document.asBool false }

/-- The template of a count: a number or a text. -/
def countTemplate? : Document → Option String
  | .int n => some (toString n)
  | .float x => some (Document.floatLayout.write x)
  | .str s => some s
  | _ => none

/-- A name, or another one in place of the empty one. -/
def nameOr (name : Option String) (other : String) : String :=
  match name with
  | some name => if name.isEmpty then other else name
  | none => other

/-- The loop that fields describe. -/
def ofFields (f : Fields) : Except Error ControlFlow :=
  if f.kind = "for" then
    let count : Except Error String :=
      match f.count with
      | none => .ok "0"
      | some d =>
        match countTemplate? d with
        | some times => .ok times
        | none => .error (.templateExecution (.countNotScalar d.display))
    count.map fun times => counted times (nameOr f.indexName "i") f.progress f.progressBar
  else if f.kind = "foreach" then
    .ok (each (f.collection.getD "") (nameOr f.elementName "item") f.progress)
  else if f.kind = "while" then .ok (whileHolds (f.condition.getD "") f.progress)
  else .error (.unknownControlFlow f.kind)

/-- A loop from a document. -/
def ofDocument (d : Document) : Decoded ControlFlow := do
  match ofFields (← Fields.ofDocument d) with
  | .ok flow => return flow
  | .error e => throw e.message

/-- A loop as a document. -/
def toDocument (flow : ControlFlow) : Document :=
  let progressBar := match flow with
    | counted _ _ _ progressBar => progressBar
    | _ => false
  .map (Document.entry "type" (.str flow.kind) ++
    (match flow with
      | counted times name _ _ =>
        Document.entry "count" (.str times) ++ Document.entry "variable" (.str name)
      | each collection name _ =>
        Document.entry "collection" (.str collection) ++ Document.entry "as" (.str name)
      | whileHolds condition _ => Document.entry "condition" (.str condition)) ++
    Document.entry "progress" (.bool flow.progress) ++
    Document.entry "progress_bar" (.bool progressBar))

end ControlFlow

namespace Operation

/-- The fields of an operation whose own operations have a shape. -/
def fieldsAround (operation : Shape) : List (String × Shape) :=
  [("name", .text), ("id", .text), ("command", .text),
   ("control_flow", .optional (.record ControlFlow.fieldShapes)), ("operations", .seq operation),
   ("execution_mode", .choice), ("output_format", .choice), ("silent", .bool),
   ("condition", .text), ("on_success", .text), ("on_failure", .text), ("transform", .text),
   ("prompts", .seq (.record PromptSpec.fieldShapes)), ("break", .bool), ("exit", .bool),
   ("uses", .text)]

/-- The fields of an operation; its own operations are nested `depth` levels deep. -/
def fieldShapes : (depth : Nat) → List (String × Shape)
  | 0 => fieldsAround (.record [])
  | depth + 1 => fieldsAround (.record (fieldShapes depth))

/-- The names of the fields of an operation. -/
def fieldNames : List String := (fieldShapes 0).map (·.1)

/-- An operation from a document; `fuel` bounds the nesting. -/
def ofDocumentWithin : (fuel : Nat) → Document → Decoded Operation
  | 0, _ => .error "operations are nested too deeply"
  | fuel + 1, d => do
    let fields ← d.asFields fieldNames
    return {
      name := ← Document.field fields "name" Document.asText ""
      id := ← Document.field fields "id" Document.asText ""
      command := ← Document.field fields "command" Document.asText ""
      controlFlow := ← Document.field? fields "control_flow" ControlFlow.ofDocument
      operations := ← Document.field fields "operations"
        (fun d => do (← d.asItems).mapM (ofDocumentWithin fuel)) []
      mode := ← Document.field fields "execution_mode" (Document.asChoice ExecutionMode.names)
        .standard
      format := ← Document.field fields "output_format" (Document.asChoice OutputFormat.names) .raw
      isSilent := ← Document.field fields "silent" Document.asBool false
      condition := ← Document.field fields "condition" Document.asText ""
      onSuccess := ← Document.field fields "on_success" Document.asText ""
      onFailure := ← Document.field fields "on_failure" Document.asText ""
      transform := ← Document.field fields "transform" Document.asText ""
      prompts := ← Document.field fields "prompts"
        (fun d => do (← d.asItems).mapM PromptSpec.ofDocument) []
      breaksLoop := ← Document.field fields "break" Document.asBool false
      exitsRecipe := ← Document.field fields "exit" Document.asBool false
      uses := ← Document.field fields "uses" Document.asText "" }

/-- An operation from a document, whose own nesting is enough fuel. -/
def ofDocument (d : Document) : Decoded Operation :=
  ofDocumentWithin (d.depth + 1) d

/-- Operations from a document. -/
def listOfDocument (d : Document) : Decoded (List Operation) := do
  (← d.asItems).mapM ofDocument

/-- The entry of a truth value. -/
private def flagEntry (name : String) (b : Bool) : List (Document × Document) :=
  Document.entry name (.bool b)

mutual

/-- An operation as a document. -/
def toDocument : Operation → Document
  | { name, id, command, controlFlow, operations, mode, format, isSilent, condition, onSuccess,
      onFailure, transform, prompts, breaksLoop, exitsRecipe, uses, copyFrom := _ } =>
    .map (Document.entry "name" (.str name) ++ Document.textEntry "id" id ++
      Document.textEntry "command" command ++
      (match controlFlow with
        | some flow => Document.entry "control_flow" flow.toDocument
        | none => []) ++
      Document.itemsEntry "operations" (toDocuments operations) ++
      Document.entry "execution_mode" (.str mode.name) ++
      Document.entry "output_format" (.str format.name) ++ flagEntry "silent" isSilent ++
      Document.textEntry "condition" condition ++ Document.textEntry "on_success" onSuccess ++
      Document.textEntry "on_failure" onFailure ++ Document.textEntry "transform" transform ++
      Document.itemsEntry "prompts" (prompts.map PromptSpec.toDocument) ++
      flagEntry "break" breaksLoop ++ flagEntry "exit" exitsRecipe ++
      Document.textEntry "uses" uses)

/-- Operations as documents. -/
def toDocuments : List Operation → List Document
  | [] => []
  | op :: rest => op.toDocument :: toDocuments rest

end

end Operation

/-- The variables of a recipe from a document; of equal names the last one counts. -/
def Recipe.varsOfDocument (d : Document) : Decoded (List (String × Value)) := do
  (← d.asEntries).mapM fun (key, value) => return (← key.asText, ← Value.ofDocument value)

/-- The fields of a recipe whose operations are nested `depth` levels deep. -/
def Recipe.fieldShapes (depth : Nat) : List (String × Shape) :=
  [("name", .text), ("description", .text), ("category", .text), ("help", .text),
   ("vars", .table (.anything false)), ("operations", .seq (.record (Operation.fieldShapes depth)))]

/-- A recipe from a document. -/
def Recipe.ofDocument (d : Document) : Decoded Recipe := do
  let fields ← d.asFields ((fieldShapes 0).map (·.1))
  return {
    name := ← Document.required fields "name" Document.asText
    description := ← Document.field fields "description" Document.asText ""
    category := ← Document.field fields "category" Document.asText ""
    help := ← Document.field fields "help" Document.asText ""
    vars := ← Document.field fields "vars" Recipe.varsOfDocument []
    operations := ← Document.field fields "operations" Operation.listOfDocument [] }

/-- A component from a document. -/
def Component.ofDocument (d : Document) : Decoded Component := do
  let fields ← d.asFields ["id", "name", "description", "operations"]
  return {
    id := ← Document.required fields "id" Document.asText
    name := ← Document.field fields "name" Document.asText ""
    description := ← Document.field fields "description" Document.asText ""
    operations := ← Document.field fields "operations" Operation.listOfDocument [] }

/-- The components of a document that lists them in one field. -/
def Component.listOfFields : Document → Decoded (List Component)
  | .map entries => do
    let fields ← (Document.map entries).asFields ["components"]
    Document.required fields "components" (fun d => do (← d.asItems).mapM ofDocument)
  | _ => .error "a mapping is expected"

/-- The components of a document: a list of them in a field, or a single one. -/
def Component.listOfDocument (d : Document) : Decoded (List Component) :=
  match listOfFields d with
  | .ok components => .ok components
  | .error _ => do return [← ofDocument d]

end RecipeRunner

import RecipeRunner.Error
import RecipeRunner.Recipe.Basic
/-!
# Expansion of component references

A reference is replaced by the operations of its component.  The condition of the reference
guards all of them, its handlers and flags go to the last one, and its id names the outcome of
the last one: either the last operation takes the id over, or a copy step is added that copies
the outcome.
-/

namespace RecipeRunner

/-- The condition that holds when two conditions hold. -/
def Condition.conjoin (outer inner : String) : String :=
  let outer := Text.trimmed outer
  let inner := Text.trimmed inner
  if outer.isEmpty then inner
  else if inner.isEmpty then outer
  else "(" ++ outer ++ ") && (" ++ inner ++ ")"

namespace Operation

/-- An operation of a component under the guard of a reference. -/
def guardedBy (root ref : Operation) : Operation :=
  { root with
    condition := Condition.conjoin ref.condition root.condition
    isSilent := root.isSilent || ref.isSilent }

/-- The step that copies the outcome of an id for a reference. -/
def copyStep (ref : Operation) (source : String) : Operation where
  name := ref.name
  id := ref.id
  condition := ref.condition
  isSilent := true
  copyFrom := some source

/-- An operation with the failure handler of a reference, if it has one. -/
def takeFailureHandler (op ref : Operation) : Operation :=
  if ref.onFailure.isEmpty then op else { op with onFailure := ref.onFailure }

/-- An operation with the flags and the success handler of a reference. -/
def takeSignals (op ref : Operation) : Operation :=
  { op with
    breaksLoop := op.breaksLoop || ref.breaksLoop
    exitsRecipe := op.exitsRecipe || ref.exitsRecipe
    onSuccess := if ref.onSuccess.isEmpty then op.onSuccess else ref.onSuccess }

/-- What the last operation of a component becomes in place of a reference.  The failure handler
stays with the operation that can fail. -/
def endFor (ref last : Operation) : List Operation :=
  let last := last.takeFailureHandler ref
  if ref.id.isEmpty then [last.takeSignals ref]
  else if last.id.isEmpty || last.id = ref.id then [{ last with id := ref.id }.takeSignals ref]
  else [last, (copyStep ref last.id).takeSignals ref]

/-- The expanded operations of a component in place of a reference. -/
def settle (ref : Operation) : List Operation → List Operation
  | [] => []
  | [last] => endFor ref last
  | op :: rest => op :: settle ref rest

end Operation

namespace Expansion

/-- How deeply references may be nested. -/
def maxDepth : Nat := 50

/-- Expands each of several operations and joins the results. -/
def expandEach (expand : Operation → Except Error (List Operation)) :
    List Operation → Except Error (List Operation)
  | [] => .ok []
  | op :: rest => do
    let first ← expand op
    let others ← expandEach expand rest
    return first ++ others

/-- Expands one operation, where `inner` expands the lists inside it. -/
def expandOne (registry : Registry) (inner : List Operation → Except Error (List Operation))
    (op : Operation) : Except Error (List Operation) :=
  if op.uses.isEmpty then
    if op.operations.isEmpty then .ok [op]
    else (inner op.operations).map fun children => [{ op with operations := children }]
  else
    match registry.get? op.uses with
    | none => .error (.componentNotFound op.uses)
    | some component =>
      (inner (component.operations.map (·.guardedBy op))).map op.settle

/-- Expands operations in which lists may be nested `room` levels deep. -/
def expandWithin (registry : Registry) : (room : Nat) → List Operation →
    Except Error (List Operation)
  | 0, _ => .error (.recursionLimit maxDepth)
  | room + 1, ops => expandEach (expandOne registry (expandWithin registry room)) ops

/-- Expands all references. -/
def expand (registry : Registry) (ops : List Operation) : Except Error (List Operation) :=
  expandWithin registry (maxDepth + 1) ops

end Expansion

namespace Operation

mutual

/-- The operations with an id in the tree of an operation, each before those inside it. -/
def addressable : Operation → List (String × Operation)
  | op@{ operations, .. } =>
    (if op.id.isEmpty then [] else [(op.id, op)]) ++ addressableIn operations

/-- The operations with an id in the trees of operations. -/
def addressableIn : List Operation → List (String × Operation)
  | [] => []
  | op :: rest => op.addressable ++ addressableIn rest

end

/-- The operations that handlers can refer to, by id; of equal ids the last one counts. -/
def handlers (ops : List Operation) : Table Operation :=
  .ofList (addressableIn ops)

end Operation

end RecipeRunner

import RecipeRunner.Template.Function
import RecipeRunner.Template.Node
/-!
# Evaluation of templates

The text of a template under bindings.  What refers to a datum that is absent has no value; it
counts as false, and where it is to be written a marker is left, which becomes `false` in the
end.  Wherever an evaluation falls into two, each of them gets a part of the random numbers, so no
two calls share one.
-/

namespace RecipeRunner.Template

/-- What a pipeline gives: a value, or nothing for a datum that is absent. -/
abbrev Operand := Option Value

namespace Operand

/-- The value that stands for an operand as an argument. -/
def toValue (o : Operand) : Value :=
  o.getD (.bool false)

/-- Whether an operand counts as true. -/
def isTruthy (o : Operand) : Bool :=
  o.any Value.isTruthy

end Operand

/-- What is written for an absent datum before the end. -/
def noValue : String := "<no value>"

/-- Calls a function; its fault becomes one of the template. -/
def callNamed (b : Bindings) (name : String) (args : List Value) : Except Error Operand :=
  match call b name args with
  | .ok v => .ok (some v)
  | .error fault => .error (.templateExecution (.call name fault))

mutual

/-- The operand that an argument stands for.  A function stands for its value without
arguments. -/
def evalArg (b : Bindings) (element : Operand) : Arg → Except Error Operand
  | .field name => .ok (b.lookup name)
  | .dot => .ok element
  | .literal v => .ok (some v)
  | .call name => callNamed b name []
  | .group commands => evalCommands b element none commands

/-- The values of arguments, from left to right. -/
def evalArgs (b : Bindings) (element : Operand) : List Arg → Except Error (List Value)
  | [] => .ok []
  | arg :: rest =>
    match evalArg (b.part 0) element arg with
    | .error e => .error e
    | .ok o =>
      match evalArgs (b.part 1) element rest with
      | .error e => .error e
      | .ok vs => .ok (o.toValue :: vs)

/-- The operand of a command that gets `piped` from the one before it. -/
def evalCommand (b : Bindings) (element : Operand) (piped : Option Operand) :
    List Arg → Except Error Operand
  | [] => .error (.templateSyntax .emptyCommand)
  | .call name :: rest =>
    match evalArgs b element rest with
    | .error e => .error e
    | .ok vs => callNamed b name (vs ++ (piped.map Operand.toValue).toList)
  | head :: rest =>
    if rest.isEmpty && piped.isNone then evalArg b element head
    else .error (.templateExecution (.argumentToNonFunction head.display))

/-- The operand of the last of several commands, each of which gets that of the one before
it. -/
def evalCommands (b : Bindings) (element : Operand) (piped : Option Operand) :
    List (List Arg) → Except Error Operand
  | [] => .ok (piped.getD none)
  | command :: rest =>
    match evalCommand (b.part 0) element piped command with
    | .error e => .error e
    | .ok o => evalCommands (b.part 1) element (some o) rest

end

/-- The operand of a pipeline, where `element` is the current element. -/
def evalPipeline (b : Bindings) (element : Operand) (p : Pipeline) : Except Error Operand :=
  evalCommands b element none p

/-- Writes a text for each element, one after the other. -/
def writeEach (write : Bindings → Value → Except Error String) (b : Bindings) :
    List String → Except Error String
  | [] => .ok ""
  | x :: rest => do
    let first ← write (b.part 0) (.str x)
    let others ← writeEach write (b.part 1) rest
    return first ++ others

mutual

/-- The text of a node. -/
def renderNode (b : Bindings) (element : Operand) : Node → Except Error String
  | .text t => .ok t
  | .action p => do
    match ← evalPipeline b element p with
    | some v => return v.render
    | none => return noValue
  | .choice branches otherwise => do
    match ← renderBranches (b.part 0) element branches with
    | some text => return text
    | none => renderNodes (b.part 1) element otherwise
  | .range p body otherwise => do
    let items := match ← evalPipeline (b.part 0) element p with
      | some v => v.toItems
      | none => []
    if items.isEmpty then renderNodes (b.part 1) element otherwise
    else writeEach (fun b x => renderNodes b (some x) body) (b.part 1) items

/-- The text of the first branch whose condition holds, if one does. -/
def renderBranches (b : Bindings) (element : Operand) :
    List (Pipeline × List Node) → Except Error (Option String)
  | [] => .ok none
  | (condition, body) :: rest => do
    if (← evalPipeline (b.part 0) element condition).isTruthy then
      return some (← renderNodes (b.part 1) element body)
    else renderBranches (b.part 1) element rest

/-- The text of nodes, one after the other. -/
def renderNodes (b : Bindings) (element : Operand) : List Node → Except Error String
  | [] => .ok ""
  | node :: rest => do
    let first ← renderNode (b.part 0) element node
    let others ← renderNodes (b.part 1) element rest
    return first ++ others

end

/-- Whether a text has an action in it. -/
def hasTemplate (text : String) : Bool :=
  Text.occursIn opening text.toList

/-- The text of a template with markers for absent data. -/
def renderRaw (b : Bindings) (template : String) : Except Error String :=
  if hasTemplate template then
    match parse template with
    | .error fault => .error (.templateSyntax fault)
    | .ok nodes => renderNodes b none nodes
  else .ok template

/-- The text of a template. -/
def render (b : Bindings) (template : String) : Except Error String :=
  (renderRaw b template).map (Text.replaced noValue "false")

end RecipeRunner.Template

import RecipeRunner.Template.Item
import RecipeRunner.Value
/-!
# Template trees

A pipeline is a sequence of commands, a command a sequence of arguments.  A node is a text, an
action, or a block with branches.  Both readers go through their input once and keep the groups
and blocks that are still open on a stack.
-/

namespace RecipeRunner.Template

/-- An argument of a command; a group holds a whole pipeline. -/
inductive Arg where
  | field (name : String)
  | dot
  | call (name : String)
  | literal (value : Value)
  | group (commands : List (List Arg))
  deriving BEq, Repr

/-- A function with its arguments, or a single operand. -/
abbrev Command := List Arg

/-- Commands of which each gets the value of the one before it. -/
abbrev Pipeline := List Command

namespace Arg

/-- Floats in the display form of arguments: a fraction always shows, and very small and very
large numbers have an exponent. -/
def floatLayout : Decimal.Layout where
  plainFrom := some (-4)
  plainBelow := some 16
  fraction := 1
  nan := "NaN"
  infinity := "inf"

/-- The display form of a literal. -/
def showValue : Value → String
  | .bool b => "Bool(" ++ (if b then "true" else "false") ++ ")"
  | .int n => "Int(" ++ toString n ++ ")"
  | .float x => "Float(" ++ floatLayout.write x ++ ")"
  | .str s => "Str(" ++ Text.quoted s ++ ")"
  | .list items => "List([" ++ ", ".intercalate (items.map Text.quoted) ++ "])"

mutual

/-- The display form of an argument. -/
def display : Arg → String
  | .field name => "Field(" ++ Text.quoted name ++ ")"
  | .dot => "Dot"
  | .call name => "Function(" ++ Text.quoted name ++ ")"
  | .literal value => "Literal(" ++ showValue value ++ ")"
  | .group commands =>
    "Sub(Pipeline \x7b commands: [" ++ ", ".intercalate (displayCommands commands) ++ "] \x7d)"

/-- The display forms of the commands of a pipeline. -/
def displayCommands : List (List Arg) → List String
  | [] => []
  | command :: rest =>
    ("Command \x7b args: [" ++ ", ".intercalate (displayArgs command) ++ "] \x7d") ::
      displayCommands rest

/-- The display forms of the arguments of a command. -/
def displayArgs : List Arg → List String
  | [] => []
  | arg :: rest => arg.display :: displayArgs rest

end

/-- The argument that a token stands for by itself. -/
def ofToken? : Token → Option Arg
  | .field name => some (.field name)
  | .dot => some .dot
  | .word name => some (.call name)
  | .str s => some (.literal (.str s))
  | .int n => some (.literal (.int n))
  | .float x => some (.literal (.float x))
  | .bool b => some (.literal (.bool b))
  | .pipe | .openGroup | .closeGroup => none

end Arg

namespace Pipeline

/-- A pipeline being read: its finished commands and the arguments of the last one, both in
reverse. -/
structure Partial where
  commands : List Command := []
  args : List Arg := []

namespace Partial

/-- Adds an argument. -/
def addArg (p : Partial) (arg : Arg) : Partial :=
  { p with args := arg :: p.args }

/-- Ends a command at a pipe. -/
def endCommand (p : Partial) : Except SyntaxFault Partial :=
  if p.args.isEmpty then .error .missingCommandBefore
  else .ok { commands := p.args.reverse :: p.commands, args := [] }

/-- Ends the pipeline. -/
def finish (p : Partial) : Except SyntaxFault Pipeline :=
  if p.args.isEmpty then
    .error (if p.commands.isEmpty then .missingValue else .missingCommandAfter)
  else .ok (p.args.reverse :: p.commands).reverse

end Partial

/-- Whether `depth + 1` open groups are closed in the tokens. -/
def closes (depth : Nat) : List Token → Bool
  | [] => false
  | .openGroup :: rest => closes (depth + 1) rest
  | .closeGroup :: rest =>
    match depth with
    | 0 => true
    | depth + 1 => closes depth rest
  | _ :: rest => closes depth rest

/-- Reads tokens into the innermost open pipeline; `outer` holds the pipelines around it. -/
def read (outer : List Partial) (inner : Partial) : List Token → Except SyntaxFault Pipeline
  | [] => inner.finish
  | .pipe :: rest =>
    match inner.endCommand with
    | .ok inner => read outer inner rest
    | .error fault => .error fault
  | .openGroup :: rest =>
    if closes 0 rest then read (inner :: outer) {} rest else .error .unclosedOpen
  | .closeGroup :: rest =>
    match outer with
    | [] => .error .unexpectedClose
    | around :: outer =>
      match inner.finish with
      | .ok group => read outer (around.addArg (.group group)) rest
      | .error fault => .error fault
  | token :: rest =>
    match Arg.ofToken? token with
    | some arg => read outer (inner.addArg arg) rest
    | none => read outer inner rest

/-- The pipeline written by tokens. -/
def ofTokens (tokens : List Token) : Except SyntaxFault Pipeline :=
  read [] {} tokens

end Pipeline

/-- A part of a template. -/
inductive Node where
  | text (t : String)
  | action (p : Pipeline)
  /-- Branches with their conditions in order, and what stands for none of them. -/
  | choice (branches : List (Pipeline × List Node)) (otherwise : List Node)
  /-- A body for each element, and what stands for no element. -/
  | range (p : Pipeline) (body otherwise : List Node)
  deriving BEq, Repr

namespace Node

/-- What an action does to the blocks that are open. -/
inductive Directive where
  | emit (p : Pipeline)
  | beginIf (p : Pipeline)
  | beginRange (p : Pipeline)
  | elseIf (p : Pipeline)
  | otherwise
  | close

/-- The directive of an action; its first token may be a keyword. -/
def Directive.ofTokens : List Token → Except SyntaxFault Directive
  | [.word "end"] => .ok .close
  | .word "end" :: _ => .error (.tokensAfter "end")
  | [.word "else"] => .ok .otherwise
  | .word "else" :: .word "if" :: rest => (Pipeline.ofTokens rest).map .elseIf
  | .word "else" :: _ => .error (.tokensAfter "else")
  | .word "if" :: rest => (Pipeline.ofTokens rest).map .beginIf
  | .word "range" :: rest => (Pipeline.ofTokens rest).map .beginRange
  | tokens => (Pipeline.ofTokens tokens).map .emit

/-- A block that is open, by the part that is being read. -/
inductive Block where
  /-- A branch with its condition, and the branches before it in reverse. -/
  | branch (done : List (Pipeline × List Node)) (condition : Pipeline)
  | afterBranches (branches : List (Pipeline × List Node))
  | body (p : Pipeline)
  | afterBody (p : Pipeline) (body : List Node)

/-- Reads items into the innermost open block.  `nodes` are the nodes of its current part and
`outer` the blocks around it, each with the nodes before it, all nodes in reverse. -/
def read (outer : List (Block × List Node)) (nodes : List Node) :
    List Item → Except SyntaxFault (List Node)
  | [] =>
    match outer with
    | [] => .ok nodes.reverse
    | (.branch .., _) :: _ => .error .unclosedIf
    | (.body _, _) :: _ => .error .unclosedRange
    | (.afterBranches _, _) :: _ | (.afterBody .., _) :: _ => .error .missingEnd
  | .text t :: rest => read outer (.text t :: nodes) rest
  | .action tokens :: rest =>
    match Directive.ofTokens tokens with
    | .error fault => .error fault
    | .ok (.emit p) => read outer (.action p :: nodes) rest
    | .ok (.beginIf p) => read ((.branch [] p, nodes) :: outer) [] rest
    | .ok (.beginRange p) => read ((.body p, nodes) :: outer) [] rest
    | .ok (.elseIf p) =>
      match outer with
      | [] => .error .strayElse
      | (.branch done condition, before) :: outer =>
        read ((.branch ((condition, nodes.reverse) :: done) p, before) :: outer) [] rest
      | (.body _, _) :: _ => .error .elseIfInRange
      | (.afterBranches _, _) :: _ | (.afterBody .., _) :: _ => .error .missingEnd
    | .ok .otherwise =>
      match outer with
      | [] => .error .strayElse
      | (.branch done condition, before) :: outer =>
        read ((.afterBranches ((condition, nodes.reverse) :: done).reverse, before) :: outer)
          [] rest
      | (.body p, before) :: outer => read ((.afterBody p nodes.reverse, before) :: outer) [] rest
      | (.afterBranches _, _) :: _ | (.afterBody .., _) :: _ => .error .missingEnd
    | .ok .close =>
      match outer with
      | [] => .error .strayEnd
      | (.branch done condition, before) :: outer =>
        read outer (.choice ((condition, nodes.reverse) :: done).reverse [] :: before) rest
      | (.afterBranches branches, before) :: outer =>
        read outer (.choice branches nodes.reverse :: before) rest
      | (.body p, before) :: outer => read outer (.range p nodes.reverse [] :: before) rest
      | (.afterBody p body, before) :: outer =>
        read outer (.range p body nodes.reverse :: before) rest

/-- The nodes that items stand for. -/
def ofItems (items : List Item) : Except SyntaxFault (List Node) :=
  read [] [] items

end Node

/-- The nodes of a template. -/
def parse (template : String) : Except SyntaxFault (List Node) :=
  items template >>= Node.ofItems

end RecipeRunner.Template

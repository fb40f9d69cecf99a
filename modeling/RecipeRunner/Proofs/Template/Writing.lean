import RecipeRunner.Template.Node
import RecipeRunner.Proofs.Text.Search
import Mathlib.Data.List.Chain
/-!
# Writing templates

The text of a template tree, and the trees that have one.  A tree is written as items, the items as
tokens with one blank between two of them, and a token as characters.

* `write`: the text of a tree; actions may be set off from their delimiters by blanks.
* `Node.WellFormed`, `Apart`: the trees whose text is read as the tree again.  Names must be ones
  that the reader takes for names, and texts may not look as if an action opened in them.
-/

namespace RecipeRunner.Template

open Text (joinWith occursIn)

/-! ## Tokens -/

/-- A character between quotes. -/
def escape (c : Char) : List Char :=
  if c = '\\' ∨ c = '"' then ['\\', c] else [c]

namespace Token

/-- The characters of a token. -/
def write : Token → List Char
  | field name => '.' :: name.toList
  | dot => ['.']
  | word name => name.toList
  | str s => '"' :: (s.toList.flatMap escape ++ ['"'])
  | int n => (toString n).toList
  | float x => (toString x).toList
  | bool b => (toString b).toList
  | pipe => ['|']
  | openGroup => ['(']
  | closeGroup => [')']

end Token

/-- Names of fields: one or more of the characters of such names. -/
def IsFieldName (name : String) : Prop :=
  name.toList ≠ [] ∧ ∀ c ∈ name.toList, Token.isFieldChar c = true

instance (name : String) : Decidable (IsFieldName name) :=
  inferInstanceAs (Decidable (_ ∧ _))

/-- Names of functions: words other than the two that stand for truth values. -/
def IsFunctionName (name : String) : Prop :=
  name.toList ≠ [] ∧ (∀ c ∈ name.toList.head?, Token.isWordStart c = true) ∧
    (∀ c ∈ name.toList, Token.isWordPart c = true) ∧ name ≠ "true" ∧ name ≠ "false"

instance (name : String) : Decidable (IsFunctionName name) :=
  inferInstanceAs (Decidable (_ ∧ _))

namespace Token

/-- Tokens that are read from what is written for them.  Numbers with a fraction are left out. -/
def WellFormed : Token → Prop
  | field name => IsFieldName name
  | word name => IsFunctionName name
  | str s => occursIn closing s.toList = false
  | int n => Decimal.fits n = true
  | float _ => False
  | dot | bool _ | pipe | openGroup | closeGroup => True

end Token

/-! ## Pipelines -/

namespace Arg

/-- The tokens of a literal; a list has none. -/
def literalTokens : Value → List Token
  | .bool b => [.bool b]
  | .int n => [.int n]
  | .float x => [.float x]
  | .str s => [.str s]
  | .list _ => []

mutual

/-- The tokens of an argument. -/
def tokens : Arg → List Token
  | .field name => [.field name]
  | .dot => [.dot]
  | .call name => [.word name]
  | .literal value => literalTokens value
  | .group commands => .openGroup :: (commandsTokens commands ++ [.closeGroup])

/-- The tokens of commands, with pipes between them. -/
def commandsTokens : List (List Arg) → List Token
  | [] => []
  | [command] => argsTokens command
  | command :: rest => argsTokens command ++ .pipe :: commandsTokens rest

/-- The tokens of arguments in a row. -/
def argsTokens : List Arg → List Token
  | [] => []
  | arg :: rest => arg.tokens ++ argsTokens rest

end

/-- Literals that can be written: truth values, whole numbers that fit a variable, and texts in
which no action closes. -/
def IsLiteral : Value → Prop
  | .bool _ => True
  | .int n => Decimal.fits n = true
  | .str s => occursIn closing s.toList = false
  | .float _ | .list _ => False

/-- Arguments that are read from what is written for them. -/
inductive WellFormed : Arg → Prop
  | field {name : String} (h : IsFieldName name) : WellFormed (.field name)
  | dot : WellFormed .dot
  | call {name : String} (h : IsFunctionName name) : WellFormed (.call name)
  | literal {value : Value} (h : IsLiteral value) : WellFormed (.literal value)
  | group {commands : List (List Arg)} (hpipeline : commands ≠ [])
      (hcommands : ∀ command ∈ commands, command ≠ [])
      (hargs : ∀ command ∈ commands, ∀ arg ∈ command, WellFormed arg) :
      WellFormed (.group commands)

end Arg

namespace Pipeline

/-- The tokens of a pipeline. -/
def tokens (p : Pipeline) : List Token :=
  Arg.commandsTokens p

/-- Pipelines without gaps whose arguments are well-formed. -/
structure WellFormed (p : Pipeline) : Prop where
  ne_nil : p ≠ []
  command_ne_nil : ∀ command ∈ p, command ≠ []
  arg : ∀ command ∈ p, ∀ arg ∈ command, arg.WellFormed

/-- The words with which the actions of blocks start. -/
def keywords : List String := ["if", "else", "end", "range"]

/-- Whether a pipeline starts with the name of a function that is a keyword. -/
def startsWithKeyword : Pipeline → Bool
  | (.call name :: _) :: _ => keywords.contains name
  | _ => false

end Pipeline

/-! ## Trees -/

/-- Texts behind which an action can open: not empty, and with no action that opens in them. -/
def IsPlainText (t : String) : Prop :=
  t.toList ≠ [] ∧ occursIn opening t.toList = false ∧ t.toList.getLast? ≠ some '\x7b'

instance (t : String) : Decidable (IsPlainText t) :=
  inferInstanceAs (Decidable (_ ∧ _))

namespace Node

mutual

/-- The items of a node. -/
def items : Node → List Item
  | .text t => [.text t]
  | .action p => [.action p.tokens]
  | .choice branches otherwise =>
    branchesItems [.word "if"] branches ++ (otherwiseItems otherwise ++ [.action [.word "end"]])
  | .range p body otherwise =>
    .action (.word "range" :: p.tokens) ::
      (listItems body ++ (otherwiseItems otherwise ++ [.action [.word "end"]]))

/-- The items of branches, of which the first starts with the words `lead`. -/
def branchesItems (lead : List Token) : List (Pipeline × List Node) → List Item
  | [] => []
  | (p, body) :: rest =>
    .action (lead ++ p.tokens) ::
      (listItems body ++ branchesItems [.word "else", .word "if"] rest)

/-- The items of what stands for no branch and no element; it may be left out. -/
def otherwiseItems : List Node → List Item
  | [] => []
  | node :: rest => .action [.word "else"] :: (node.items ++ listItems rest)

/-- The items of nodes in a row. -/
def listItems : List Node → List Item
  | [] => []
  | node :: rest => node.items ++ listItems rest

end

/-- Whether a node is a text. -/
def isText : Node → Bool
  | .text _ => true
  | _ => false

/-- No two texts in a row. -/
def Apart (nodes : List Node) : Prop :=
  nodes.IsChain fun a b => (a.isText && b.isText) = false

/-- Nodes that are read from what is written for them. -/
inductive WellFormed : Node → Prop
  | text {t : String} (h : IsPlainText t) : WellFormed (.text t)
  | action {p : Pipeline} (h : p.WellFormed) (hkeyword : p.startsWithKeyword = false) :
      WellFormed (.action p)
  | choice {branches : List (Pipeline × List Node)} {otherwise : List Node}
      (hbranches : branches ≠ [])
      (hconditions : ∀ branch ∈ branches, branch.1.WellFormed)
      (hbodies : ∀ branch ∈ branches, ∀ node ∈ branch.2, WellFormed node)
      (hapart : ∀ branch ∈ branches, Apart branch.2)
      (hotherwise : ∀ node ∈ otherwise, WellFormed node) (hotherwiseApart : Apart otherwise) :
      WellFormed (.choice branches otherwise)
  | range {p : Pipeline} {body otherwise : List Node} (h : p.WellFormed)
      (hbody : ∀ node ∈ body, WellFormed node) (hapart : Apart body)
      (hotherwise : ∀ node ∈ otherwise, WellFormed node) (hotherwiseApart : Apart otherwise) :
      WellFormed (.range p body otherwise)

end Node

/-! ## Texts -/

/-- Tokens with one blank between two of them. -/
def writeTokens (tokens : List Token) : List Char :=
  joinWith [' '] (tokens.map Token.write)

/-- The inside of an action; blanks may set the tokens off from the delimiters. -/
def writeBody (padded : Bool) (tokens : List Token) : List Char :=
  if padded then ' ' :: (writeTokens tokens ++ [' ']) else writeTokens tokens

/-- The characters of an item. -/
def Item.write (padded : Bool) : Item → List Char
  | .text t => t.toList
  | .action tokens => opening ++ (writeBody padded tokens ++ closing)

/-- The text of a template tree. -/
def write (padded : Bool) (nodes : List Node) : String :=
  String.ofList ((Node.listItems nodes).flatMap (Item.write padded))

end RecipeRunner.Template

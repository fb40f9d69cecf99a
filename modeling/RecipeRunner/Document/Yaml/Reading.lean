import RecipeRunner.Document.Basic
import RecipeRunner.Document.Yaml.Node
/-!
# Documents in YAML

Reading the nodes of a text as a shape asks.  `Document.ofYaml` reads a text that holds exactly
one document.  Aliases are followed where they are met; how often in all is limited by the size of
the text, and so is how deeply collections are nested.
-/

namespace RecipeRunner.Yaml

open Document (Decoded Shape)

/-- Reading with a number of aliases that may still be followed. -/
abbrev Visit := StateT Nat Decoded

namespace Node

/-- What a node stands for. -/
def follow (named : List (Nat × Node)) : Node → Visit Node
  | .alias number => do
    match ← get with
    | 0 => throw "too many aliases are followed"
    | left + 1 =>
      set left
      match named.lookup number with
      | some node => return node
      | none => throw "an anchor is unknown"
  | node => return node

/-- Whether a node stands for nothing in a place where something may be left out. -/
def isAbsent : Node → Decoded Bool
  | .scalar .plain none text => .ok (Typing.isNull text)
  | .scalar .plain (some .null) text =>
    if Typing.isNullWord text then .ok true
    else .error "a scalar does not have the type of its tag"
  | _ => .ok false

/-- The name of the type of its own that a tag gives. -/
def ownType? : Option Tag → Option String
  | some (.custom name) => some name
  | _ => none

/-- A document of a type of its own. -/
def ofOwnType (named : Bool) (tag : Option Tag) (d : Document) : Decoded Document :=
  match ownType? tag with
  | none => .ok d
  | some name => if named then .ok (.map [(.str name, d)]) else .error "a type is unknown"

/-- What a scalar is by itself. -/
def untypedScalar (style : Style) (tag : Option Tag) (text : String) : Decoded Document :=
  match tag with
  | some tag => Typing.tagged tag (style = .plain) text
  | none => if style = .plain then Typing.untyped text else .ok (.str text)

/-- A truth value.  A block needs a tag that asks for one. -/
def boolOf (style : Style) (tag : Option Tag) (text : String) : Decoded Document :=
  match Typing.bool? text with
  | some b =>
    if style = .plain || (style = .literal && tag = some .bool) then .ok (.bool b)
    else .error "true or false is expected"
  | none => .error "true or false is expected"

/-- The name of a choice: a text, or the type of a node that stands for nothing. -/
def choiceOf (style : Style) (tag : Option Tag) (text : String) : Decoded Document :=
  match ownType? tag with
  | none => .ok (.str text)
  | some name =>
    if style = .plain && Typing.isNull text then .ok (.str name)
    else .error "nothing is expected behind the name of a choice"

/-- A scalar read as a shape. -/
def ofScalar (shape : Shape) (style : Style) (tag : Option Tag) (text : String) :
    Decoded Document :=
  let isVoid := style = .plain && text.isEmpty
  match shape with
  | .text => .ok (.str text)
  | .bool => boolOf style tag text
  | .choice => choiceOf style tag text
  | .anything named => untypedScalar style tag text >>= ofOwnType named tag
  | .seq _ => if isVoid then .ok (.seq []) else .error "a sequence is expected"
  | .table _ | .record _ => if isVoid then .ok (.map []) else .error "a mapping is expected"
  | .optional _ => .error "nothing is expected"

/-- Reads a node; collections may be nested `depth` levels deep. -/
def read (named : List (Nat × Node)) : (depth : Nat) → Shape → Node → Visit Document
  | 0, shape, node => do
    let node ← node.follow named
    if shape.isOptional && (← node.isAbsent) then return .null
    match node with
    | .scalar style tag text => ofScalar shape.content style tag text
    | _ => throw "collections are nested too deeply"
  | depth + 1, shape, node => do
    let node ← node.follow named
    if shape.isOptional && (← node.isAbsent) then return .null
    match shape.content, node with
    | shape, .scalar style tag text => ofScalar shape style tag text
    | .seq item, .seq _ items => return .seq (← items.mapM (read named depth item))
    | .anything keep, .seq tag items =>
      ofOwnType keep tag (.seq (← items.mapM (read named depth (.anything keep))))
    | .anything keep, .map tag entries =>
      ofOwnType keep tag (.map (← entries.mapM fun (key, value) =>
        return (← read named depth (.anything keep) key, ← read named depth (.anything keep) value)))
    | .table value, .map _ entries =>
      return .map (← entries.mapM fun (key, d) =>
        return (← read named depth .text key, ← read named depth value d))
    | .record fields, .map _ entries =>
      let found ← entries.mapM fun (key, d) => do
        let name ← read named depth .text key
        match name with
        | .str text =>
          match fields.lookup text with
          | some shape => return [(name, ← read named depth shape d)]
          | none => return []
        | _ => return []
      return .map found.flatten
    | _, _ => throw "a collection does not fit"

end Node

end RecipeRunner.Yaml

namespace RecipeRunner.Document

/-- How deeply collections may be nested in a text. -/
def maxDepth : Nat := 128

/-- How often aliases may be followed for each node of a text. -/
def aliasesPerNode : Nat := 100

/-- The document that a text holds in YAML, read as a shape. -/
def ofYaml (shape : Shape) (text : String) : Decoded Document := do
  let graph ← Yaml.Graph.ofText text
  (graph.root.read graph.named maxDepth shape).run' (graph.size * aliasesPerNode)

end RecipeRunner.Document

import RecipeRunner.Document.Yaml.Token
import RecipeRunner.Document.Yaml.Typing
/-!
# Nodes

The nodes that tokens stand for.  `Graph.ofText` reads a text that holds exactly one document.  An
alias stays one: what it stands for is looked up where it is read, and may well contain it.
-/

namespace RecipeRunner.Yaml

open Document (Decoded)

/-- A node of a text. -/
inductive Node where
  | scalar (style : Style) (tag : Option Tag) (text : String)
  | seq (tag : Option Tag) (items : List Node)
  | map (tag : Option Tag) (entries : List (Node × Node))
  /-- The node with a number. -/
  | alias (number : Nat)
  deriving Repr, Inhabited

/-- The nodes of a text. -/
structure Graph where
  root : Node
  /-- The nodes that aliases stand for, by number. -/
  named : List (Nat × Node)
  /-- The number of nodes, with collections counted at both ends. -/
  size : Nat

/-- What is left to read and what has been read so far. -/
structure Reader where
  tokens : List Token
  /-- The numbers that names stand for.  A name takes the number of names before it, also where it
  is used again. -/
  numbers : List (List Char × Nat) := []
  /-- The places with a number in the order of the text, the last one first. -/
  places : List (Nat × Nat) := []
  /-- The nodes read at places. -/
  nodes : List (Nat × Node) := []
  /-- The handles of tags and what they stand for. -/
  handles : List (List Char × List UInt8) := []
  size : Nat := 0

/-- Reading that can fail. -/
abbrev Read := StateT Reader Decoded

namespace Reader

/-- The handles that every document knows. -/
def commonHandles : List (List Char × List UInt8) :=
  [(['!'], Scanner.bytesOf ['!']), (['!', '!'], Text.Utf8.encode "tag:yaml.org,2002:")]

/-- The next token. -/
def peek? : Read (Option Token) :=
  return (← get).tokens.head?

/-- Skips a token. -/
def skip : Read Unit :=
  modify fun r => { r with tokens := r.tokens.drop 1 }

/-- Counts a node. -/
def count (n : Nat) : Read Unit :=
  modify fun r => { r with size := r.size + n }

/-- Plain text without characters. -/
def nothing (tag : Option Tag) : Read Node := do
  count 1
  return .scalar .plain tag ""

/-- The tag that bytes stand for. -/
def tagOfBytes (bytes : List UInt8) : Tag :=
  let name := Text.Utf8.decode bytes
  let isText := Text.Utf8.encode name = bytes
  if bytes.head? = some 0x21 then
    if !isText then .nameless
    else .custom (if name.length = 1 then name else String.ofList (name.toList.drop 1))
  else if name = "tag:yaml.org,2002:null" then .null
  else if name = "tag:yaml.org,2002:bool" then .bool
  else if name = "tag:yaml.org,2002:int" then .int
  else if name = "tag:yaml.org,2002:float" then .float
  else .text

/-- The tag that a name stands for. -/
def resolveTag (name : TagName) : Read Tag := do
  let prefixed ←
    if name.handle.isEmpty then pure name.suffix
    else
      match (← get).handles.lookup name.handle with
      | some meaning => pure (meaning ++ name.suffix)
      | none => throw "the handle of a tag is unknown"
  return tagOfBytes (prefixed.takeWhile (· ≠ 0))

/-- The anchor and the tag in front of a node, in any order. -/
def readProperties : Read (Option (List Char) × Option Tag) := do
  match ← peek? with
  | some (.anchor name) =>
    skip
    match ← peek? with
    | some (.tag tag) => skip; return (some name, some (← resolveTag tag))
    | _ => return (some name, none)
  | some (.tag tag) =>
    skip
    match ← peek? with
    | some (.anchor name) => skip; return (some name, some (← resolveTag tag))
    | _ => return (none, some (← resolveTag tag))
  | _ => return (none, none)

/-- Gives the place of the next node a number, that of a name. -/
def mark (name : List Char) : Read Nat :=
  modifyGet fun r =>
    let number := (r.numbers.map (·.1)).eraseDups.length
    let place := r.places.length
    (place, { r with
      numbers := (name, number) :: r.numbers
      places := (number, place) :: r.places })

/-- Keeps the node that was read at a place. -/
def keep (place : Nat) (node : Node) : Read Unit :=
  modify fun r => { r with nodes := (place, node) :: r.nodes }

/-- Whether the content of an item or of a key is missing in front of a token. -/
def endsItem : Option Token → Bool
  | some .entry | some .key | some .value | some .blockEnd => true
  | _ => false

/-- Whether the content of a part of a flow collection is missing in front of a token. -/
def endsFlowPart : Option Token → Bool
  | some .value | some .separator | some .flowSequenceEnd | some .flowMappingEnd => true
  | _ => false

mutual

/-- Reads a node.  Blocks may start in it if `block`, and items of a sequence may stand in it
without a block of their own if `bare`. -/
def readNode (block bare : Bool) : (fuel : Nat) → Read Node
  | 0 => throw "nodes are nested too deeply"
  | fuel + 1 => do
    match ← peek? with
    | some (.alias name) =>
      skip
      count 1
      match (← get).numbers.lookup name with
      | some number => return .alias number
      | none => throw "an anchor is unknown"
    | _ =>
      let (anchor, tag) ← readProperties
      let place? ← match anchor with
        | some name => (mark name).map some
        | none => pure none
      let content : Read Node := do
        match ← peek? with
        | some (.scalar style text) =>
          skip
          count 1
          return .scalar style tag (String.ofList text)
        | some .flowSequence => skip; count 2; return .seq tag (← readFlowItems true fuel)
        | some .flowMapping => skip; count 2; return .map tag (← readFlowEntries true fuel)
        | some .blockSequence =>
          if block then skip; count 2; return .seq tag (← readItems fuel)
          else throw "a block may not stand here"
        | some .blockMapping =>
          if block then skip; count 2; return .map tag (← readEntries fuel)
          else throw "a block may not stand here"
        | some .entry =>
          if bare then count 2; return .seq tag (← readBareItems fuel)
          else if anchor.isSome || tag.isSome then nothing tag
          else throw "a node is expected"
        | _ =>
          if anchor.isSome || tag.isSome then nothing tag
          else throw "a node is expected"
      let node ← content
      match place? with
      | some place => keep place node
      | none => pure ()
      return node

/-- Reads the items of a sequence that is a block. -/
def readItems : (fuel : Nat) → Read (List Node)
  | 0 => throw "nodes are nested too deeply"
  | fuel + 1 => do
    match ← peek? with
    | some .entry =>
      skip
      let item ← match ← peek? with
        | some .entry | some .blockEnd => nothing none
        | _ => readNode true false fuel
      return item :: (← readItems fuel)
    | some .blockEnd => skip; return []
    | _ => throw "an item is expected"

/-- Reads the items of a sequence that is no block of its own. -/
def readBareItems : (fuel : Nat) → Read (List Node)
  | 0 => throw "nodes are nested too deeply"
  | fuel + 1 => do
    match ← peek? with
    | some .entry =>
      skip
      let item ← if endsItem (← peek?) then nothing none else readNode true false fuel
      return item :: (← readBareItems fuel)
    | _ => return []

/-- Reads the entries of a mapping that is a block. -/
def readEntries : (fuel : Nat) → Read (List (Node × Node))
  | 0 => throw "nodes are nested too deeply"
  | fuel + 1 => do
    let part : Read Node := do
      match ← peek? with
      | some .key | some .value | some .blockEnd => nothing none
      | _ => readNode true true fuel
    match ← peek? with
    | some .key =>
      skip
      let key ← part
      let value ← match ← peek? with
        | some .value => skip; part
        | _ => nothing none
      return (key, value) :: (← readEntries fuel)
    | some .blockEnd => skip; return []
    | _ => throw "a key is expected"

/-- Reads the items of a flow sequence. -/
def readFlowItems (first : Bool) : (fuel : Nat) → Read (List Node)
  | 0 => throw "nodes are nested too deeply"
  | fuel + 1 => do
    match ← peek? with
    | some .flowSequenceEnd => skip; return []
    | next =>
      if !first then
        match next with
        | some .separator => skip
        | _ => throw "a comma is expected"
      match ← peek? with
      | some .flowSequenceEnd => skip; return []
      | some .key =>
        skip
        let key ← match ← peek? with
          | some .value | some .separator | some .flowSequenceEnd => skip; nothing none
          | _ => readNode false false fuel
        let value ← match ← peek? with
          | some .value =>
            skip
            match ← peek? with
            | some .separator | some .flowSequenceEnd => nothing none
            | _ => readNode false false fuel
          | _ => nothing none
        count 2
        return .map none [(key, value)] :: (← readFlowItems false fuel)
      | _ =>
        let item ← readNode false false fuel
        return item :: (← readFlowItems false fuel)

/-- Reads the entries of a flow mapping. -/
def readFlowEntries (first : Bool) : (fuel : Nat) → Read (List (Node × Node))
  | 0 => throw "nodes are nested too deeply"
  | fuel + 1 => do
    let part : Read Node := do
      if endsFlowPart (← peek?) then nothing none else readNode false false fuel
    match ← peek? with
    | some .flowMappingEnd => skip; return []
    | next =>
      if !first then
        match next with
        | some .separator => skip
        | _ => throw "a comma is expected"
      match ← peek? with
      | some .flowMappingEnd => skip; return []
      | some .key =>
        skip
        let key ← part
        let value ← match ← peek? with
          | some .value => skip; part
          | _ => nothing none
        return (key, value) :: (← readFlowEntries false fuel)
      | _ =>
        let key ← readNode false false fuel
        return (key, ← nothing none) :: (← readFlowEntries false fuel)

end

/-- Reads the directives of a document. -/
def readDirectives : (fuel : Nat) → (versioned : Bool) → Read Unit
  | 0, _ => return
  | fuel + 1, versioned => do
    match ← peek? with
    | some (.version major minor) =>
      if versioned then throw "a version is given twice"
      if major ≠ 1 || (minor ≠ 1 && minor ≠ 2) then throw "the version is unknown"
      skip
      readDirectives fuel true
    | some (.handle name meaning) =>
      if ((← get).handles.lookup name).isSome then throw "a handle is given twice"
      modify fun r => { r with handles := (name, meaning) :: r.handles }
      skip
      readDirectives fuel versioned
    | _ => return

/-- Reads the only document. -/
def readDocument : Read Node := do
  let fuel := 4 * (← get).tokens.length + 4
  let content : Read Node := do
    match ← peek? with
    | none | some (.version ..) | some (.handle ..) | some .documentStart | some .documentEnd =>
      nothing none
    | _ => readNode true false fuel
  let node ← match ← peek? with
    | none => throw "a document is expected"
    | some (.version ..) | some (.handle ..) | some .documentStart => do
      readDirectives fuel false
      modify fun r => { r with handles := r.handles ++ commonHandles }
      match ← peek? with
      | some .documentStart => skip; content
      | _ => throw "a document is expected"
    | _ => do
      modify fun r => { r with handles := commonHandles }
      readNode true false fuel
  modify fun r => { r with tokens := r.tokens.dropWhile fun t => t matches .documentEnd }
  if (← peek?).isSome then throw "there is more than one document"
  return node

end Reader

/-- The nodes of a text that holds one document. -/
def Graph.ofText (text : String) : Decoded Graph := do
  let tokens ← Yaml.tokens text
  let (root, r) ← Reader.readDocument.run { tokens := tokens }
  let named := r.places.filterMap fun (number, place) =>
    (r.nodes.lookup place).map fun node => (number, node)
  return { root := root, named := named, size := r.size }

end RecipeRunner.Yaml

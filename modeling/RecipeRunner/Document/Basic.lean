import RecipeRunner.Decimal.Notation
import RecipeRunner.Text.Basic
/-!
# Documents

Trees of scalars, sequences and mappings, from which recipes are read, and the readers of their
parts.  Every scalar has a type; a reader takes exactly the types that it asks for.
-/

namespace RecipeRunner

/-- A tree of scalars, sequences and mappings. -/
inductive Document where
  | null
  | bool (b : Bool)
  | int (n : Int)
  | float (x : Float)
  | str (s : String)
  | seq (items : List Document)
  | map (entries : List (Document × Document))
  deriving Repr, Inhabited

namespace Document

/-- Numbers are displayed with a fraction, and with an exponent where they are very small or
very large. -/
def floatLayout : Decimal.Layout where
  plainFrom := some (-5)
  plainBelow := some 16
  fraction := 1
  nan := ".nan"
  infinity := ".inf"
  tie := .even

/-- The displayed form of a number. -/
def displayInt (n : Int) : String :=
  "Number(" ++ toString n ++ ")"

/-- The displayed form of a float. -/
def displayFloat (x : Float) : String :=
  "Number(" ++ floatLayout.write x ++ ")"

/-- The displayed form of a truth value. -/
def displayBool (b : Bool) : String :=
  "Bool(" ++ (if b then "true" else "false") ++ ")"

/-- The displayed form of a text. -/
def displayText (s : String) : String :=
  "String(" ++ Text.quoted s ++ ")"

mutual

/-- The displayed form of a document, as messages show it. -/
def display : Document → String
  | .null => "Null"
  | .bool b => displayBool b
  | .int n => displayInt n
  | .float x => displayFloat x
  | .str s => displayText s
  | .seq items => "Sequence [" ++ ", ".intercalate (displayItems items) ++ "]"
  | .map entries => "Mapping \x7b" ++ ", ".intercalate (displayEntries entries) ++ "\x7d"

/-- The displayed forms of items. -/
def displayItems : List Document → List String
  | [] => []
  | d :: rest => d.display :: displayItems rest

/-- The displayed forms of entries. -/
def displayEntries : List (Document × Document) → List String
  | [] => []
  | (key, value) :: rest => (displayKey key ++ ": " ++ value.display) :: displayEntries rest

/-- The displayed form of a key; texts stand without their kind. -/
def displayKey : Document → String
  | .str s => Text.quoted s
  | .bool b => if b then "true" else "false"
  | .int n => toString n
  | key => key.display

end

mutual

/-- How deeply sequences and mappings are nested in a document. -/
def depth : Document → Nat
  | .seq items => depthOfItems items + 1
  | .map entries => depthOfEntries entries + 1
  | _ => 0

/-- The greatest depth of items. -/
def depthOfItems : List Document → Nat
  | [] => 0
  | d :: rest => max d.depth (depthOfItems rest)

/-- The greatest depth of keys and values. -/
def depthOfEntries : List (Document × Document) → Nat
  | [] => 0
  | (key, value) :: rest => max (max key.depth value.depth) (depthOfEntries rest)

end

mutual

/-- Whether two keys of a mapping are the same. -/
def sameKey : Document → Document → Bool
  | .null, .null => true
  | .bool a, .bool b => a == b
  | .int a, .int b => a == b
  | .float a, .float b => a == b || (a.isNaN && b.isNaN)
  | .str a, .str b => a == b
  | .seq a, .seq b => sameItems a b
  | .map a, .map b => a.length == b.length && sameEntries a b
  | _, _ => false

/-- Whether items are the same one by one. -/
def sameItems : List Document → List Document → Bool
  | [], [] => true
  | a :: as, b :: bs => sameKey a b && sameItems as bs
  | _, _ => false

/-- Whether each entry is one of others. -/
def sameEntries : List (Document × Document) → List (Document × Document) → Bool
  | [], _ => true
  | (key, value) :: rest, others => isEntry key value others && sameEntries rest others

/-- Whether an entry is one of some. -/
def isEntry (key value : Document) : List (Document × Document) → Bool
  | [] => false
  | (k, v) :: rest => (sameKey key k && sameKey value v) || isEntry key value rest

end

mutual

/-- Whether no mapping in a document has a key twice. -/
def hasUniqueKeys : Document → Bool
  | .seq items => itemsHaveUniqueKeys items
  | .map entries => entriesHaveUniqueKeys entries
  | _ => true

/-- Whether no mapping in items has a key twice. -/
def itemsHaveUniqueKeys : List Document → Bool
  | [] => true
  | d :: rest => d.hasUniqueKeys && itemsHaveUniqueKeys rest

/-- Whether neither entries nor the mappings in them have a key twice. -/
def entriesHaveUniqueKeys : List (Document × Document) → Bool
  | [] => true
  | (key, value) :: rest =>
    key.hasUniqueKeys && value.hasUniqueKeys && !rest.any (fun entry => sameKey key entry.1) &&
      entriesHaveUniqueKeys rest

end

/-- What reading a part of a document gives; the reason tells what does not fit. -/
abbrev Decoded (α : Type) := Except String α

/-- A text. -/
def asText : Document → Decoded String
  | .str s => .ok s
  | _ => .error "a text is expected"

/-- A truth value. -/
def asBool : Document → Decoded Bool
  | .bool b => .ok b
  | _ => .error "true or false is expected"

/-- The items of a sequence. -/
def asItems : Document → Decoded (List Document)
  | .seq items => .ok items
  | _ => .error "a sequence is expected"

/-- The entries of a mapping. -/
def asEntries : Document → Decoded (List (Document × Document))
  | .map entries => .ok entries
  | _ => .error "a mapping is expected"

/-- One of several named things: its name alone, or as the only key of a mapping to nothing.  In
a mapping a number stands for the thing in its position. -/
def asChoice (names : List (String × α)) (d : Document) : Decoded α :=
  let choice? : Option α := match d with
    | .str name => names.lookup name
    | .map [(.str name, .null)] => names.lookup name
    | .map [(.int n, .null)] => if 0 ≤ n then (names[n.toNat]?).map (·.2) else none
    | _ => none
  match choice? with
  | some choice => .ok choice
  | none => .error "the name of a choice is expected"

/-- The name of a field.  A number stands for the known field in its position. -/
def asFieldName (known : List String) : Document → Decoded String
  | .int n => if 0 ≤ n then .ok (known.getD n.toNat "") else .error "a text is expected"
  | d => d.asText

/-- The fields of a record by name.  Fields that are not known are left out, and one that is
given twice does not fit.  A sequence gives the known fields in their order. -/
def asFields (known : List String) : Document → Decoded (List (String × Document))
  | .seq items =>
    if known.length < items.length then .error "there are too many items"
    else .ok (known.zip items)
  | d => do
    let entries ← d.asEntries
    let named ← entries.mapM fun (key, value) => return (← key.asFieldName known, value)
    let fields := named.filter fun field => known.contains field.1
    if (fields.map (·.1)).eraseDups.length < fields.length then throw "a field is given twice"
    return fields

/-- A field that may be left out. -/
def field (fields : List (String × Document)) (name : String) (decode : Document → Decoded α)
    (missing : α) : Decoded α :=
  match fields.lookup name with
  | some d => decode d
  | none => .ok missing

/-- A field that may be left out or stand for nothing. -/
def field? (fields : List (String × Document)) (name : String) (decode : Document → Decoded α) :
    Decoded (Option α) :=
  match fields.lookup name with
  | some .null => .ok none
  | some d => (decode d).map some
  | none => .ok none

/-- A field that has to be there. -/
def required (fields : List (String × Document)) (name : String)
    (decode : Document → Decoded α) : Decoded α :=
  match fields.lookup name with
  | some d => decode d
  | none => .error ("the field " ++ name ++ " is missing")

/-! ## Shapes

Where the scalars of a text have no types, what is asked for tells what they are.  A shape says
what is asked for; the parts of a text that it does not mention are not looked at. -/

/-- What a part of a document is read as. -/
inductive Shape where
  | text
  | bool
  /-- One of several named things. -/
  | choice
  /-- Nothing, or a part of a shape. -/
  | optional (shape : Shape)
  | seq (item : Shape)
  /-- A mapping from texts. -/
  | table (value : Shape)
  /-- A mapping with named fields, of which each may be missing. -/
  | record (fields : List (String × Shape))
  /-- Whatever it is by itself.  A part with a type of its own is a mapping from the name of the
  type if `named`, and does not fit otherwise. -/
  | anything (named : Bool)
  deriving Repr, Inhabited

namespace Shape

/-- The shape of what may be left out. -/
def content : Shape → Shape
  | optional shape => shape
  | shape => shape

/-- Whether nothing may stand in place of a part. -/
def isOptional : Shape → Bool
  | optional _ => true
  | _ => false

end Shape

end Document

end RecipeRunner

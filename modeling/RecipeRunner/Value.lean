import RecipeRunner.Decimal.Notation
import RecipeRunner.Decimal.Reading
import RecipeRunner.Text.Basic
/-!
# Values

What a variable of a recipe can hold, and the views of it that templates and conditions use.
The rules of coercion live here and nowhere else: a missing datum is written `false`, so
`false` counts as zero, as the empty text and as no truth.
-/

namespace RecipeRunner

/-- What a variable can hold. -/
inductive Value where
  | bool (b : Bool)
  | int (n : Int)
  | float (x : Float)
  | str (s : String)
  | list (items : List String)
  deriving BEq, Repr, Inhabited

namespace Value

/-- Floats are written without an exponent and without a point when they are whole. -/
def floatLayout : Decimal.Layout where
  plainFrom := none
  plainBelow := none
  fraction := 0
  nan := "NaN"
  infinity := "inf"

/-- The text of a float.  Whole floats below `10 ^ 15` are written like integers, so there is
no negative zero. -/
def floatText (x : Float) : String :=
  if Decimal.isWhole x && x.abs < 1e15 then
    match Decimal.truncate? x with
    | some n => toString n
    | none => floatLayout.write x
  else floatLayout.write x

/-- Reads a number: an integer if it is one, otherwise a float; `true` and `false` count as one
and zero. -/
def readNumber? (s : String) : Option Float :=
  match Text.trimmed s with
  | "false" => some 0.0
  | "true" => some 1.0
  | t =>
    match Decimal.readBounded? t.toList with
    | some n => some (Float.ofInt n)
    | none => Decimal.readFloat? t.toList

/-- The value of a computed number: an integer when it is whole and fits. -/
def ofFloat (x : Float) : Value :=
  if Decimal.isWhole x && x.abs < 9223372036854775808.0 then
    match Decimal.truncate? x with
    | some n => .int n
    | none => .float x
  else .float x

/-- The text that stands for a value in a command. -/
def render : Value → String
  | .bool b => if b then "true" else "false"
  | .int n => toString n
  | .float x => floatText x
  | .str s => s
  | .list items => "\n".intercalate items

/-- The number that a value stands for. -/
def toFloat? : Value → Option Float
  | .bool b => some (if b then 1.0 else 0.0)
  | .int n => some (Float.ofInt n)
  | .float x => some x
  | .str s => readNumber? s
  | .list _ => none

/-- A whole float as an integer, at the nearest end of the range if it lies outside. -/
def wholeInt? (x : Float) : Option Int :=
  if Decimal.isWhole x then (Decimal.truncate? x).map Decimal.clamp else none

/-- The integer that a value stands for. -/
def toInt? : Value → Option Int
  | .int n => some n
  | .str s =>
    match Text.trimmed s with
    | "" | "false" => some 0
    | "true" => some 1
    | t =>
      match Decimal.readBounded? t.toList with
      | some n => some n
      | none => (readNumber? t).bind wholeInt?
  | value => value.toFloat?.bind wholeInt?

/-- Whether a value counts as true. -/
def isTruthy : Value → Bool
  | .bool b => b
  | .int n => n ≠ 0
  | .float x => x != 0.0
  | .str s =>
    match Text.trimmed s with
    | "" | "false" | "0" => false
    | _ => true
  | .list items => !items.isEmpty

/-- The items of a value: of a list its members, otherwise the items of its text. -/
def toItems : Value → List String
  | .list items => items
  | value => Text.itemsOf value.render

/-- The value of a command's output or of a variable given on the command line. -/
def ofOutput (raw : String) : Value :=
  match Text.trimmed raw with
  | "true" => .bool true
  | "false" => .bool false
  | t =>
    match Decimal.readBounded? t.toList with
    | some n => .int n
    | none => .str t

/-- The name of a value's kind. -/
def kindName : Value → String
  | .bool _ => "bool"
  | .int _ => "int"
  | .float _ => "float"
  | .str _ => "string"
  | .list _ => "list"

@[simp] theorem render_str (s : String) : (str s).render = s := rfl

@[simp] theorem toItems_list (items : List String) : (list items).toItems = items := rfl

end Value

end RecipeRunner

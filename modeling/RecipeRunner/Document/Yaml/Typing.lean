import RecipeRunner.Decimal.Reading
import RecipeRunner.Document.Basic
import RecipeRunner.Unicode.RangeTable
/-!
# Types of scalars

What a scalar without quotes is when no type is asked for: nothing, a truth value, a number or,
when it is none of these, a text.  A tag can ask for one of these types.
-/

namespace RecipeRunner.Yaml

open Document (Decoded)

/-- What a tag says of the type of a node. -/
inductive Tag where
  | null
  | bool
  | int
  | float
  /-- Another one of the standard types; scalars of it are texts. -/
  | text
  /-- A type of its own. -/
  | custom (name : String)
  /-- A type of its own whose name is not text. -/
  | nameless
  deriving DecidableEq, Repr

namespace Typing

/-- Whether a text is a word for nothing. -/
def isNullWord (text : String) : Bool :=
  text = "~" || text = "null" || text = "Null" || text = "NULL"

/-- Whether plain text stands for nothing. -/
def isNull (text : String) : Bool :=
  text = "" || isNullWord text

/-- The truth value that plain text stands for. -/
def bool? (text : String) : Option Bool :=
  if text = "true" || text = "True" || text = "TRUE" then some true
  else if text = "false" || text = "False" || text = "FALSE" then some false
  else none

/-- Digits that start with a zero, which make no number. -/
def isPaddedDigits (cs : List Char) : Bool :=
  let digits := (Decimal.readSign cs).2
  1 < digits.length && digits.head? = some '0' && digits.all Decimal.isDigit

/-- A natural number in a base up to sixteen. -/
def digits? (base : Nat) (cs : List Char) : Option Nat :=
  let isDigit (c : Char) := (Unicode.digitValue? c).any (· < base)
  if !cs.isEmpty && cs.all isDigit then some (Unicode.natOfDigits base cs) else none

/-- The base that a text starts with, and the digits behind it. -/
def splitBase? : List Char → Option (Nat × List Char)
  | '0' :: 'x' :: rest => some (16, rest)
  | '0' :: 'o' :: rest => some (8, rest)
  | '0' :: 'b' :: rest => some (2, rest)
  | _ => none

/-- The integer that plain text stands for. -/
def int? (cs : List Char) : Option Int :=
  let (negative, magnitude) := Decimal.readSign cs
  let value := match splitBase? magnitude with
    | some (base, digits) => digits? base digits
    | none => if isPaddedDigits cs then none else digits? 10 magnitude
  value.map fun n => if negative then -(n : Int) else n

/-- The float that plain text stands for. -/
def float? (cs : List Char) : Option Float :=
  let positive := match cs with
    | '+' :: rest => if rest.head?.any (fun c => c = '+' || c = '-') then none else some rest
    | _ => some cs
  match positive with
  | none => none
  | some positive =>
    let name := String.ofList positive
    let whole := String.ofList cs
    if name = ".inf" || name = ".Inf" || name = ".INF" then some (1.0 / 0.0)
    else if whole = "-.inf" || whole = "-.Inf" || whole = "-.INF" then some (-1.0 / 0.0)
    else if whole = ".nan" || whole = ".NaN" || whole = ".NAN" then some (0.0 / 0.0)
    else (Decimal.readFloat? positive).filter Float.isFinite

/-- The greatest integer that documents hold exactly. -/
def greatest : Int := Decimal.twoTo 64 - 1

/-- What a text of at most 128 bits stands for, if it is an integer: documents hold only those
of half the size, and the others are no values. -/
def ofInt? (cs : List Char) : Option (Decoded Document) :=
  match int? cs with
  | some n =>
    if Decimal.leastInteger ≤ n && n ≤ greatest then some (.ok (.int n))
    else if -(Decimal.twoTo 127) ≤ n && n < Decimal.twoTo 128 then
      some (.error "an integer is too large")
    else none
  | none => none

/-- What plain text is when no type is asked for. -/
def untyped (text : String) : Decoded Document :=
  if isNull text then .ok .null
  else
    match bool? text, ofInt? text.toList with
    | some b, _ => .ok (.bool b)
    | none, some n => n
    | none, none =>
      if isPaddedDigits text.toList then .ok (.str text)
      else .ok ((float? text.toList).elim (.str text) .float)

/-- What a text is that a tag asks something of; `isPlain` tells that it is without quotes. -/
def tagged (tag : Tag) (isPlain : Bool) (text : String) : Decoded Document :=
  let orElse (d : Option Document) : Decoded Document :=
    match d with
    | some d => .ok d
    | none => .error "a scalar does not have the type of its tag"
  match tag with
  | .null => orElse (if isNullWord text then some .null else none)
  | .bool => orElse ((bool? text).map .bool)
  | .int => (ofInt? text.toList).getD (.error "an integer is expected")
  | .float => orElse ((float? text.toList).map .float)
  | .text => .ok (.str text)
  | .custom _ | .nameless => if isPlain then untyped text else .ok (.str text)

end Typing

end RecipeRunner.Yaml

import RecipeRunner.Document.Basic
/-!
# JSON

Documents as indented JSON.  A number that JSON cannot write is written as `null`.
-/

namespace RecipeRunner.Document

namespace Json

/-- Floats have a fraction and an exponent where they are very small or large. -/
def floatLayout : Decimal.Layout where
  plainFrom := some (-5)
  plainBelow := some 16
  fraction := 1
  nan := "null"
  infinity := "null"
  tie := .even

/-- A character of a text. -/
def character (c : Char) : String :=
  match c with
  | '"' => "\\\""
  | '\\' => "\\\\"
  | '\n' => "\\n"
  | '\r' => "\\r"
  | '\t' => "\\t"
  | '\x08' => "\\b"
  | '\x0c' => "\\f"
  | c =>
    if c.toNat < 32 then
      "\\u00" ++ (if c.toNat < 16 then "0" else "1") ++ String.ofList (Nat.toDigits 16 (c.toNat % 16))
    else String.singleton c

/-- A text in quotes. -/
def text (s : String) : String :=
  "\"" ++ String.join (s.toList.map character) ++ "\""

/-- A line end with the indentation of a level. -/
def lineEnd (level : Nat) : String :=
  "\n".pushn ' ' (2 * level)

/-- Members in brackets, each in a line of its own. -/
def enclosed (opening closing : String) (level : Nat) (members : List String) : String :=
  if members.isEmpty then opening ++ closing
  else
    opening ++ lineEnd (level + 1) ++ ("," ++ lineEnd (level + 1)).intercalate members ++
      lineEnd level ++ closing

end Json

open Json in
mutual

/-- A document at a level of indentation. -/
def toJson (level : Nat) : Document → String
  | .null => "null"
  | .bool b => if b then "true" else "false"
  | .int n => toString n
  | .float x => if x.isFinite then floatLayout.write x else "null"
  | .str s => text s
  | .seq items => enclosed "[" "]" level (itemsToJson (level + 1) items)
  | .map entries => enclosed "\x7b" "\x7d" level (entriesToJson (level + 1) entries)

/-- The members of a sequence. -/
def itemsToJson (level : Nat) : List Document → List String
  | [] => []
  | d :: rest => toJson level d :: itemsToJson level rest

/-- The members of a mapping. -/
def entriesToJson (level : Nat) : List (Document × Document) → List String
  | [] => []
  | (key, d) :: rest => (toJson level key ++ ": " ++ toJson level d) :: entriesToJson level rest

end

end RecipeRunner.Document

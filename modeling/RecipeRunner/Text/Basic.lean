import RecipeRunner.Text.Lines
import RecipeRunner.Text.Search
import RecipeRunner.Unicode.CaseMap
import RecipeRunner.Unicode.Property
/-!
# Operations on strings

The operations of the modules on lists of characters, for strings, and texts and characters as
they are shown inside messages: between quotes, with the quote itself, the backslash, and whatever
would not show up by itself escaped.
-/

namespace RecipeRunner.Text

/-- A string without blanks at either end. -/
def trimmed (s : String) : String :=
  String.ofList (trim s.toList)

/-- Whether a string holds blanks only. -/
def isAllBlank (s : String) : Bool :=
  s.toList.all isBlank

/-- The trimmed lines of a string that are not empty. -/
def itemsOf (s : String) : List String :=
  (items s.toList).map String.ofList

/-- The lines of a string. -/
def linesOf (s : String) : List String :=
  (lines s.toList).map String.ofList

/-- The pieces of a string between occurrences of a separator. -/
def piecesOf (sep s : String) : List String :=
  (pieces sep.toList s.toList).map String.ofList

/-- Replaces every occurrence of `mark` in a string. -/
def replaced (mark substitute s : String) : String :=
  String.ofList (replaceAll mark.toList substitute.toList s.toList)

/-- Whether `mark` occurs in a string. -/
def contains (mark s : String) : Bool :=
  occursIn mark.toList s.toList

/-- What follows `front` in a string that begins with it. -/
def stripStart? (front s : String) : Option String :=
  (afterStart? front.toList s.toList).map String.ofList

/-- What precedes `back` in a string that ends with it. -/
def stripEnd? (back s : String) : Option String :=
  (beforeEnd? back.toList s.toList).map String.ofList

/-- The parts of a string before and after the leftmost occurrence of `mark`. -/
def splitOnce? (mark s : String) : Option (String × String) :=
  (cutAt? mark.toList s.toList).map fun (before, after) =>
    (String.ofList before, String.ofList after)

/-- Upper case of a string. -/
def upperCase (s : String) : String :=
  String.ofList (Unicode.upper s.toList)

/-- Lower case of a string. -/
def lowerCase (s : String) : String :=
  String.ofList (Unicode.lower s.toList)

/-- Whether two strings are equal when the case of the twenty-six basic letters is ignored. -/
def equalIgnoringCase (a b : String) : Bool :=
  a.toList.map Char.toLower == b.toList.map Char.toLower

/-- The escape of an unprintable character by its code point in base sixteen. -/
private def codePointEscape (c : Char) : List Char :=
  '\\' :: 'u' :: '\x7b' :: Nat.toDigits 16 c.toNat ++ ['\x7d']

/-- One character inside quotes, where `quote` is the quote to escape. -/
def escapeChar (quote c : Char) : List Char :=
  if c = '\x00' then ['\\', '0']
  else if c = '\t' then ['\\', 't']
  else if c = '\r' then ['\\', 'r']
  else if c = '\n' then ['\\', 'n']
  else if c = '\\' || c = quote then ['\\', c]
  else if Unicode.isCombining c || !Unicode.isPrintable c then codePointEscape c
  else [c]

/-- A text between double quotes. -/
def quotedChars (cs : List Char) : List Char :=
  '"' :: cs.flatMap (escapeChar '"') ++ ['"']

/-- A text between double quotes. -/
def quoted (s : String) : String :=
  String.ofList (quotedChars s.toList)

/-- A character between single quotes. -/
def quotedChar (c : Char) : String :=
  String.ofList ('\'' :: escapeChar '\'' c ++ ['\''])

end RecipeRunner.Text

import RecipeRunner.Document.Basic
import RecipeRunner.Text.Basic
/-!
# Places in a text

A cursor stands before what is left of a text and knows its line and its column, both counted
from zero.
-/

namespace RecipeRunner.Yaml

open Document (Decoded)

/-- A place in a text. -/
structure Cursor where
  rest : List Char
  /-- The number of characters before the place. -/
  index : Nat := 0
  line : Nat := 0
  column : Nat := 0
  deriving Repr

/-- Whether a character ends a line. -/
def isBreak (c : Char) : Bool :=
  c = '\r' || c = '\n' || c = '\u0085' || c = '\u2028' || c = '\u2029'

/-- Whether a character is a space or a tab. -/
def isGap (c : Char) : Bool :=
  c = ' ' || c = '\t'

/-- Characters of the names of anchors, of the handles of tags and of directives. -/
def isNameChar (c : Char) : Bool :=
  c.isAlphanum || c = '_' || c = '-'

/-- Whether a character may stand in a text. -/
def isAllowed (c : Char) : Bool :=
  let n := c.toNat
  n = 9 || n = 10 || n = 13 || (32 ≤ n && n ≤ 126) || n = 0x85 || (0xa0 ≤ n && n ≤ 0xd7ff) ||
    (0xe000 ≤ n && n ≤ 0xfffd) || 0x10000 ≤ n

namespace Cursor

/-- The character behind a place. -/
def peek? (c : Cursor) : Option Char :=
  c.rest.head?

/-- The character `n` places further on. -/
def peekAt? (c : Cursor) (n : Nat) : Option Char :=
  c.rest[n]?

/-- Whether a character stands behind a place. -/
def isAt (c : Cursor) (ch : Char) : Bool :=
  c.peek? = some ch

/-- Whether the text is at its end. -/
def atEnd (c : Cursor) : Bool :=
  c.rest.isEmpty

/-- Whether a space or a tab follows. -/
def atGap (c : Cursor) : Bool :=
  c.peek?.any isGap

/-- Whether the end of a line follows. -/
def atBreak (c : Cursor) : Bool :=
  c.peek?.any isBreak

/-- Whether the end of a line or of the text follows. -/
def atLineEnd (c : Cursor) : Bool :=
  c.peek?.all isBreak

/-- Whether a word ends `n` places further on. -/
def endsWord (c : Cursor) (n : Nat) : Bool :=
  (c.peekAt? n).all fun ch => isGap ch || isBreak ch

/-- The place `n` characters further on in the same line. -/
def skip (c : Cursor) (n : Nat) : Cursor :=
  { c with rest := c.rest.drop n, index := c.index + n, column := c.column + n }

/-- The place behind the characters that have a property, and those characters. -/
def takeWhile (c : Cursor) (p : Char → Bool) : List Char × Cursor :=
  let taken := c.rest.takeWhile p
  (taken, c.skip taken.length)

/-- The place behind spaces and tabs. -/
def skipGap (c : Cursor) : Cursor :=
  (c.takeWhile isGap).2

/-- The place behind a comment, if one follows. -/
def skipComment (c : Cursor) : Cursor :=
  if c.isAt '#' then (c.takeWhile fun ch => !isBreak ch).2 else c

/-- The end of a line as it is kept in scalars, and the place behind it. -/
def readBreak (c : Cursor) : List Char × Cursor :=
  let next (n : Nat) : Cursor :=
    { rest := c.rest.drop n, index := c.index + n, line := c.line + 1, column := 0 }
  match c.rest with
  | '\r' :: '\n' :: _ => (['\n'], next 2)
  | ch :: _ =>
    if ch = '\u2028' || ch = '\u2029' then ([ch], next 1)
    else if isBreak ch then (['\n'], next 1)
    else ([], c)
  | [] => ([], c)

/-- Whether a line that begins or ends a document follows. -/
def atDocumentMark (c : Cursor) : Bool :=
  c.column = 0 && c.endsWord 3 &&
    (Text.startsWith ['-', '-', '-'] c.rest || Text.startsWith ['.', '.', '.'] c.rest)

end Cursor

end RecipeRunner.Yaml

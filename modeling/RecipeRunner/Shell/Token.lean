import RecipeRunner.Shell.Command
/-!
# Tokens of shell scripts

What a script is read as: words, marks, redirections and line ends.  The state of reading holds
the rest of the script, a token that was read but not used, and the texts that redirections read
from the script behind the end of their line.
-/

namespace RecipeRunner.Shell

/-- Why a script cannot be read, and in which line. -/
structure Fault where
  line : Nat
  text : String
  deriving DecidableEq, Repr

/-- A token of a script. -/
inductive Token where
  | word (pieces : List Piece)
  | mark (text : String)
  | redirection (descriptor : Nat) (mark : String)
  | newline
  | theEnd

namespace Token

/-- The words that have a meaning of their own at the start of a command. -/
def keywords : List String :=
  ["!", "case", "do", "done", "elif", "else", "esac", "fi", "for", "if", "in", "then", "until",
   "while", "\x7b", "\x7d"]

/-- The keyword that a token is. -/
def keyword? : Token → Option String
  | word pieces => (Piece.bare? pieces).filter keywords.contains
  | _ => none

/-- Whether a token is a certain keyword or mark. -/
def is (t : Token) (text : String) : Bool :=
  match t with
  | mark s => s = text
  | _ => t.keyword? = some text

/-- Whether a token ends a list of commands. -/
def endsList (t : Token) : Bool :=
  match t with
  | mark s => s = ")" || s = ";;"
  | theEnd => true
  | _ => ["do", "done", "elif", "else", "esac", "fi", "then", "\x7d"].any t.is

/-- What a token is called in faults, where keywords are called by their names. -/
def name (t : Token) : String :=
  match t with
  | word _ => ((t.keyword?).map fun s => "\"" ++ s ++ "\"").getD "word"
  | mark s => "\"" ++ s ++ "\""
  | redirection .. => "redirection"
  | newline => "newline"
  | theEnd => "end of file"

end Token

/-- A text that is to be read from behind the end of the line. -/
structure Document where
  number : Nat
  /-- The line that ends the text. -/
  ending : List Char
  /-- Whether the text stands for itself. -/
  quoted : Bool
  /-- Whether tabs at the start of lines are left out. -/
  untabbed : Bool

/-- How far a script was read. -/
structure Cursor where
  rest : List Char
  line : Nat := 1
  held : Option Token := none
  /-- The texts that stand for command names. -/
  aliases : List (String × String) := []
  /-- The aliases whose texts were put in, latest first, and how much of the script is behind
  each of them. -/
  opened : List (String × Nat) := []
  wanted : List Document := []
  /-- The texts that were read, by their numbers. -/
  documents : List (Nat × List Piece) := []
  nextDocument : Nat := 0

/-- What reads a part of a script. -/
abbrev Reader := StateT Cursor (Except Fault)

namespace Reader

variable {α : Type}

/-- Stops with a fault in the present line. -/
def fault (text : String) : Reader α := do
  throw ⟨(← get).line, text⟩

/-- The next character, which is not used. -/
def peek? : Reader (Option Char) := do
  return (← get).rest.head?

/-- Uses a character. -/
def skip : Reader Unit :=
  modify fun c =>
    match c.rest with
    | [] => c
    | ch :: rest => { c with rest := rest, line := if ch = '\n' then c.line + 1 else c.line }

/-- The next character, which is used. -/
def take? : Reader (Option Char) := do
  let c ← peek?
  skip
  return c

/-- Uses characters as long as they satisfy a predicate. -/
def takeWhile (p : Char → Bool) : Reader (List Char) := do
  let taken := (← get).rest.takeWhile p
  modify fun c =>
    { c with rest := c.rest.drop taken.length, line := c.line + taken.count '\n' }
  return taken

/-- Uses a text if it comes next. -/
def takeText (text : List Char) : Reader Bool := do
  if text.isPrefixOf (← get).rest then
    modify fun c => { c with rest := c.rest.drop text.length }
    return true
  else return false

/-- Passes over blanks, comments and joined lines within the line; `steps` bounds how many. -/
def skipBlanks : (steps : Nat) → Reader Unit
  | 0 => pure ()
  | steps + 1 => do
    match (← get).rest with
    | ' ' :: _ | '\t' :: _ => skip; skipBlanks steps
    | '\\' :: '\n' :: _ => skip; skip; skipBlanks steps
    | '#' :: _ => discard (takeWhile (· != '\n'))
    | _ => pure ()

end Reader

/-- Whether a character can start a name. -/
def startsName (c : Char) : Bool :=
  c.isAlpha || c = '_'

/-- Whether a character can belong to a name. -/
def continuesName (c : Char) : Bool :=
  c.isAlphanum || c = '_'

/-- Whether a text is a name. -/
def isName (s : List Char) : Bool :=
  (s.head?.any startsName) && s.all continuesName

/-- Whether a character ends a word that is not quoted. -/
def endsWord (c : Char) : Bool :=
  c = ' ' || c = '\t' || c = '\n' || c = ';' || c = '&' || c = '|' || c = '(' || c = ')' ||
    c = '<' || c = '>'

/-- The parameters whose names are marks. -/
def isSpecialParameter (c : Char) : Bool :=
  c = '@' || c = '*' || c = '#' || c = '?' || c = '-' || c = '$' || c = '!'

end RecipeRunner.Shell

/-!
# Commands of the shell

The tree of a shell script.  A word is a list of pieces, since quoted text, unquoted text and
what is put in by the shell are treated differently.  The characters of a script stand for
bytes: a script is read byte by byte, and each byte is the character of its number.
-/

namespace RecipeRunner.Shell

/-- What is connected to a file descriptor. -/
inductive Connection where
  /-- A file that is read. -/
  | from
  /-- A file that is written, in place of what is in it. -/
  | into
  /-- A file that is written even where files are protected. -/
  | over
  /-- A file that is written behind what is in it. -/
  | behind
  /-- A file that is read and written. -/
  | both
  /-- A copy of another descriptor. -/
  | copy
  deriving DecidableEq, Repr

mutual

/-- A part of a word. -/
inductive Piece where
  | text (s : List Char) (quoted : Bool)
  /-- The value of a parameter, possibly changed. -/
  | parameter (name : String) (change : Change) (quoted : Bool)
  /-- The output of commands. -/
  | output (body : Command) (quoted : Bool)
  /-- The value of an arithmetic expression. -/
  | number (expression : List Piece) (quoted : Bool)

/-- What is done with the value of a parameter.  Where there is a choice, `orEmpty` says whether
an empty value counts as none. -/
inductive Change where
  | none
  | length
  | otherwise (orEmpty : Bool) (word : List Piece)
  | assign (orEmpty : Bool) (word : List Piece)
  | demand (orEmpty : Bool) (word : List Piece)
  | instead (orEmpty : Bool) (word : List Piece)
  /-- Takes the shortest or the longest match of a pattern off an end. -/
  | cut (atStart longest : Bool) (pattern : List Piece)
  /-- A change that the shell does not know. -/
  | unknown

/-- What is done to a file descriptor while a command runs. -/
inductive Redirection where
  | file (descriptor : Nat) (connection : Connection) (target : List Piece)
  /-- Reads a text that stands in the script, by its number. -/
  | document (descriptor number : Nat)

/-- A command. -/
inductive Command where
  /-- A program with its arguments; `line` is where it stands. -/
  | simple (line : Nat) (assignments : List (String × List Piece)) (words : List (List Piece))
    (redirections : List Redirection)
  /-- Each command reads what the one before it writes. -/
  | pipeline (commands : List Command)
  | negated (command : Command)
  | both (first second : Command)
  | either (first second : Command)
  | sequence (commands : List Command)
  | background (command : Command)
  /-- Runs a command whose changes to the shell are lost. -/
  | apart (line : Nat) (command : Command)
  | redirected (line : Nat) (command : Command) (redirections : List Redirection)
  | choice (condition success failure : Command)
  | loop (whileFails : Bool) (condition body : Command)
  /-- Repeats a command for words, or for the arguments of the shell. -/
  | each (line : Nat) (name : String) (words : Option (List (List Piece))) (body : Command)
  | cases (line : Nat) (word : List Piece) (arms : List (List (List Piece) × Command))
  | define (name : String) (body : Command)

end

instance : Inhabited Command := ⟨.sequence []⟩

namespace Piece

/-- Whether a piece stands for text only, and which. -/
def text? : Piece → Option (List Char)
  | text s _ => some s
  | _ => none

/-- The text of pieces that hold nothing else. -/
def texts? (pieces : List Piece) : Option (List Char) :=
  (pieces.mapM text?).map List.flatten

/-- Joins a character that is not quoted to the pieces behind it. -/
def consBare (c : Char) : List Piece → List Piece
  | text s false :: rest => text (c :: s) false :: rest
  | pieces => text [c] false :: pieces

/-- Joins a quoted character to the pieces behind it. -/
def consQuoted (c : Char) : List Piece → List Piece
  | text s true :: rest => text (c :: s) true :: rest
  | pieces => text [c] true :: pieces

/-- The text of a word that is not quoted anywhere. -/
def bare? : List Piece → Option String
  | [text s false] => some (String.ofList s)
  | _ => none

end Piece

end RecipeRunner.Shell

import RecipeRunner.Pattern.Basic
import RecipeRunner.Text.Basic
/-!
# Redaction

What is done to a text before it is written to a log: secrets are replaced by a mark, and
control characters are escaped so that the text stays on its line.
-/

namespace RecipeRunner.Redaction

open Pattern (one seq seqs alt star atLeast)

/-- What stands in place of a secret. -/
def mark : String := "[REDACTED]"

/-- A word in any case. -/
def word (s : String) : Pattern :=
  seqs (s.toList.map fun c => one (.anyCase (.single c)))

/-- One of several words. -/
def oneWord : List String → Pattern
  | [] => word ""
  | [s] => word s
  | s :: rest => alt (word s) (oneWord rest)

/-- The characters of which keys and tokens are made, less the marks that only some have. -/
def keyChars (marks : List Char) : CharSet :=
  .anyCase (.unions ([.range 'A' 'Z', .range 'a' 'z', .range '0' '9'] ++ marks.map .single))

/-- Blanks. -/
def blanks : CharSet := .anyCase .blank

/-- Keys, told by how they start. -/
def keyPattern : Pattern :=
  seq (oneWord ["sk-", "key-", "token-"]) (atLeast 8 (one (keyChars ['_', '-'])))

/-- Bearer tokens. -/
def bearerPattern : Pattern :=
  seqs [word "Bearer", atLeast 1 (one blanks),
    atLeast 8 (one (keyChars ['_', '-', '.']))]

/-- Passwords behind an equals sign. -/
def passwordPattern : Pattern :=
  seqs [oneWord ["password", "passwd", "pwd"], star (one blanks), word "=",
    star (one blanks), atLeast 1 (one (.complement blanks))]

/-- The patterns of secrets, in the order in which they are replaced. -/
def patterns : List Pattern := [keyPattern, bearerPattern, passwordPattern]

/-- Replaces secrets in a text. -/
def redactChars (cs : List Char) : List Char :=
  patterns.foldl (fun cs p => p.replaceIn mark.toList cs) cs

/-- Replaces secrets in a text. -/
def redact (s : String) : String :=
  String.ofList (redactChars s.toList)

/-- A code in hexadecimal digits, at least four. -/
def hexCode (c : Char) : List Char :=
  let digits := Nat.toDigits 16 c.toNat
  List.replicate (4 - digits.length) '0' ++ digits

/-- How a character is written on a line of a log. -/
def escape (c : Char) : List Char :=
  if c = '\n' then ['\\', 'n']
  else if c = '\r' then ['\\', 'r']
  else if c = '\t' then ['\\', 't']
  else if c = '\x1b' then ['\\', 'e']
  else if c = '\x00' then ['\\', '0']
  else if Unicode.isControl c then '\\' :: 'u' :: hexCode c
  else [c]

/-- A text as it is written on a line of a log. -/
def sanitize (s : String) : String :=
  String.ofList ((redactChars s.toList).flatMap escape)

end RecipeRunner.Redaction

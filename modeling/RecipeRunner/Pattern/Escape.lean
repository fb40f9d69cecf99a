import RecipeRunner.Pattern.Flags
import RecipeRunner.Pattern.Property
/-!
# Escapes in patterns

What stands behind a backslash: a character, a set or a condition.
-/

namespace RecipeRunner.Pattern

/-- What an escape stands for. -/
inductive Escaped where
  | char (c : Char)
  | set (s : CharSet)
  | place (b : Boundary)

namespace Escaped

/-- The character of a code, if there is one. -/
def charOfCode? (code : Nat) : Option Char :=
  if code < 0xD800 ∨ (0xDFFF < code ∧ code ≤ 0x10FFFF) then some (Char.ofNat code) else none

/-- The character whose code digits in base sixteen give. -/
def charOfDigits? (digits : List Char) : Option Char :=
  if !digits.isEmpty && digits.all fun d => (Unicode.digitValue? d).isSome then
    charOfCode? (Unicode.natOfDigits 16 digits)
  else none

/-- As many characters, behind each of which something may be passed over, and the rest. -/
def readSome? (f : Flags) : (count : Nat) → List Char → Option (List Char × List Char)
  | 0, cs => some ([], cs)
  | _ + 1, [] => none
  | count + 1, c :: rest =>
    (readSome? f count (f.skip rest)).map fun (text, rest) => (c :: text, rest)

/-- The characters up to a closing brace, behind each of which something may be passed over, and
the rest behind the brace.  Each step uses a character. -/
def readBraced? (f : Flags) : (steps : Nat) → List Char → Option (List Char × List Char)
  | 0, _ | _, [] => none
  | steps + 1, c :: rest =>
    if c = '\x7d' then some ([], rest)
    else (readBraced? f steps (f.skip rest)).map fun (text, rest) => (c :: text, rest)

/-- A character by its code in base sixteen, with a fixed number of digits or in braces.  Two
digits stand for a byte where there are basic characters only. -/
def readCode? (f : Flags) (count : Nat) (cs : List Char) : Option (Escaped × List Char) :=
  match f.skip cs with
  | '\x7b' :: rest =>
    (readBraced? f (rest.length + 1) (f.skip rest)).bind fun (digits, tail) =>
      (charOfDigits? digits).map fun d => (char d, tail)
  | cs =>
    (readSome? f count cs).bind fun (digits, tail) =>
      (charOfDigits? digits).bind fun d =>
        if count = 2 && !f.unicode && 0x80 ≤ d.toNat then none else some (char d, tail)

/-- A set by the letter of a property or by its text in braces. -/
def readProperty? (f : Flags) (negated : Bool) (cs : List Char) :
    Option (Escaped × List Char) :=
  let found : Option (CharSet × Bool × List Char) := match f.skip cs with
    | '\x7b' :: rest =>
      (readBraced? f (rest.length + 1) (f.skip rest)).bind fun (text, tail) =>
        (Property.ofText? text).map fun (s, complemented) => (s, negated != complemented, tail)
    | letter :: tail => (Property.named? [letter]).map fun s => (s, negated, tail)
    | [] => none
  if f.unicode then
    found.bind fun (s, negated, tail) => (f.classOf? negated s).map fun s => (set s, tail)
  else none

/-- A class that is closed under case, or its complement. -/
def ofClass? (f : Flags) (negated : Bool) (s : CharSet) (rest : List Char) :
    Option (Escaped × List Char) :=
  if !negated then some (set s, rest)
  else if f.unicode then some (set (.complement s), rest)
  else none

/-- Characters of the names of word boundaries. -/
def isNameChar (c : Char) : Bool :=
  c.isAlpha || c = '-'

/-- The word boundary that is named in braces. -/
def namedBoundary? (inWord : CharSet) : String → Option Boundary
  | "start" => some (.wordStart inWord)
  | "end" => some (.wordEnd inWord)
  | "start-half" => some (.halfStart inWord)
  | "end-half" => some (.halfEnd inWord)
  | _ => none

/-- A word boundary, which may be followed by its name in braces.  Braces that hold no name belong
to a repetition. -/
def readBoundary? (f : Flags) (rest : List Char) : Option (Escaped × List Char) :=
  let plain := some (place (.wordEdge f.wordSet), rest)
  match rest with
  | '\x7b' :: inner =>
    let inner := f.skip inner
    match inner.head? with
    | none => none
    | some c =>
      if !isNameChar c then plain
      else
        (readBraced? f (inner.length + 1) inner).bind fun (name, tail) =>
          (namedBoundary? f.wordSet (String.ofList name)).map fun b => (place b, tail)
  | _ => plain

/-- Characters that may follow a backslash to stand for themselves. -/
def isEscapable (c : Char) : Bool :=
  c.toNat < 128 && !c.isAlphanum && c ≠ '<' && c ≠ '>'

/-- Reads an escape behind its backslash. -/
def read? (f : Flags) : List Char → Option (Escaped × List Char)
  | [] => none
  | c :: rest =>
    match c with
    | 'd' | 'D' => ofClass? f (c = 'D') f.digitSet rest
    | 's' | 'S' => ofClass? f (c = 'S') f.blankSet rest
    | 'w' | 'W' => ofClass? f (c = 'W') f.wordSet rest
    | 'p' | 'P' => readProperty? f (c = 'P') rest
    | 'x' => readCode? f 2 rest
    | 'u' => readCode? f 4 rest
    | 'U' => readCode? f 8 rest
    | 'a' => some (char '\x07', rest)
    | 'f' => some (char '\x0c', rest)
    | 't' => some (char '\t', rest)
    | 'n' => some (char '\n', rest)
    | 'r' => some (char '\r', rest)
    | 'v' => some (char '\x0b', rest)
    | 'A' => some (place .textStart, rest)
    | 'z' => some (place .textEnd, rest)
    | 'b' => readBoundary? f rest
    | 'B' => some (place (.noWordEdge f.wordSet), rest)
    | '<' => some (place (.wordStart f.wordSet), rest)
    | '>' => some (place (.wordEnd f.wordSet), rest)
    | _ => if isEscapable c then some (char c, rest) else none

end Escaped

end RecipeRunner.Pattern

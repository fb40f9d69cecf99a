import RecipeRunner.Document.Yaml.Cursor
import RecipeRunner.Unicode.RangeTable
/-!
# Scalars

Reading scalars: plain, quoted, literal and folded ones.  Between the words of a scalar stand
gaps; a gap within a line is kept, one end of a line becomes a space, and of several the first
is dropped.
-/

namespace RecipeRunner.Yaml

open Document (Decoded)

/-- How a scalar is written. -/
inductive Style where
  /-- Without quotes. -/
  | plain
  /-- As a block whose lines are kept. -/
  | literal
  /-- In quotes, or as a block whose lines are joined. -/
  | other
  deriving DecidableEq, Repr

/-- What stands between two words of a scalar. -/
structure Gap where
  blanks : List Char := []
  /-- Whether the gap goes on to another line. -/
  broken : Bool := false
  /-- The first end of a line, none when it was escaped. -/
  first : List Char := []
  /-- Further ends of lines. -/
  more : List Char := []

namespace Gap

/-- What a gap stands for. -/
def toChars (g : Gap) : List Char :=
  if !g.broken then g.blanks
  else if g.first = ['\n'] then (if g.more.isEmpty then [' '] else g.more)
  else g.first ++ g.more

/-- Reads a gap.  Tabs may not stand in front of column `indent`. -/
def read (indent : Nat) : (fuel : Nat) → Cursor → Gap → Decoded (Gap × Cursor)
  | 0, c, g => .ok (g, c)
  | fuel + 1, c, g =>
    match c.peek? with
    | none => .ok (g, c)
    | some ch =>
      if isGap ch then
        if g.broken && c.column < indent && ch = '\t' then .error "a tab stands in an indentation"
        else if g.broken then read indent fuel (c.skip 1) g
        else read indent fuel (c.skip 1) { g with blanks := g.blanks ++ [ch] }
      else if isBreak ch then
        let (text, c) := c.readBreak
        if g.broken then read indent fuel c { g with more := g.more ++ text }
        else read indent fuel c { broken := true, first := text }
      else .ok (g, c)

end Gap

namespace Plain

/-- Whether a word ends at a place because of an indicator. -/
def stops (inFlow : Bool) (c : Cursor) : Bool :=
  (c.isAt ':' && c.endsWord 1) ||
    (inFlow && c.peek?.any fun ch => ch = ',' || ch = '[' || ch = ']' || ch = '\x7b' || ch = '\x7d')

/-- Whether a colon stands in front of an indicator of a flow collection. -/
def clashes (inFlow : Bool) (c : Cursor) : Bool :=
  inFlow && c.isAt ':' && (c.peekAt? 1).any fun ch =>
    ch = ',' || ch = '?' || ch = '[' || ch = ']' || ch = '\x7b' || ch = '\x7d'

/-- Reads a word. -/
def readWord (inFlow : Bool) : (fuel : Nat) → Cursor → List Char →
    Decoded (List Char × Cursor)
  | 0, c, word => .ok (word.reverse, c)
  | fuel + 1, c, word =>
    match c.peek? with
    | none => .ok (word.reverse, c)
    | some ch =>
      if isGap ch || isBreak ch then .ok (word.reverse, c)
      else if clashes inFlow c then .error "a colon stands in front of an indicator"
      else if stops inFlow c then .ok (word.reverse, c)
      else readWord inFlow fuel (c.skip 1) (ch :: word)

/-- Reads words behind a gap; tells whether the scalar was followed by the end of a line. -/
def readWords (inFlow : Bool) (indent : Nat) : (fuel : Nat) → Cursor → List Char → Gap →
    Decoded (List Char × Bool × Cursor)
  | 0, c, text, gap => .ok (text, gap.broken, c)
  | fuel + 1, c, text, gap => do
    if c.atDocumentMark || c.isAt '#' then return (text, gap.broken, c)
    let (word, next) ← readWord inFlow (c.rest.length + 1) c []
    if word.isEmpty then return (text, gap.broken, c)
    let text := text ++ gap.toChars ++ word
    if !(next.atGap || next.atBreak) then return (text, false, next)
    let (gap, next) ← Gap.read indent (next.rest.length + 1) next {}
    if !inFlow && next.column < indent then return (text, gap.broken, next)
    readWords inFlow indent fuel next text gap

/-- Reads a plain scalar of a block that is indented to `indent`. -/
def read (inFlow : Bool) (indent : Nat) (c : Cursor) : Decoded (List Char × Bool × Cursor) :=
  readWords inFlow indent (c.rest.length + 1) c [] {}

end Plain

namespace Quoted

/-- The character that an escape of one letter stands for. -/
def escape? (ch : Char) : Option Char :=
  match ch with
  | '0' => some '\x00'
  | 'a' => some '\x07'
  | 'b' => some '\x08'
  | 't' | '\t' => some '\t'
  | 'n' => some '\n'
  | 'v' => some '\x0b'
  | 'f' => some '\x0c'
  | 'r' => some '\r'
  | 'e' => some '\x1b'
  | ' ' | '"' | '/' | '\\' => some ch
  | 'N' => some '\u0085'
  | '_' => some '\u00a0'
  | 'L' => some '\u2028'
  | 'P' => some '\u2029'
  | _ => none

/-- The number of digits behind an escape for the code of a character. -/
def codeLength? (ch : Char) : Option Nat :=
  match ch with
  | 'x' => some 2
  | 'u' => some 4
  | 'U' => some 8
  | _ => none

/-- Reads the escape of a character by its code. -/
def readCode (length : Nat) (c : Cursor) : Decoded Char :=
  let digits := c.rest.take length
  if digits.length < length || !digits.all (fun d => (Unicode.digitValue? d).any (· < 16)) then
    .error "an escape is not complete"
  else
    let code := Unicode.natOfDigits 16 digits
    if code.isValidChar then .ok (Char.ofNat code) else .error "an escape is no character"

/-- Reads a word; tells whether it ends with an escaped end of a line. -/
def readWord (single : Bool) : (fuel : Nat) → Cursor → List Char →
    Decoded (List Char × Bool × Cursor)
  | 0, c, word => .ok (word.reverse, false, c)
  | fuel + 1, c, word =>
    match c.rest with
    | [] => .ok (word.reverse, false, c)
    | ch :: rest =>
      if isGap ch || isBreak ch then .ok (word.reverse, false, c)
      else if single then
        if ch = '\'' then
          if rest.head? = some '\'' then readWord single fuel (c.skip 2) ('\'' :: word)
          else .ok (word.reverse, false, c)
        else readWord single fuel (c.skip 1) (ch :: word)
      else if ch = '"' then .ok (word.reverse, false, c)
      else if ch = '\\' then
        match rest with
        | [] => .error "an escape is not complete"
        | e :: _ =>
          if isBreak e then .ok (word.reverse, true, (c.skip 1).readBreak.2)
          else
            match escape? e, codeLength? e with
            | some plain, _ => readWord single fuel (c.skip 2) (plain :: word)
            | none, some length =>
              match readCode length (c.skip 2) with
              | .ok plain => readWord single fuel (c.skip (2 + length)) (plain :: word)
              | .error reason => .error reason
            | none, none => .error "an escape is unknown"
      else readWord single fuel (c.skip 1) (ch :: word)

/-- Reads words up to and with the closing quote. -/
def readWords (single : Bool) : (fuel : Nat) → Cursor → List Char → Decoded (List Char × Cursor)
  | 0, _, _ => .error "a quoted scalar is not closed"
  | fuel + 1, c, text => do
    if c.atDocumentMark then throw "a document ends within a quoted scalar"
    if c.atEnd then throw "a quoted scalar is not closed"
    let (word, escaped, next) ← readWord single (c.rest.length + 1) c []
    if next.isAt (if single then '\'' else '"') then return (text ++ word, next.skip 1)
    let (gap, next) ← Gap.read 0 (next.rest.length + 1) next { broken := escaped }
    readWords single fuel next (text ++ word ++ gap.toChars)

/-- Reads a quoted scalar behind its opening quote. -/
def read (single : Bool) (c : Cursor) : Decoded (List Char × Cursor) :=
  readWords single (c.rest.length + 2) c []

end Quoted

namespace Block

/-- What is kept of the ends of lines behind a block scalar. -/
inductive Chomping where
  | strip
  | clip
  | keep
  deriving DecidableEq

/-- The indicator of chomping. -/
def chomping? (c : Cursor) : Option Chomping :=
  if c.isAt '+' then some .keep else if c.isAt '-' then some .strip else none

/-- Reads the indicators behind the one that opens a block scalar: its chomping and how much it
is indented. -/
def readHeader (c : Cursor) : Decoded (Chomping × Option Nat × Cursor) :=
  let digit? (c : Cursor) : Option Nat :=
    (c.peek?.filter Char.isDigit).map fun d => d.toNat - '0'.toNat
  match chomping? c with
  | some chomping =>
    let c := c.skip 1
    match digit? c with
    | some 0 => .error "a block scalar is indented by nothing"
    | some n => .ok (chomping, some n, c.skip 1)
    | none => .ok (chomping, none, c)
  | none =>
    match digit? c with
    | some 0 => .error "a block scalar is indented by nothing"
    | some n =>
      let c := c.skip 1
      match chomping? c with
      | some chomping => .ok (chomping, some n, c.skip 1)
      | none => .ok (.clip, some n, c)
    | none => .ok (.clip, none, c)

/-- Skips indentation up to a column, or any if none is known yet. -/
def skipIndent (indent : Option Nat) (c : Cursor) : Cursor :=
  let spaces := (c.rest.takeWhile (· = ' ')).length
  match indent with
  | some indent => c.skip (min spaces (indent - c.column))
  | none => c.skip spaces

/-- Reads empty lines; gives the greatest column that they reach. -/
def readBreaks (indent : Option Nat) : (fuel : Nat) → Cursor → List Char → (widest : Nat) →
    Decoded (List Char × Nat × Cursor)
  | 0, c, breaks, widest => .ok (breaks, widest, c)
  | fuel + 1, c, breaks, widest =>
    let c := skipIndent indent c
    let widest := max widest c.column
    if indent.all (c.column < ·) && c.isAt '\t' then .error "a tab stands in an indentation"
    else if c.atBreak then
      let (text, next) := c.readBreak
      readBreaks indent fuel next (breaks ++ text) widest
    else .ok (breaks, widest, c)

/-- What was read of a block scalar. -/
structure Lines where
  text : List Char := []
  /-- The end of the last line. -/
  ending : List Char := []
  /-- The ends of empty lines behind it. -/
  breaks : List Char := []
  /-- Whether the last line starts with a blank. -/
  indented : Bool := false

/-- Reads the lines of a block scalar. -/
def readLines (literal : Bool) (indent : Nat) : (fuel : Nat) → Cursor → Lines →
    Decoded (Lines × Cursor)
  | 0, c, l => .ok (l, c)
  | fuel + 1, c, l => do
    if c.column ≠ indent || c.atEnd then return (l, c)
    let folds := !literal && l.ending = ['\n'] && !l.indented && !c.atGap
    let joint := if folds then (if l.breaks.isEmpty then [' '] else []) else l.ending
    let (line, next) := c.takeWhile fun ch => !isBreak ch
    let (ending, next) := next.readBreak
    let (breaks, _, next) ← readBreaks (some indent) (next.rest.length + 1) next [] 0
    readLines literal indent fuel next
      { text := l.text ++ joint ++ l.breaks ++ line, ending := ending, breaks := breaks
        indented := c.atGap }

/-- Reads a block scalar behind its first indicator, in a block that is indented to `parent`. -/
def read (literal : Bool) (parent : Int) (c : Cursor) : Decoded (List Char × Cursor) := do
  let (chomping, increment, c) ← readHeader c
  let c := c.skipGap.skipComment
  if !c.atLineEnd then throw "a line goes on behind the indicators of a block scalar"
  let c := c.readBreak.2
  let given := increment.map fun n => (max parent 0).toNat + n
  let (breaks, widest, c) ← readBreaks given (c.rest.length + 1) c [] 0
  let indent := given.getD (max (max widest (parent + 1).toNat) 1)
  let (l, c) ← readLines literal indent (c.rest.length + 1) c { breaks := breaks }
  let text := match chomping with
    | .strip => l.text
    | .clip => l.text ++ l.ending
    | .keep => l.text ++ l.ending ++ l.breaks
  return (text, c)

end Block

end RecipeRunner.Yaml

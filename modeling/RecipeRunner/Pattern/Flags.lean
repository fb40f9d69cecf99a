import RecipeRunner.Pattern.Basic
/-!
# Flags of patterns

What holds from a place of a pattern to the end of its group, and how it changes what the
pattern means.
-/

namespace RecipeRunner.Pattern

/-- The flags in force at a place of a pattern. -/
structure Flags where
  anyCase : Bool := false
  multiLine : Bool := false
  dotNewline : Bool := false
  /-- Whether repetitions prefer to stop unless they say otherwise. -/
  swapGreed : Bool := false
  /-- Whether classes and cases are those of all characters and not of the basic ones only. -/
  unicode : Bool := true
  /-- Whether blanks and remarks are passed over. -/
  verbose : Bool := false
  /-- Whether carriage returns end lines, too. -/
  anyLine : Bool := false

namespace Flags

/-- Sets one flag by its letter. -/
def set? (f : Flags) (letter : Char) (on : Bool) : Option Flags :=
  match letter with
  | 'i' => some { f with anyCase := on }
  | 'm' => some { f with multiLine := on }
  | 's' => some { f with dotNewline := on }
  | 'U' => some { f with swapGreed := on }
  | 'u' => some { f with unicode := on }
  | 'x' => some { f with verbose := on }
  | 'R' => some { f with anyLine := on }
  | _ => none

/-- Reads flags up to what ends them; gives the flags, the end and the rest.  A flag is `pending`
behind a hyphen, and those that were `seen` may not come again. -/
def read? (f : Flags) (on : Bool) (pending : Bool) (seen : List Char) :
    List Char → Option (Flags × Char × List Char)
  | [] => none
  | c :: rest =>
    if c = ':' then if pending then none else some (f, c, rest)
    else if c = ')' then if pending || seen.isEmpty then none else some (f, c, rest)
    else if c = '-' then if on then read? f false true seen rest else none
    else if seen.contains c then none
    else
      match f.set? c on with
      | some f => read? f on false (c :: seen) rest
      | none => none

/-- Passes over blanks and remarks, which go to the end of their line. -/
def skipBlanks (inRemark : Bool) : List Char → List Char
  | [] => []
  | c :: rest =>
    if inRemark then skipBlanks (c ≠ '\n') rest
    else if Text.isBlank c then skipBlanks false rest
    else if c = '#' then skipBlanks true rest
    else c :: rest

/-- Passes over what does not count. -/
def skip (f : Flags) (cs : List Char) : List Char :=
  if f.verbose then skipBlanks false cs else cs

/-- The characters of words. -/
def wordSet (f : Flags) : CharSet :=
  if f.unicode then .test Character.isWord
  else .unions [.range 'a' 'z', .range 'A' 'Z', .range '0' '9', .single '_']

/-- The decimal digits. -/
def digitSet (f : Flags) : CharSet :=
  if f.unicode then .test Character.isDigit else .range '0' '9'

/-- The blanks. -/
def blankSet (f : Flags) : CharSet :=
  if f.unicode then .blank else .union (.range '\t' '\r') (.single ' ')

/-- The set of the point. -/
def dotSet (f : Flags) : CharSet :=
  if f.dotNewline then .all
  else if f.anyLine then .complement (.union (.single '\n') (.single '\r'))
  else .complement (.single '\n')

/-- A set together with what differs from its members in case, if case is ignored. -/
def closed (f : Flags) (s : CharSet) : CharSet :=
  if !f.anyCase then s else if f.unicode then .anyCase s else .anyBasicCase s

/-- A set closed under case, or its complement; complements are those among all characters. -/
def classOf? (f : Flags) (negated : Bool) (s : CharSet) : Option CharSet :=
  if !negated then some (f.closed s)
  else if f.unicode then some (.complement (f.closed s))
  else none

/-- The condition of the mark for the start of a text or a line. -/
def startBoundary (f : Flags) : Boundary :=
  if !f.multiLine then .textStart else if f.anyLine then .anyLineStart else .lineStart

/-- The condition of the mark for the end of a text or a line. -/
def endBoundary (f : Flags) : Boundary :=
  if !f.multiLine then .textEnd else if f.anyLine then .anyLineEnd else .lineEnd

end Flags

end RecipeRunner.Pattern

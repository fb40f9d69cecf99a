import RecipeRunner.Shell.Pattern
/-!
# Words of the shell

What a word of a script becomes: text that was written, quoted or put in.  Text that was put in
is cut into words at separators, and letters that are not quoted may be a pattern.
-/

namespace RecipeRunner.Shell

/-- Where a text comes from: it was written as it stands, it was quoted, or it was put in. -/
inductive Origin where
  | written
  | quoted
  | expanded
  deriving DecidableEq, Repr

/-- A part of an expanded word. -/
inductive Span where
  | text (s : List Char) (origin : Origin)
  /-- The end of one of several words. -/
  | separate
  deriving Repr

namespace Span

/-- The text of spans that are one word, with a separator where there were several. -/
def joined (separator : List Char) (spans : List Span) : String :=
  String.ofList (spans.flatMap fun span =>
    match span with
    | text s _ => s
    | separate => separator)

/-- The pattern of spans. -/
def pattern (spans : List Span) : List Letter :=
  spans.flatMap fun span =>
    match span with
    | text s origin => s.map fun c => (c, origin != .quoted)
    | separate => [(' ', false)]

/-- Words that are being put together. -/
structure Words where
  /-- The words that are complete, latest first. -/
  complete : List (List Letter) := []
  /-- The letters of the present word, latest first, if there is one. -/
  current : Option (List Letter) := none
  /-- Whether a blank has just ended a word. -/
  behindBlank : Bool := false

namespace Words

/-- Ends the present word, if there is one. -/
def finish (w : Words) : Words :=
  match w.current with
  | some letters => { w with complete := letters.reverse :: w.complete, current := none }
  | none => w

/-- Adds text that is not cut. -/
def add (w : Words) (s : List Char) (active : Bool) : Words :=
  { w with
    current := some (s.foldl (fun letters c => (c, active) :: letters) (w.current.getD []))
    behindBlank := false }

/-- Adds a character that may be a separator. -/
def addExpanded (separators : List Char) (w : Words) (c : Char) : Words :=
  if !separators.contains c then w.add [c] true
  else if c = ' ' || c = '\t' || c = '\n' then
    { w.finish with behindBlank := w.behindBlank || w.current.isSome }
  else if w.current.isNone && w.behindBlank then { w with behindBlank := false }
  else { { w with current := some (w.current.getD []) }.finish with behindBlank := false }

/-- Adds a span. -/
def addSpan (separators : List Char) (w : Words) : Span → Words
  | .text s .expanded => s.foldl (addExpanded separators) w
  | .text s .written => if s.isEmpty then w else w.add s true
  | .text s .quoted => w.add s false
  | .separate => { w.finish with behindBlank := false }

end Words

/-- The words of spans. -/
def words (separators : List Char) (spans : List Span) : List (List Letter) :=
  (spans.foldl (Words.addSpan separators) {}).finish.complete.reverse

end Span

end RecipeRunner.Shell

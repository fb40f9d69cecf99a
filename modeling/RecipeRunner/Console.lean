import RecipeRunner.Style
/-!
# Console output

The lines in which a run reports: the output of operations, the progress of loops, failures and
traces.  Every function gives the text that is written, and none at all where the settings
suppress it.
-/

namespace RecipeRunner

/-- What a run writes to its two streams. -/
structure Streams where
  out : String := ""
  err : String := ""
  deriving DecidableEq, Repr, Inhabited

namespace Streams

instance : Append Streams := ⟨fun a b => ⟨a.out ++ b.out, a.err ++ b.err⟩⟩

end Streams

/-- How a run reports. -/
structure Console where
  /-- Whether the marks of a colour terminal are used. -/
  color : Bool := false
  /-- Whether styles are written as escape sequences. -/
  escapes : Bool := true
  /-- Whether the progress of loops is drawn. -/
  progress : Bool := true
  /-- Whether the output of operations is suppressed. -/
  quiet : Bool := false
  /-- Whether commands are shown before they run. -/
  debug : Bool := false
  deriving DecidableEq, Repr, Inhabited

namespace Console

/-- A text in a style, if styles are written. -/
def paint (c : Console) (style : Style) (text : String) : String :=
  if c.color && c.escapes then style.paint text else text

/-- What starts a line that overwrites the one before it. -/
def overwrite : String := "\r\x1b[2K"

/-- The output of an operation.  When condensed only its last line is shown, in place of the
line before it. -/
def emit (c : Console) (condensed : Bool) (text : String) : Streams :=
  if c.quiet then {}
  else if condensed then { out := overwrite ++ ((Text.linesOf text).getLast?).getD "" }
  else { out := text ++ "\n" }

/-- The end of condensed output. -/
def endCondensed (c : Console) : Streams :=
  if c.quiet then {} else { out := "\n" }

/-- The number of characters of a full progress bar. -/
def barWidth : Nat := 30

/-- The progress of a loop: a bar, and a line end behind the last one. -/
def progressBar (c : Console) (done total : Nat) : Streams :=
  if !c.progress || total = 0 then {}
  else
    let filled := min done total * barWidth / total
    let bar := "".pushn '#' filled |>.pushn '-' (barWidth - filled)
    { err := "\r[" ++ c.paint .cyan bar ++ "] " ++ toString done ++ "/" ++ toString total ++
        (if total ≤ done then "\n" else "") }

/-- The report of a failed operation. -/
def failure (c : Console) (label message : String) : Streams :=
  let mark := if c.color then "✗" else "x"
  { err := c.paint .boldRed mark ++ " " ++ c.paint .bold label ++ ": " ++
      c.paint .red message ++ "\n" }

/-- The trace of a command before it runs. -/
def trace (c : Console) (label command : String) : Streams :=
  if c.debug then
    { err := c.paint .dim ("[debug] " ++ label ++ ": " ++ command) ++ "\n" }
  else {}

end Console

end RecipeRunner

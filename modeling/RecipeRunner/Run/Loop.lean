import RecipeRunner.Decimal.Reading
import RecipeRunner.Run.Basic
/-!
# Loops

How a loop repeats its body.  A loop is on the stack of loops, and its variables are bound, from
before its first pass until it ends, in whatever way it ends; then everything is put back as it
was before the loop.
-/

namespace RecipeRunner.Run

/-- The variable that counts the passes of a loop, from one. -/
def passName : String := "iteration"

/-- Runs a strand as a loop: its key is on the stack of loops, and afterwards its variables have
the values from before. -/
def inLoop {α : Type} (kind : String) (depth : Nat) (names : List String) (body : Strand α) :
    Strand α := do
  let key ← Strand.update (·.pushLoop kind depth) fun s => pure s.nextKey
  let values ← Strand.update id fun s => pure (s.saved names)
  body.always do
    Strand.modify (·.restoreVars values)
    Strand.modify (·.popLoop key)

/-- Runs a strand with its output condensed, if it is to be. -/
def condensed {α : Type} (r : Run) (on : Bool) (body : Strand α) : Strand α :=
  if on then do
    let before ← Strand.update (·.setProgress true) fun s => pure s.progress
    body.always do
      Strand.modify (·.setProgress before)
      if before then pure () else Strand.write r.console.endCondensed
  else body

/-- Makes passes, each with its number, until one of them signals. -/
def passes (pass : Nat → Strand Signal) : (left number : Nat) → Strand Signal
  | 0, _ => pure .next
  | left + 1, number => do
    match ← pass number with
    | .next => passes pass left (number + 1)
    | signal => pure signal

/-- Makes a pass for each item, with the number of the pass, until one of them signals. -/
def passesOver (pass : String → Nat → Strand Signal) : List String → (number : Nat) →
    Strand Signal
  | [], _ => pure .next
  | item :: rest, number => do
    match ← pass item number with
    | .next => passesOver pass rest (number + 1)
    | signal => pure signal

/-- Makes passes as long as a condition holds and none of them signals.  If it still holds
when no pass is left, `otherwise` follows. -/
def passesWhile (condition : Strand Bool) (otherwise : Strand Signal)
    (pass : Nat → Strand Signal) : (left number : Nat) → Strand Signal
  | 0, _ => do
    if ← condition then otherwise else pure .next
  | left + 1, number => do
    if ← condition then
      match ← pass number with
      | .next => passesWhile condition otherwise pass left (number + 1)
      | signal => pure signal
    else pure .next

/-- The number of passes that a text asks for; none if it is below zero. -/
def passCount (text : String) : Except Error Nat :=
  match Decimal.readBounded? text.toList with
  | some n => .ok n.toNat
  | none => .error (.templateExecution (.countNotInteger text))

/-- One pass: its number, then the body. -/
def numbered (body : Strand Signal) (number : Nat) : Strand Signal := do
  setVar passName (.int number)
  body

/-- Repeats the body of a loop. -/
def repeated (r : Run) (flow : ControlFlow) (depth : Nat) (body : Strand Signal) :
    Strand Signal :=
  match flow with
  | .counted times name _ bar => do
    let count ← Strand.ofExcept (passCount (Text.trimmed (← render times)))
    inLoop "for" depth [name, passName] (passes (fun number => do
      setVar name (.int (number - 1 : Nat))
      let signal ← numbered body number
      if bar then Strand.write (r.console.progressBar number count)
      pure signal) count 1)
  | .each collection name _ => do
    let items := Text.itemsOf (← render collection)
    inLoop "foreach" depth [name, passName] (passesOver (fun item number => do
      setVar name (.str item)
      numbered body number) items 1)
  | .whileHolds condition _ =>
    let (left, otherwise) :=
      if r.maxRepeats = 0 then (r.patience, Strand.endless)
      else (r.maxRepeats, Strand.fail (.loopLimit r.maxRepeats))
    inLoop "while" depth [passName] (passesWhile (holds condition) otherwise (numbered body) left 1)

/-- Runs an operation that is a loop.  The signal that ends the recipe is passed on; otherwise
the loop counts as successful and raises its own signal. -/
def loop (r : Run) (flow : ControlFlow) (op : Operation) (id : String) (depth : Nat)
    (body : Strand Signal) : Strand Signal :=
  r.condensed flow.progress do
    match ← r.repeated flow depth body with
    | .exit => pure .exit
    | _ => do
      setResult id true
      pure (.ofOperation op)

end RecipeRunner.Run

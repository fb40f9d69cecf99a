import RecipeRunner.Recipe.Expansion
import RecipeRunner.Run.Loop
/-!
# Operations

How an operation is run: its id, its condition and its prompts come first, then it is a loop, a
copy of an outcome, or a command; the outcome is published, and a handler follows it.  Operations
are nested by loops and handlers; the room for further levels bounds the nesting.
-/

namespace RecipeRunner

/-- The output of a command, or why there is none.  Of an attached command it matters only whether
it could be started and waited for.  One that is lost is no failure of the command but an error of
the system, while a captured one that is lost counts as not started. -/
def Execution.output (call : Call) (format : OutputFormat) (e : Execution) :
    Except Error String :=
  match e.ending with
  | .notStarted reason => .error (.commandFailed call.command e.ending.status reason)
  | .lost reason =>
    if call.attached then .error (.system reason)
    else .error (.commandFailed call.command e.ending.status reason)
  | ending =>
    if call.attached then .ok ""
    else if ending.isSuccess then .ok (format.apply e.out)
    else .error (.commandFailed call.command ending.status e.err)

/-- What is no failure of a command is an error of the system. -/
theorem Execution.eq_system_of_output {call : Call} {format : OutputFormat} {execution : Execution}
    {e : Error} (h : execution.output call format = .error e) (he : e.isCommandFailure = false) :
    ∃ reason, e = .system reason := by
  unfold output at h
  split at h
  · cases h
    cases he
  · split at h
    · cases h
      exact ⟨_, rfl⟩
    · cases h
      cases he
  · split at h
    · cases h
    · split at h
      · cases h
      · cases h
        cases he

namespace Run

/-- The text that becomes the output of an operation. -/
def transformed (op : Operation) (raw : String) : Strand String :=
  if op.transform.isEmpty then pure raw
  else do
    let s ← Strand.drawn
    let bindings := s.bindings.overlay [("output", .str (Text.trimmed raw))]
    Strand.ofExcept (Template.render bindings op.transform)

/-- Goes on with the operation that a handler refers to. -/
def follow (r : Run) (execute : Operation → Strand Signal) (handler : String) :
    Strand Signal :=
  match r.handlers.get? handler with
  | some target => execute target
  | none => Strand.fail (.unknownHandler handler)

/-- Follows a handler, if there is one.  The stronger one of its signal and the own one of the
operation counts. -/
def handled (r : Run) (execute : Operation → Strand Signal) (op : Operation)
    (handler : String) : Strand Signal :=
  if handler.isEmpty then pure (.ofOperation op)
  else do
    let signal ← r.follow execute handler
    pure (signal.combine (.ofOperation op))

/-- Publishes the output of a command that was successful and writes it, unless the operation is
silent. -/
def publishOutput (r : Run) (op : Operation) (id raw : String) : Strand Unit := do
  let output := Text.trimmed (← transformed op raw)
  if !id.isEmpty then
    Strand.modify (·.setOutput id output)
    Strand.modify (·.setResult id true)
  if !op.isSilent && !output.isEmpty && !op.mode.isAttached then r.emit output

/-- Goes on behind a command that was successful. -/
def succeeded (r : Run) (execute : Operation → Strand Signal) (op : Operation) (id raw : String) :
    Strand Signal := do
  r.publishOutput op id raw
  r.handled execute op op.onSuccess

/-- Goes on behind a command that failed.  Without a handler the operator is asked. -/
def failed (r : Run) (execute : Operation → Strand Signal) (op : Operation) (id : String)
    (failure : Error) : Strand Signal := do
  setResult id false
  setVar "error" (.str failure.failureMessage)
  if !op.onFailure.isEmpty then r.handled execute op op.onFailure
  else
    Strand.write (r.console.failure op.label failure.failureMessage)
    if ← goesOn op.label failure.failureMessage then pure (.ofOperation op)
    else Strand.fail .userAborted

/-- Copies the outcome of another operation.  Where there is none no handler follows. -/
def copyOutcome (r : Run) (execute : Operation → Strand Signal) (op : Operation)
    (source id : String) : Strand Signal := do
  let change := fun s : Store => if id.isEmpty then s else s.copyOutcome source id
  let outcome ← Strand.update change fun s => pure (s.results.get? source)
  match outcome with
  | some true => r.handled execute op op.onSuccess
  | some false => r.handled execute op op.onFailure
  | none => pure (.ofOperation op)

/-- Starts a command in the background. -/
def startUnit (op : Operation) (id command : String) (room : Nat) : Strand Signal :=
  if id.isEmpty then Strand.fail (.missingIdentifier op.label)
  else do
    let run ← Strand.update (·.recordLaunch id command) fun s => pure s.nextKey
    Strand.modify (·.publishPending id)
    Strand.modify Store.beginUnit
    Strand.launch ⟨op, id, command, run, room⟩ (pure (.ofOperation op))

/-- Runs the command of an operation.  What is no failure of the command ends the operation. -/
def command (r : Run) (execute : Operation → Strand Signal) (op : Operation) (id : String)
    (room : Nat) : Strand Signal := do
  let command ← render op.command
  Strand.write (r.console.trace op.label command)
  if op.mode = .background then startUnit op id command room
  else
    let call : Call := ⟨command, r.input, op.mode.isAttached⟩
    let execution ← Strand.command call pure
    match execution.output call op.format with
    | .ok raw => r.succeeded execute op id raw
    | .error failure =>
      if failure.isCommandFailure then r.failed execute op id failure else Strand.fail failure

/-- Runs what an operation is for, where `execute` runs operations one level further in. -/
def perform (r : Run) (execute : Operation → Strand Signal)
    (executeAll : List Operation → Strand Signal) (op : Operation) (id : String) (room : Nat) :
    Strand Signal :=
  match op.controlFlow, op.copyFrom with
  | some flow, _ => r.loop flow op id (r.maxDepth - room) (executeAll op.operations)
  | none, some source => r.copyOutcome execute op source id
  | none, none =>
    if Text.isAllBlank op.command then do
      setResult id true
      pure (.ofOperation op)
    else r.command execute op id room

/-- The id of an operation in the present store. -/
def idOf (op : Operation) : Strand String :=
  if Template.hasTemplate op.id then Text.trimmed <$> render op.id else pure op.id

/-- Runs operations in order, up to the first one that signals. -/
def inOrder (execute : Operation → Strand Signal) : List Operation → Strand Signal
  | [] => pure .next
  | op :: rest => do
    match ← execute op with
    | .next => inOrder execute rest
    | signal => pure signal

/-- Runs an operation inside which `room - 1` levels may be nested. -/
def execute (r : Run) : (room : Nat) → Operation → Strand Signal
  | 0, _ => Strand.fail (.recursionLimit r.maxDepth)
  | room + 1, op => Strand.noted op room do
    let id ← idOf op
    if ← holds op.condition then
      if ← askAll op.prompts then pure (some .exit)
      else some <$> r.perform (r.execute room) (inOrder (r.execute room)) op id room
    else pure none

/-- What a background unit publishes, and whether its command was successful: nothing if the
launch was superseded. -/
def publish (r : Run) (unit : Launch) (outcome : Except Error String) : Strand (Option Bool) := do
  let told := match outcome with
    | .ok output => .ok (Text.trimmed output)
    | .error failure => .error failure.failureMessage
  let accepted ← Strand.update (·.recordOutcome unit.id unit.run told) fun s =>
    pure (s.tasks.accepts unit.id unit.run)
  if accepted then
    Strand.modify (·.publishOutcome unit.id told)
    match told with
    | .ok output => do
      if !unit.operation.isSilent && !output.isEmpty then r.emit output
      pure (some true)
    | .error _ => pure (some false)
  else pure none

/-- The strand of a background unit.  Whatever its handler comes to has no effect on the
recipe. -/
def unitStrand (r : Run) (unit : Launch) : Strand Unit :=
  let op := unit.operation
  let call : Call := ⟨unit.command, r.input, false⟩
  let body : Strand Unit := do
    let execution ← Strand.command call pure
    let outcome := Strand.ofExcept (execution.output call op.format) >>= transformed op
    let published ← outcome.continueWith (r.publish unit)
    match published with
    | none => pure ()
    | some success => do
      let handler := if success then op.onSuccess else op.onFailure
      if handler.isEmpty then pure ()
      else discard (r.follow (r.execute unit.room) handler)
  body.always (Strand.modify Store.endUnit)

/-- Runs the operations of a recipe in order and gives whether one of them ended it. -/
def recipeStrand (r : Run) : List Operation → Strand Bool
  | [] => pure false
  | op :: rest => do
    match ← r.execute (r.maxDepth + 1) op with
    | .exit => pure true
    | _ => r.recipeStrand rest

/-- The main strand: the recipe, then the wait for the background units. -/
def mainStrand (r : Run) (ops : List Operation) : Strand Bool :=
  (r.recipeStrand ops).always (Strand.await (pure ()))

end Run

end RecipeRunner

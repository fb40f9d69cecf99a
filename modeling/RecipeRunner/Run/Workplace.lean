import RecipeRunner.Prompt.Dialogue
import RecipeRunner.Prompt.Replies
import RecipeRunner.Run.Schedule
import RecipeRunner.Shell.Invocation
/-!
# Workplaces

The surroundings that a run has in practice: commands are run by a shell, and prompts are
answered by an operator at the standard input or by replies given in advance.
-/

namespace RecipeRunner

/-- Who answers prompts. -/
inductive Operator where
  /-- Replies given in advance, and whether to go on behind failures. -/
  | prepared (replies : Replies) (goesOn : Bool)
  /-- Someone at the standard input. -/
  | present

/-- Where commands are run. -/
structure Workplace where
  shell : String
  workdir : String
  environment : List (String × String) := []

/-- What changes at a workplace: the operator, the standard input, and the files that commands
have to do with. -/
structure Workplace.State where
  operator : Operator
  input : Input := {}
  files : Files := {}

namespace Workplace

/-- The nanoseconds that a command takes that does not sleep. -/
def commandDuration : Nat := 1000000

/-- Runs a command.  An attached one reads what the program has not read, and what it writes is
written by the program. -/
def command (w : Workplace) (call : Call) (s : State) : Response Execution × State :=
  let c := Shell.Invocation.run {
    shell := w.shell
    script := call.command
    workdir := w.workdir
    environment := w.environment
    input := if call.attached then s.input.waiting else Text.Utf8.encode call.input
    attached := call.attached
    files := s.files }
  let out := Text.Utf8.decode c.out
  let err := Text.Utf8.decode c.err
  let duration := commandDuration + c.duration
  if call.attached then
    (⟨{ ending := c.ending }, ⟨out, err⟩, duration⟩,
      { s with input := { s.input with waiting := c.input }, files := c.files })
  else (⟨{ ending := c.ending, out := out, err := err }, {}, duration⟩, { s with files := c.files })

/-- What an exchange with someone at the standard input comes to. -/
def settle {α : Type} (s : State) (e : Exchange α) : Response (Except Error α) × State :=
  (⟨e.outcome.mapError .prompt, { err := e.written }, 0⟩, { s with input := e.input })

/-- Asks a prompt. -/
def ask (spec : PromptSpec) (s : State) : Response (Except Error Answer) × State :=
  match s.operator with
  | .prepared replies goesOn =>
    let (answer, replies) := replies.ask spec
    (⟨answer.mapError .prompt, {}, 0⟩, { s with operator := .prepared replies goesOn })
  | .present => settle s (Dialogue.ask spec s.input)

/-- Asks whether to go on behind a failure. -/
def confirm (label failure : String) (s : State) : Response (Except Error Bool) × State :=
  match s.operator with
  | .prepared _ goesOn => (⟨.ok goesOn, {}, 0⟩, s)
  | .present => settle s (Dialogue.confirm label failure s.input)

/-- A workplace as surroundings of strands. -/
def surroundings (w : Workplace) : Surroundings State where
  command := w.command
  ask := ask
  confirm := confirm

end Workplace

end RecipeRunner

import RecipeRunner.Prompt.Answer
import RecipeRunner.Text.Utf8
/-!
# Dialogues

Prompting line by line.  A prompt is repeated until a line is an answer; lines behind that one
are left for the prompts that follow.
-/

namespace RecipeRunner

/-- What is typed in, in two parts: bytes that were read ahead and bytes that wait to be read. -/
structure Input where
  held : List UInt8 := []
  waiting : List UInt8 := []
  deriving Repr

namespace Input

/-- The input that is a text. -/
def ofText (s : String) : Input where
  waiting := Text.Utf8.encode s

/-- The number of bytes read ahead at most. -/
def blockSize : Nat := 8192

/-- The number of bytes that were not used. -/
def size (i : Input) : Nat :=
  i.held.length + i.waiting.length

/-- Takes a line with its end off bytes, if they have one. -/
def cutLine? (bytes : List UInt8) : Option (List UInt8 × List UInt8) :=
  match bytes.dropWhile (· != 10) with
  | [] => none
  | newline :: rest => some (bytes.takeWhile (· != 10) ++ [newline], rest)

/-- Reads a line with its end, or what is left of the last one; nothing at the end of the
input.  Each of the `blocks` reads ahead gets a whole block. -/
def readLineWithin : (blocks : Nat) → Input → Option (List UInt8 × Input)
  | 0, i => if i.held.isEmpty then none else some (i.held, { i with held := [] })
  | blocks + 1, i =>
    match cutLine? i.held with
    | some (line, rest) => some (line, { i with held := rest })
    | none =>
      if i.waiting.isEmpty then readLineWithin 0 i
      else
        readLineWithin blocks
          ⟨i.held ++ i.waiting.take blockSize, i.waiting.drop blockSize⟩

/-- Reads a line; nothing at the end of the input. -/
def readLine? (i : Input) : Option (String × Input) :=
  (readLineWithin (i.waiting.length / blockSize + 2) i).map fun (line, rest) =>
    (Text.Utf8.decode line, rest)

end Input

/-- What a dialogue comes to. -/
structure Exchange (α : Type) where
  /-- What was written for the operator. -/
  written : String
  outcome : Except PromptFault α
  input : Input

namespace Dialogue

/-- What a prompt shows above its line: its options under its message. -/
def heading (spec : PromptSpec) : String :=
  if spec.options.isEmpty then ""
  else
    let numbered := spec.options.zipIdx.map fun (option, i) =>
      "  " ++ toString (i + 1) ++ ") " ++ option ++ "\n"
    label spec ++ "\n" ++ String.join numbered
where
  /-- The message of a prompt, or its key. -/
  label (spec : PromptSpec) : String :=
    if spec.message.isEmpty then spec.key else spec.message

/-- What ends the line of a prompt. -/
def ending (spec : PromptSpec) : String :=
  match spec.kind, spec.fallback with
  | .confirm, _ => "[y/N]: "
  | _, some v => "[" ++ v.render ++ "]: "
  | _, none => ": "

/-- The line of a prompt. -/
def line (spec : PromptSpec) : String :=
  if spec.options.isEmpty then
    let gap := if spec.kind = .confirm || spec.fallback.isSome then " " else ""
    heading.label spec ++ gap ++ ending spec
  else "> " ++ ending spec

/-- Repeats the line of a prompt until a reply is an answer, at most `fuel` times. -/
def repeatLine (spec : PromptSpec) : (fuel : Nat) → Input → Exchange Answer
  | 0, input => ⟨"", .error .inputClosed, input⟩
  | fuel + 1, input =>
    match input.readLine? with
    | none => ⟨line spec, .error .inputClosed, input⟩
    | some (reply, input) =>
      match Answer.ofReply spec reply with
      | .ok answer => ⟨line spec, .ok answer, input⟩
      | .error fault =>
        let further := repeatLine spec fuel input
        { further with written := line spec ++ fault.message ++ "\n" ++ further.written }

/-- Asks a prompt.  Every reply takes a byte at least. -/
def ask (spec : PromptSpec) (input : Input) : Exchange Answer :=
  let replies := repeatLine spec (input.size + 1) input
  { replies with written := heading spec ++ replies.written }

/-- The question whether to go on behind a failure. -/
def question : String := "Continue with the recipe? [y/N]: "

/-- Asks whether to go on behind a failure. -/
def confirm (label failure : String) (input : Input) : Exchange Bool :=
  let written := "Operation '" ++ label ++ "' failed: " ++ failure ++ "\n" ++ question
  match input.readLine? with
  | none => ⟨written, .error .inputClosed, input⟩
  | some (reply, input) =>
    let reply := Text.lowerCase (Text.trimmed reply)
    ⟨written, .ok (reply = "y" || reply = "yes"), input⟩

end Dialogue

end RecipeRunner

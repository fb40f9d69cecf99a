import RecipeRunner.Error
import RecipeRunner.Recipe.Basic
/-!
# Answers to prompts

How a reply is understood.  A reply is trimmed; an empty one takes the fallback of the prompt.
-/

namespace RecipeRunner

/-- What a prompt comes to. -/
inductive Answer where
  | value (v : Value)
  /-- The operator chose to stop the recipe. -/
  | exit
  deriving BEq, Repr

namespace Answer

/-- The answer that is a text. -/
def text (s : String) : Answer := value (.str s)

/-- The reply to a prompt with options that stops the recipe. -/
def exitWord : String := "exit"

/-- Whether a lower-case reply agrees to something. -/
def isYes (reply : String) : Bool :=
  reply = "y" || reply = "yes" || reply = "true" || reply = "1"

/-- The option that a reply names, by its number or by its text; where there are no options a
reply stands for itself. -/
def pick (options : List String) (reply : String) : Except PromptFault String :=
  let numbered := match Decimal.readCount? reply.toList with
    | some (n + 1) => options[n]?
    | _ => none
  if options.isEmpty then .ok reply
  else
    match numbered.or (options.find? (Text.equalIgnoringCase reply)) with
    | some choice => .ok choice
    | none => .error (.notAnOption reply)

/-- The fallback of a prompt with options: its own one, or the first option. -/
def firstChoice (spec : PromptSpec) : String :=
  match spec.fallback with
  | some v => v.render
  | none => spec.options.headD ""

/-- The answer to a prompt that a reply gives. -/
def ofReply (spec : PromptSpec) (reply : String) : Except PromptFault Answer :=
  let reply := Text.trimmed reply
  match spec.kind with
  | .confirm =>
    .ok (.value (.bool (if reply.isEmpty then spec.fallback.any Value.isTruthy
      else isYes (Text.lowerCase reply))))
  | .number =>
    if reply.isEmpty then .ok (.value (.int ((spec.fallback.bind Value.toInt?).getD 0)))
    else
      match Decimal.readBounded? reply.toList with
      | some n => .ok (.value (.int n))
      | none => .error (.notNumber reply)
  | .select | .autocomplete =>
    if Text.equalIgnoringCase exitWord reply then .ok .exit
    else if reply.isEmpty then .ok (.text (firstChoice spec))
    else (pick spec.options reply).map .text
  | .multiselect =>
    if reply.isEmpty then .ok (.value (.list (spec.fallback.elim [] Value.toItems)))
    else
      let choices := ((Text.piecesOf "," reply).map Text.trimmed).filter fun s => !s.isEmpty
      (choices.mapM (pick spec.options)).map fun picked => .value (.list picked)
  | .input | .text | .password =>
    .ok (.text (if reply.isEmpty then spec.fallback.elim "" Value.render else reply))

end Answer

end RecipeRunner

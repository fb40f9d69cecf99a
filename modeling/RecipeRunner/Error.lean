import RecipeRunner.Text.Basic
/-!
# Errors

Why a recipe cannot be read or run.  Each error is its cause with the data that the message
needs; the wording is in one function per kind of cause.
-/

namespace RecipeRunner

open Text (quoted quotedChar)

/-- Why a template is not well formed. -/
inductive SyntaxFault where
  | unclosedAction (byte : Nat)
  | unclosedComment
  | missingValue
  | unterminatedString
  | unterminatedRawString
  | bareSigil
  | badNumber (text : String)
  | unexpectedChar (c : Char)
  | missingCommandBefore
  | missingCommandAfter
  | unexpectedClose
  | unclosedOpen
  | emptyCommand
  | tokensAfter (keyword : String)
  | strayEnd
  | strayElse
  | missingEnd
  | unclosedIf
  | unclosedRange
  | elseIfInRange
  | other (text : String)
  deriving DecidableEq, Repr

/-- A keyword as it stands between the delimiters of an action. -/
private def braced (keyword : String) : String :=
  "\x7b\x7b" ++ keyword ++ "\x7d\x7d"

/-- The wording of a syntax fault. -/
def SyntaxFault.message : SyntaxFault → String
  | unclosedAction byte => "unclosed action starting at byte " ++ toString byte
  | unclosedComment => "unclosed comment"
  | missingValue => "missing value for command"
  | unterminatedString => "unterminated quoted string"
  | unterminatedRawString => "unterminated raw string"
  | bareSigil => "bare '$' is not supported"
  | badNumber text => "bad number syntax: " ++ text
  | unexpectedChar c => "unexpected character " ++ quotedChar c ++ " in action"
  | missingCommandBefore => "missing command before '|'"
  | missingCommandAfter => "missing command after '|'"
  | unexpectedClose => "unexpected ')'"
  | unclosedOpen => "unclosed '('"
  | emptyCommand => "empty command"
  | tokensAfter keyword => "unexpected tokens after " ++ keyword
  | strayEnd => "unexpected " ++ braced "end"
  | strayElse => "unexpected " ++ braced "else"
  | missingEnd => "expected " ++ braced "end" ++ " after " ++ braced "else"
  | unclosedIf => "unclosed " ++ braced "if"
  | unclosedRange => "unclosed " ++ braced "range"
  | elseIfInRange => braced "else if" ++ " inside " ++ braced "range"
  | other text => text

/-- Why a function of the template language has no value for its arguments. -/
inductive FunctionFault where
  | undefined (name : String)
  | arity (name : String) (expected got : Nat)
  | atLeastTwo (name : String) (got : Nat)
  | oneOrTwo (name : String) (got : Nat)
  | twoOrThree (got : Nat)
  | notNumber (name text : String)
  | notInteger (name text : String)
  | fieldNotInteger (text : String)
  | fieldBelowOne
  | invalidPattern (reason : String)
  | missingFormat
  | missingArgument (verb : Char)
  | divisionByZero
  | negativeRoot
  | nonPositiveLogarithm
  | placesAboveFifteen
  | placesAboveTen
  | emptyRange (least greatest : Int)
  deriving DecidableEq, Repr

/-- The wording of a function fault. -/
def FunctionFault.message : FunctionFault → String
  | undefined name => "function " ++ quoted name ++ " not defined"
  | arity name expected got =>
    name ++ " expects " ++ toString expected ++ " argument" ++
      (if expected = 1 then "" else "s") ++ ", got " ++ toString got
  | atLeastTwo name got => name ++ " expects at least 2 arguments, got " ++ toString got
  | oneOrTwo name got => name ++ " expects 1 or 2 arguments, got " ++ toString got
  | twoOrThree got => "expected 2 or 3 arguments, got " ++ toString got
  | notNumber name text => name ++ " expects a number, got " ++ quoted text
  | notInteger name text => name ++ " expects an integer, got " ++ quoted text
  | fieldNotInteger text => "field must be an integer, got " ++ quoted text
  | fieldBelowOne => "field numbers start at 1"
  | invalidPattern reason => "invalid pattern: " ++ reason
  | missingFormat => "printf needs a format string"
  | missingArgument verb => "missing argument for %" ++ String.singleton verb
  | divisionByZero => "division by zero"
  | negativeRoot => "square root of a negative number"
  | nonPositiveLogarithm => "logarithm of a non-positive number"
  | placesAboveFifteen => "places must be between 0 and 15"
  | placesAboveTen => "places must be an integer between 0 and 10"
  | emptyRange least greatest =>
    "min " ++ toString least ++ " is greater than max " ++ toString greatest

/-- Why a well-formed template, or a loop count that a template gave, has no value. -/
inductive ExecutionFault where
  | call (name : String) (fault : FunctionFault)
  /-- An argument for something that is no function; `shown` is that thing. -/
  | argumentToNonFunction (shown : String)
  | countNotInteger (text : String)
  /-- A loop count that is neither a number nor a text; `shown` is what it is. -/
  | countNotScalar (shown : String)
  | other (text : String)
  deriving DecidableEq, Repr

/-- The wording of an execution fault. -/
def ExecutionFault.message : ExecutionFault → String
  | call name fault => name ++ ": " ++ fault.message
  | argumentToNonFunction shown => "can't give argument to non-function " ++ shown
  | countNotInteger text => "for loop count " ++ quoted text ++ " is not an integer"
  | countNotScalar shown => "for loop count must be a number or template, got " ++ shown
  | other text => text

/-- Why a condition has no truth value. -/
inductive ConditionFault where
  | unrecognised (text : String)
  | unbalanced (text : String)
  | notNumeric (text operand : String)
  deriving DecidableEq, Repr

/-- The wording of a condition fault. -/
def ConditionFault.message : ConditionFault → String
  | unrecognised text => text
  | unbalanced text => text ++ ": unbalanced parentheses"
  | notNumeric text operand => text ++ ": " ++ quoted operand ++ " is not a number"

/-- Why a prompt has no answer. -/
inductive PromptFault where
  | notNumber (reply : String)
  | notAnOption (reply : String)
  | inputClosed
  | other (text : String)
  deriving DecidableEq, Repr

/-- The wording of a prompt fault. -/
def PromptFault.message : PromptFault → String
  | notNumber reply => quoted reply ++ " is not a number"
  | notAnOption reply => quoted reply ++ " is not one of the options"
  | inputClosed => "stdin closed"
  | other text => text

/-- Why a recipe cannot be read or run. -/
inductive Error where
  | templateSyntax (fault : SyntaxFault)
  | templateExecution (fault : ExecutionFault)
  | unsupportedCondition (fault : ConditionFault)
  | componentNotFound (id : String)
  | missingIdentifier (label : String)
  | commandFailed (command status stderr : String)
  | recursionLimit (limit : Nat)
  | unknownControlFlow (kind : String)
  | unknownHandler (id : String)
  | loopLimit (limit : Nat)
  | userAborted
  | prompt (fault : PromptFault)
  /-- A file that cannot be read as what it should be. -/
  | load (path reason : String)
  /-- A document that does not fit the model of recipes. -/
  | document (reason : String)
  | config (reason : String)
  | system (reason : String)
  deriving DecidableEq, Repr

namespace Error

/-- The wording of an error. -/
def message : Error → String
  | templateSyntax fault => "Template syntax error: " ++ fault.message
  | templateExecution fault => "Template execution error: " ++ fault.message
  | unsupportedCondition fault => "Unsupported condition: " ++ fault.message
  | componentNotFound id => "Component not found: " ++ id
  | missingIdentifier label => "Operation '" ++ label ++ "' runs in background mode but has no id"
  | commandFailed command status stderr =>
    "Command failed (" ++ status ++ "): " ++ command ++ "\n" ++ stderr
  | recursionLimit limit => "Maximum recursion depth (" ++ toString limit ++ ") exceeded"
  | unknownControlFlow kind => "Unknown control flow type: " ++ kind
  | unknownHandler id => "Handler '" ++ id ++ "' does not match any operation"
  | loopLimit limit => "Loop exceeded " ++ toString limit ++ " iterations"
  | userAborted => "Recipe aborted by user"
  | prompt fault => "Prompt failed: " ++ fault.message
  | load path reason => "Failed to load " ++ path ++ ": " ++ reason
  | document reason => "Invalid recipe: " ++ reason
  | config reason => "Configuration error: " ++ reason
  | system reason => reason

/-- What a failed operation leaves in the variable `error`: of a command what it wrote to its
error stream, or its status when it wrote nothing. -/
def failureMessage : Error → String
  | commandFailed _ status stderr =>
    let written := Text.trimmed stderr
    if written.isEmpty then status else written
  | error => error.message

/-- Whether a command has failed. -/
def isCommandFailure : Error → Bool
  | commandFailed .. => true
  | _ => false

/-- Whether the operator chose to stop. -/
def isUserAbort : Error → Bool
  | userAborted => true
  | _ => false

/-- The exit code of a program that ends with this error. -/
def exitCode : Error → Nat
  | userAborted => 130
  | config _ | load .. | document _ | unknownControlFlow _ | componentNotFound _ => 2
  | commandFailed .. => 3
  | _ => 1

end Error

/-- What a program reports when it fails: an error, possibly below a line that says what was
being done, or a complaint that is no error of a recipe. -/
inductive Failure where
  | plain (error : Error)
  | during (activity : String) (error : Error)
  | complaint (text : String)
  deriving DecidableEq, Repr

namespace Failure

/-- The exit code of a program that ends with this failure. -/
def exitCode : Failure → Nat
  | plain error | during _ error => error.exitCode
  | complaint _ => 1

/-- The full report: the activity first, its cause below it, indented. -/
def report : Failure → String
  | plain error => error.message
  | during activity error =>
    activity ++ "\n\nCaused by:\n    " ++ Text.replaced "\n" "\n    " error.message
  | complaint text => text

end Failure

end RecipeRunner

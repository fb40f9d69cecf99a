import RecipeRunner.Main
import RecipeRunner.Redaction
import RecipeRunner.Proofs.Condition.Composition
import RecipeRunner.Proofs.Condition.Literal
import RecipeRunner.Proofs.Condition.Reading
import RecipeRunner.Proofs.Recipe.RoundTrip
import RecipeRunner.Proofs.Recipe.Unfolding
import RecipeRunner.Proofs.Run.ComponentHandlers
import RecipeRunner.Proofs.Run.Composition
import RecipeRunner.Proofs.Run.Display
import RecipeRunner.Proofs.Run.Draining
import RecipeRunner.Proofs.Run.Exit
import RecipeRunner.Proofs.Run.FailedCommands
import RecipeRunner.Proofs.Run.Failures
import RecipeRunner.Proofs.Run.HandlerChains
import RecipeRunner.Proofs.Run.History
import RecipeRunner.Proofs.Run.Launching
import RecipeRunner.Proofs.Run.LoopScope
import RecipeRunner.Proofs.Run.Nesting
import RecipeRunner.Proofs.Run.Occurrences
import RecipeRunner.Proofs.Run.Republishing
import RecipeRunner.Proofs.Run.Settling
import RecipeRunner.Proofs.Run.Skipping
import RecipeRunner.Proofs.Run.Standing
import RecipeRunner.Proofs.Run.Superseding
import RecipeRunner.Proofs.Run.Termination
import RecipeRunner.Proofs.Run.Unpublished
import RecipeRunner.Proofs.Task.History
import RecipeRunner.Proofs.Template.Trees
import RecipeRunner.Proofs.Template.Quoting
import RecipeRunner.Proofs.Condition.Comparison
import RecipeRunner.Proofs.Template.Missing
import RecipeRunner.Proofs.Decimal.Rounding
import RecipeRunner.Proofs.Decimal.Unpacked
import RecipeRunner.Proofs.Decimal.WholeFloat
import RecipeRunner.Proofs.Template.Arithmetic
import RecipeRunner.Proofs.Template.Delimiters
import RecipeRunner.Proofs.Template.Piping
import RecipeRunner.Proofs.Run.Iteration
import RecipeRunner.Proofs.Template.References
import RecipeRunner.Proofs.Run.Blame
import RecipeRunner.Proofs.Run.Repetition
import RecipeRunner.Proofs.Run.Agenda
import RecipeRunner.Proofs.Run.Break
import RecipeRunner.Proofs.Run.Handlers
import RecipeRunner.Proofs.Prompt.Answer
import RecipeRunner.Proofs.CommandLine.Variables
import RecipeRunner.Proofs.Prompt.Replies
import RecipeRunner.Proofs.Text.Lines
import RecipeRunner.Proofs.Run.LoopStack
import RecipeRunner.Proofs.Redaction
import RecipeRunner.Proofs.Condition.Splitting
import RecipeRunner.Proofs.Template.Format
import RecipeRunner.Proofs.Prompt.Dialogue

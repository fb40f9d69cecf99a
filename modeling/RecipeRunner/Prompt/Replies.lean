import RecipeRunner.Prompt.Answer
import RecipeRunner.Table
/-!
# Prepared replies

Replies given in advance, queued under the keys of prompts.  Prompts take the replies of their
key in order, and the last one stays for all further prompts.
-/

namespace RecipeRunner

/-- Replies given in advance. -/
structure Replies where
  queues : Table (List String) := .empty
  deriving Repr

namespace Replies

/-- The replies of a key that are left. -/
def queue (r : Replies) (key : String) : List String :=
  (r.queues.get? key).getD []

/-- Adds a reply behind those of its key. -/
def add (r : Replies) (key reply : String) : Replies :=
  ⟨r.queues.set key (r.queue key ++ [reply])⟩

/-- Replies with their keys, in order. -/
def ofList (replies : List (String × String)) : Replies :=
  replies.foldl (fun r (key, reply) => r.add key reply) {}

/-- What is left of a queue behind its first reply. -/
def advance : List String → List String
  | _ :: next :: rest => next :: rest
  | queue => queue

/-- The next reply of a key, empty if there is none, and the replies behind it. -/
def take (r : Replies) (key : String) : String × Replies :=
  match r.queue key with
  | [] => ("", r)
  | reply :: rest => (reply, ⟨r.queues.set key (advance (reply :: rest))⟩)

/-- Answers a prompt. -/
def ask (r : Replies) (spec : PromptSpec) : Except PromptFault Answer × Replies :=
  let (reply, r) := r.take spec.key
  (Answer.ofReply spec reply, r)

@[simp] theorem advance_nil : advance [] = [] := rfl

theorem queue_add (r : Replies) (key reply other : String) :
    (r.add key reply).queue other =
      if other = key then r.queue key ++ [reply] else r.queue other := by
  simp only [queue, add, Table.get?_set]
  split <;> rfl

end Replies

end RecipeRunner

import RecipeRunner.Prompt.Replies
/-!
# Prepared replies in turn

A prompt takes one step along the replies of its key and of no other key, whether or not the reply
is an answer to it.  So the reply of a prompt is told by the replies that were given for its key
and by how many prompts have asked for that key.

* `queue_take`: what a prompt leaves of the replies.
* `askAll_eq`: the answers to prompts in a row, from any replies.
* `askAll_ofList`: the answers to prompts in a row, from the replies that were given.
-/

namespace RecipeRunner.Replies

/-- The replies that were given for a key, in order. -/
def given (replies : List (String × String)) (key : String) : List String :=
  (replies.filter fun r => r.1 = key).map Prod.snd

/-- The reply for the prompt of a turn, counted from one: replies are taken in order, the last one
stays, and where there is none the reply is empty. -/
def due (replies : List String) (turn : Nat) : String :=
  replies.getD (min turn replies.length - 1) ""

/-- The number of prompts that ask for a key. -/
def asks (specs : List PromptSpec) (key : String) : Nat :=
  specs.countP fun spec => spec.key = key

/-- The answers to prompts, one after the other. -/
def askAll (r : Replies) : List PromptSpec → List (Except PromptFault Answer)
  | [] => []
  | spec :: rest => (r.ask spec).1 :: (r.ask spec).2.askAll rest

/-! ## Queues -/

theorem queue_ofList (replies : List (String × String)) (key : String) :
    (ofList replies).queue key = given replies key := by
  have hfold : ∀ r : Replies, (replies.foldl (fun r pair => r.add pair.1 pair.2) r).queue key =
      r.queue key ++ given replies key := by
    induction replies with
    | nil => intro r; exact (List.append_nil _).symm
    | cons first rest ih =>
      intro r
      rw [List.foldl_cons, ih, queue_add, given, given, List.filter_cons]
      by_cases hkey : first.1 = key
      · simp [hkey]
      · simp [hkey, Ne.symm hkey]
  exact hfold {}

theorem ask_eq (r : Replies) (spec : PromptSpec) :
    r.ask spec = (Answer.ofReply spec (r.take spec.key).1, (r.take spec.key).2) := by
  unfold ask
  cases r.take spec.key
  rfl

theorem take_fst (r : Replies) (key : String) : (r.take key).1 = (r.queue key).headD "" := by
  unfold take
  split
  · next hqueue => rw [hqueue]; rfl
  · next hqueue => rw [hqueue]; rfl

/-- A prompt takes its reply off the queue of its key, unless it is the last one. -/
theorem queue_take (r : Replies) (key other : String) :
    (r.take key).2.queue other =
      if key = other then advance (r.queue other) else r.queue other := by
  unfold take
  split
  · next hqueue =>
    split
    · next hkey => rw [← hkey, hqueue]; rfl
    · rfl
  · next reply rest hqueue =>
    rw [queue, Table.get?_set]
    by_cases hkey : key = other
    · rw [if_pos hkey.symm, if_pos hkey, ← hkey, hqueue]
      rfl
    · rw [if_neg (Ne.symm hkey), if_neg hkey]
      rfl

theorem due_advance (queue : List String) (turn : Nat) :
    due (advance queue) (turn + 1) = due queue (turn + 2) := by
  match queue with
  | [] => rfl
  | [last] => simp [due, advance]
  | first :: second :: rest =>
    have hturn :
        min (turn + 2) (rest.length + 2) - 1 = min (turn + 1) (rest.length + 1) - 1 + 1 := by
      omega
    simp only [due, advance, List.length_cons]
    rw [hturn, List.getD_cons_succ]

theorem due_one (queue : List String) : due queue 1 = queue.headD "" := by
  cases queue <;> simp [due]

/-! ## Prompts in a row -/

theorem asks_nil (key : String) : asks [] key = 0 := rfl

theorem asks_cons (spec : PromptSpec) (specs : List PromptSpec) (key : String) :
    asks (spec :: specs) key = asks specs key + if spec.key = key then 1 else 0 := by
  simp [asks, List.countP_cons]

/-- The reply of a prompt depends on the queue of its key and on the prompts for this key before
it. -/
theorem askAll_eq (r : Replies) (specs : List PromptSpec) :
    r.askAll specs = specs.mapIdx fun i spec =>
      Answer.ofReply spec (due (r.queue spec.key) (asks (specs.take i) spec.key + 1)) := by
  induction specs generalizing r with
  | nil => rfl
  | cons spec rest ih =>
    have hfirst : (r.ask spec).1 = Answer.ofReply spec (due (r.queue spec.key) 1) := by
      rw [ask_eq, take_fst, due_one]
    have hrest : ∀ i (later : PromptSpec),
        due ((r.ask spec).2.queue later.key) (asks (rest.take i) later.key + 1) =
          due (r.queue later.key) (asks ((spec :: rest).take (i + 1)) later.key + 1) := by
      intro i later
      have hqueue : (r.ask spec).2.queue later.key =
          if spec.key = later.key then advance (r.queue later.key) else r.queue later.key := by
        rw [ask_eq, queue_take]
      rw [hqueue, List.take_succ_cons, asks_cons]
      by_cases hkey : spec.key = later.key
      · rw [if_pos hkey, if_pos hkey, due_advance]
      · rw [if_neg hkey, if_neg hkey, Nat.add_zero]
    rw [askAll, ih, List.mapIdx_cons, hfirst]
    simp only [hrest, List.take_zero, asks_nil, Nat.zero_add]

/-- The prompts for a key get the replies that were given for it, in order and the last one again
and again, whatever else is asked and whatever the answers are; without any they get the empty
reply. -/
theorem askAll_ofList (replies : List (String × String)) (specs : List PromptSpec) :
    (ofList replies).askAll specs = specs.mapIdx fun i spec =>
      Answer.ofReply spec (due (given replies spec.key) (asks (specs.take i) spec.key + 1)) := by
  simp only [askAll_eq, queue_ofList]

end RecipeRunner.Replies

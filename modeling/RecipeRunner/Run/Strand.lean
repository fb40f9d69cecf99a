import RecipeRunner.Console
import RecipeRunner.Prompt.Answer
import RecipeRunner.Run.Signal
import RecipeRunner.Shell.Ending
import RecipeRunner.Store
/-!
# Strands of a run

A run has a main strand, which goes through the recipe, and a strand for each background unit.
A strand is a tree of what it does: each node is one step that no other strand can come between,
and the branches below a node are the ways in which the strand goes on, one for each reply.
What the replies are is left open, so the same strand can be run against a shell and an operator
or be reasoned about for every shell and every operator.
-/

namespace RecipeRunner

/-- A command that is to be run. -/
structure Call where
  command : String
  /-- What a captured command reads. -/
  input : String
  /-- Whether the command shares the streams of the program. -/
  attached : Bool
  deriving DecidableEq, Repr

/-- What has come of a command.  Of an attached one nothing is captured. -/
structure Execution where
  ending : Shell.Ending
  out : String := ""
  err : String := ""
  deriving DecidableEq, Repr

/-- A background unit that is to be started. -/
structure Launch where
  operation : Operation
  id : String
  command : String
  run : Nat
  /-- How many levels of operations may still be nested inside the operation. -/
  room : Nat

/-- What a strand tells of the operations that it runs. -/
inductive Note where
  /-- An operation starts, inside which `room` levels may still be nested. -/
  | started (op : Operation) (room : Nat)
  /-- The condition of an operation does not hold. -/
  | skipped (op : Operation)
  | returned (op : Operation) (result : Except Error Signal)

/-- What a strand does, and how it goes on. -/
inductive Strand (α : Type) where
  /-- The strand has come to its end. -/
  | done (result : Except Error α)
  /-- The strand repeats a loop without end. -/
  | endless
  /-- Changes the store; the strand goes on with the store from before the change. -/
  | update (change : Store → Store) (next : Store → Strand α)
  | command (call : Call) (next : Execution → Strand α)
  | ask (spec : PromptSpec) (next : Except Error Answer → Strand α)
  /-- Asks whether to go on behind a failure. -/
  | confirm (label failure : String) (next : Except Error Bool → Strand α)
  | report (text : Streams) (next : Strand α)
  | launch (unit : Launch) (next : Strand α)
  /-- Tells how far operations have come, which changes nothing. -/
  | note (told : Note) (next : Strand α)
  /-- Waits until no background unit is in flight. -/
  | await (next : Strand α)

namespace Strand

variable {α β : Type}

instance : Inhabited (Strand α) := ⟨endless⟩

/-- Goes on behind the end of a strand, whether it ended well or not. -/
def continueWith (s : Strand α) (k : Except Error α → Strand β) : Strand β :=
  match s with
  | done result => k result
  | endless => endless
  | update change next => update change fun store => (next store).continueWith k
  | command call next => command call fun execution => (next execution).continueWith k
  | ask spec next => ask spec fun answer => (next answer).continueWith k
  | confirm label failure next => confirm label failure fun reply => (next reply).continueWith k
  | report text next => report text (next.continueWith k)
  | launch unit next => launch unit (next.continueWith k)
  | note told next => note told (next.continueWith k)
  | await next => await (next.continueWith k)

/-- The strand that has failed. -/
def fail (e : Error) : Strand α :=
  done (.error e)

/-- The strand that has come to a result. -/
def ofExcept (result : Except Error α) : Strand α :=
  done result

instance : Monad Strand where
  pure a := done (.ok a)
  bind s k := s.continueWith fun
    | .ok a => k a
    | .error e => fail e

/-- Runs a second strand behind the end of a first one, whether that ended well or not. -/
def always (s : Strand α) (cleanup : Strand Unit) : Strand α :=
  s.continueWith fun result => cleanup.continueWith fun _ => done result

/-- The store. -/
def store : Strand Store :=
  update id fun s => pure s

/-- The store for an evaluation, which draws random numbers of its own. -/
def drawn : Strand Store :=
  update Store.drawn fun s => pure s

/-- Changes the store. -/
def modify (change : Store → Store) : Strand Unit :=
  update change fun _ => pure ()

/-- Writes a report. -/
def write (text : Streams) : Strand Unit :=
  report text (pure ())

/-- Tells of the start of an operation and of what it returns, which is nothing if the operation is
skipped. -/
def noted (op : Operation) (room : Nat) (body : Strand (Option Signal)) : Strand Signal :=
  note (.started op room) (body.continueWith fun
    | .ok none => note (.skipped op) (done (.ok .next))
    | .ok (some signal) => note (.returned op (.ok signal)) (done (.ok signal))
    | .error e => note (.returned op (.error e)) (done (.error e)))

theorem pure_def (a : α) : (pure a : Strand α) = done (.ok a) := rfl

@[simp] theorem pure_bind (a : α) (k : α → Strand β) : (pure a : Strand α) >>= k = k a := rfl

@[simp] theorem fail_bind (e : Error) (k : α → Strand β) :
    (fail e : Strand α) >>= k = fail e := rfl

theorem continueWith_assoc {γ : Type} (s : Strand α) (k : Except Error α → Strand β)
    (l : Except Error β → Strand γ) :
    (s.continueWith k).continueWith l = s.continueWith fun r => (k r).continueWith l := by
  induction s with
  | done => rfl
  | endless => rfl
  | update _ _ ih => simp [continueWith, ih]
  | command _ _ ih => simp [continueWith, ih]
  | ask _ _ ih => simp [continueWith, ih]
  | confirm _ _ _ ih => simp [continueWith, ih]
  | report _ _ ih => simp [continueWith, ih]
  | launch _ _ ih => simp [continueWith, ih]
  | note _ _ ih => simp [continueWith, ih]
  | await _ ih => simp [continueWith, ih]

@[simp] theorem continueWith_done (s : Strand α) : s.continueWith done = s := by
  induction s with
  | done => rfl
  | endless => rfl
  | update _ _ ih => simp [continueWith, ih]
  | command _ _ ih => simp [continueWith, ih]
  | ask _ _ ih => simp [continueWith, ih]
  | confirm _ _ _ ih => simp [continueWith, ih]
  | report _ _ ih => simp [continueWith, ih]
  | launch _ _ ih => simp [continueWith, ih]
  | note _ _ ih => simp [continueWith, ih]
  | await _ ih => simp [continueWith, ih]

end Strand

end RecipeRunner

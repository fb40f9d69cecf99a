import RecipeRunner.Proofs.Run.Agenda
import RecipeRunner.Proofs.Run.Iteration
import RecipeRunner.Proofs.Run.Occurrences
import RecipeRunner.Proofs.Run.Repetition
/-!
# What follows an operation

Behind an operation the main strand goes on with what the operations around it have left to do: an
operation that has followed a handler returns, a loop goes on with what is left of its pass and then
with its other passes, and the recipe goes on with its next operation.  What follows is read off the
agenda, uniformly in how the operation has come to its result.

* `Resumes`: how a run is resumed behind an operation in an agenda, by what the operation returns.
* `Placed`: strands in which every return of an operation is followed by what is due there.
* `quiet_compositional`: what tells nothing leaves strands in their places.
-/

namespace RecipeRunner

/-- What a loop does in each of its passes. -/
def Level.pass (r : Run) (room : Nat) (l : Level) : Strand Signal :=
  Run.inOrder (r.execute room) l.op.operations

namespace Run

open Strand (done note Goes Tidies)

/-! ## Continuations -/

/-- What follows only a signal to go on. -/
def orElse (next : Strand Signal) : Except Error Signal → Strand Signal
  | .ok .next => next
  | result => done result

/-- What is left of an operation once it has come to its result. -/
def returning (op : Operation) (K : Except Error Signal → Strand Bool)
    (result : Except Error Signal) : Strand Bool :=
  note (.returned op result) (K result)

/-- What is left of a recipe behind one of its operations. -/
def recipeBehind (r : Run) (left : List Operation) : Except Error Signal → Strand Bool
  | .ok .exit => pure true
  | .ok _ => r.recipeStrand left
  | .error e => Strand.fail e

/-- What a loop still does once it has made so many of its passes. -/
inductive Rest (r : Run) (body : Strand Signal) : ControlFlow → Strand Signal → Prop
  | counted {times name : String} {progress bar : Bool} (count passed : Nat) :
    Rest r body (.counted times name progress bar)
      (turns (bindingTurn name body (r.drawing bar count))
        (((List.range count).map fun j : Nat => .int j).drop passed) (passed + 1))
  | each {collection name : String} {progress : Bool} (items : List String) (passed : Nat) :
    Rest r body (.each collection name progress)
      (turns (bindingTurn name body fun _ => done) ((items.map .str).drop passed) (passed + 1))
  | whileHolds {condition : String} {progress : Bool} {limit : Nat} {otherwise : Strand Signal}
      (passed : Nat) :
    r.Exhausts limit otherwise → Rest r body (.whileHolds condition progress)
      (passesWhile (holds condition) otherwise (numbered body) (limit - passed) (passed + 1))

/-- Behind its passes a loop puts things back as they were and returns.  Unless the recipe is to end
it publishes that it was successful. -/
def Finishes (op : Operation) (id : String) (finish K : Except Error Signal → Strand Bool) : Prop :=
  ∀ result, ∃ changes, (finish result).Goes [.returned op (loopResult op result)] changes
      (K (loopResult op result)) ∧
    ∀ signal, result = .ok signal → signal ≠ .exit → id.isEmpty = false →
      (fun s : Store => s.setResult id true) ∈ changes

/-- What a loop does behind a pass: it goes on with the other ones if the pass signals to go on, and
finishes otherwise. -/
def Repeats (r : Run) (flow : ControlFlow) (op : Operation) (id : String) (body : Strand Signal)
    (C K : Except Error Signal → Strand Bool) : Prop :=
  ∃ again finish, Rest r body flow again ∧ Finishes op id finish K ∧
    ∀ result, (C result).Goes [] [] ((orElse again result).continueWith finish)

/-- How a run is resumed behind an operation in an agenda, by what the operation returns. -/
inductive Resumes (r : Run) : Agenda → (Except Error Signal → Strand Bool) → Prop
  /-- The recipe goes on, unless it is to end. -/
  | recipe (left : List Operation) :
    Resumes r ⟨left, []⟩ fun result => (r.recipeBehind left result).always (Strand.await (pure ()))
  /-- An operation that has followed a handler returns the stronger one of two signals. -/
  | handler {left : List Operation} {l : Level} {outer : List Level}
      {K : Except Error Signal → Strand Bool} :
    Resumes r ⟨left, outer⟩ K → l.op.controlFlow = none →
      Resumes r ⟨left, l :: outer⟩ fun result =>
        returning l.op K (result.map (·.combine (.ofOperation l.op)))
  /-- A loop goes on with what is left of the pass, and then with the other ones. -/
  | body {left : List Operation} {l : Level} {outer : List Level} {flow : ControlFlow} {id : String}
      {room : Nat} {C K : Except Error Signal → Strand Bool} :
    Resumes r ⟨left, outer⟩ K → l.op.controlFlow = some flow → l.id? = some (.ok id) →
      room + outer.length = r.maxDepth → Repeats r flow l.op id (l.pass r room) C K →
        Resumes r ⟨left, l :: outer⟩ fun result =>
          (orElse (inOrder (r.execute room) l.left) result).continueWith C

/-- Wherever an operation returns, the run is resumed as its agenda says. -/
inductive Placed (r : Run) : Strand Bool → Agenda → Prop
  | done (result : Except Error Bool) (a : Agenda) : Placed r (.done result) a
  | endless (a : Agenda) : Placed r .endless a
  | update {change : Store → Store} {next : Store → Strand Bool} {a : Agenda} :
    (∀ s, Placed r (next s) (a.look s)) → Placed r (.update change next) a
  | command {call : Call} {next : Execution → Strand Bool} {a : Agenda} :
    (∀ execution, Placed r (next execution) a) → Placed r (.command call next) a
  | ask {spec : PromptSpec} {next : Except Error Answer → Strand Bool} {a : Agenda} :
    (∀ answer, Placed r (next answer) a) → Placed r (.ask spec next) a
  | confirm {label failure : String} {next : Except Error Bool → Strand Bool} {a : Agenda} :
    (∀ reply, Placed r (next reply) a) → Placed r (.confirm label failure next) a
  | report {text : Streams} {next : Strand Bool} {a : Agenda} :
    Placed r next a → Placed r (.report text next) a
  | launch {unit : Launch} {next : Strand Bool} {a : Agenda} :
    Placed r next a → Placed r (.launch unit next) a
  | note {told : Note} {next : Strand Bool} {a : Agenda} :
    (∀ op result, told = .returned op result → ∃ K, Resumes r (a.tell told) K ∧ next = K result) →
      Placed r next (a.tell told) → Placed r (.note told next) a
  | await {next : Strand Bool} {a : Agenda} :
    (∀ s, Placed r next (a.look s)) → Placed r (.await next) a

variable {r : Run} {a : Agenda}

/-! ## Moves -/

theorem Placed.move {s t : Strand Bool} {store mid : Store} {new : List Event} (h : Placed r s a)
    (hmove : Strand.Move s store new t mid) : Placed r t (a.hear ⟨new, store, mid⟩) ∧
      ∀ op result, new = [.noted (.returned op result)] →
        ∃ K, Resumes r (a.hear ⟨new, store, mid⟩) K ∧ t = K result := by
  cases hmove with
  | update | await | command | ask | confirm =>
    cases h with
    | _ hnext => exact ⟨hnext _, nofun⟩
  | report | launch =>
    cases h with
    | _ hnext => exact ⟨hnext, nofun⟩
  | note told next =>
    cases h with
    | note hreturn hnext =>
      refine ⟨hnext, fun op result hnew => hreturn op result ?_⟩
      exact Event.noted.inj (List.singleton_inj.1 hnew)

theorem Placed.course {s t : Strand Bool} {acts : List Act} (h : Placed r s a)
    (hcourse : Strand.Course s acts t) : Placed r t (acts.foldl Agenda.hear a) := by
  induction hcourse generalizing a with
  | refl => exact h
  | step hmove _ ih => exact ih (h.move hmove).1

/-! ## Quiet parts -/

/-- Whatever is placed behind the strand, is placed with the strand before it. -/
def Quiet (r : Run) (a : Agenda) (α : Type) (s : Strand α) : Prop :=
  ∀ K : Except Error α → Strand Bool, (∀ result, Placed r (K result) a) →
    Placed r (s.continueWith K) a

theorem quiet_compositional (ha : a.Settled) :
    Strand.Compositional (fun _ _ => True) (Quiet r a) where
  aside _ := trivial
  done result K hK := hK result
  update _ hnext K hK := .update fun s => by
    rw [ha s]
    exact hnext s K hK
  call hnext K hK := .command fun execution => hnext execution K hK
  prompt hnext K hK := .ask fun answer => hnext answer K hK
  question hnext K hK := .confirm fun reply => hnext reply K hK
  report hnext K hK := .report (hnext K hK)
  row hs hk K hK := by
    rw [Strand.continueWith_assoc]
    exact hs _ fun result => hk result K hK

/-- A part that tells nothing is placed if what comes behind it is. -/
theorem Quiet.placed_bind {α β : Type} {s : Strand α} {k : α → Strand β}
    {K : Except Error β → Strand Bool} (h : Quiet r a α s) (hK : ∀ e, Placed r (K (.error e)) a)
    (hk : ∀ x, Placed r ((k x).continueWith K) a) : Placed r ((s >>= k).continueWith K) a := by
  rw [Strand.bind_continueWith]
  refine h _ fun result => ?_
  cases result with
  | ok x => exact hk x
  | error e => exact hK e

theorem placed_of_goes {s t : Strand Bool} {changes : List (Store → Store)} (ha : a.Settled)
    (hgoes : Goes s [] changes t) (h : Placed r t a) : Placed r s a := by
  generalize htold : ([] : List Note) = told at hgoes
  induction hgoes with
  | refl => exact h
  | update _ ih =>
    refine .update fun s => ?_
    rw [ha s]
    exact ih s h htold
  | report _ ih => exact .report (ih h htold)
  | note => cases htold

theorem placed_of_tidies {α : Type} {s : Strand α} {result : Except Error α}
    {k : Except Error α → Strand Bool} (ha : a.Settled) (h : s.Tidies result)
    (hk : Placed r (k result) a) : Placed r (s.continueWith k) a := by
  obtain ⟨changes, hgoes⟩ := h
  exact placed_of_goes ha (hgoes.continueWith k) hk

end Run

end RecipeRunner

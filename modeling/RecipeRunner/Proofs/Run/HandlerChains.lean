import Mathlib.Logic.Relation
import RecipeRunner.Proofs.Condition.Guard
import RecipeRunner.Proofs.Run.Following
import RecipeRunner.Proofs.Run.Nesting
import RecipeRunner.Proofs.Run.Termination
/-!
# Chains of success handlers

Behind a command that is successful its success handler is followed, behind that one the next, and
where every operation of such a chain has a further one, a chain in a circle for example, it is the
limit of the nesting that ends it.

* `Strand.Yields`: what a strand comes to in the stores that a guard allows, where all commands are
  successful.
* `Operation.Ready`: what an operation needs of a store so as to get through to its handler.
* `Run.yields_execute`: one command for each level that there is room for, then the error.
* `Run.bounded`: runs that limit their loops come to an end within the limit of nesting.
-/

namespace RecipeRunner

open Relation (ReflTransGen)

namespace Event

/-- If it is a command, it is successful. -/
def Succeeds : Event → Prop
  | command call execution => ∀ format, ∃ raw, execution.output call format = .ok raw
  | _ => True

def isCommand : Event → Bool
  | command .. => true
  | _ => false

end Event

namespace Strand

variable {α β : Type} {guard : List Event → Store → Prop}
  {post : List Event → Except Error α → Prop}

/-- Where all commands are successful, and the stores that the strand sees behind its events are as
the guard says, the events and the result at its end satisfy `post`. -/
def Yields : Strand α → (guard : List Event → Store → Prop) →
    (post : List Event → Except Error α → Prop) → Prop
  | done result, _, post => post [] result
  | endless, _, _ => True
  | update _ next, guard, post => ∀ s, guard [] s → (next s).Yields guard post
  | command call next, guard, post => ∀ execution, (Event.command call execution).Succeeds →
      (next execution).Yields (fun events => guard (.command call execution :: events))
        fun events => post (.command call execution :: events)
  | ask spec next, guard, post => ∀ answer,
      (next answer).Yields (fun events => guard (.asked spec answer :: events))
        fun events => post (.asked spec answer :: events)
  | confirm label failure next, guard, post => ∀ reply,
      (next reply).Yields (fun events => guard (.confirmed label failure reply :: events))
        fun events => post (.confirmed label failure reply :: events)
  | report text next, guard, post => next.Yields (fun events => guard (.reported text :: events))
      fun events => post (.reported text :: events)
  | launch unit next, guard, post => next.Yields (fun events => guard (.launched unit :: events))
      fun events => post (.launched unit :: events)
  | note told next, guard, post => next.Yields (fun events => guard (.noted told :: events))
      fun events => post (.noted told :: events)
  | await next, guard, post => next.Yields guard post

theorem Yields.mono {s : Strand α} {post' : List Event → Except Error α → Prop}
    (h : s.Yields guard post) (hpost : ∀ events result, post events result → post' events result) :
    s.Yields guard post' := by
  induction s generalizing guard post post' with
  | done result => exact hpost _ _ h
  | endless => trivial
  | update change next ih => exact fun s hs => ih s (h s hs) hpost
  | command call next ih =>
    exact fun execution hsucceeds => ih execution (h execution hsucceeds) fun events => hpost _
  | ask spec next ih => exact fun answer => ih answer (h answer) fun events => hpost _
  | confirm label failure next ih =>
    exact fun reply => ih reply (h reply) fun events => hpost _
  | report text next ih => exact ih h fun events => hpost _
  | launch unit next ih => exact ih h fun events => hpost _
  | note told next ih => exact ih h fun events => hpost _
  | await next ih => exact ih h hpost

theorem Yields.continueWith {s : Strand α} {k : Except Error α → Strand β}
    {post : List Event → Except Error β → Prop}
    (h : s.Yields guard fun before result =>
      (k result).Yields (fun after => guard (before ++ after)) fun after => post (before ++ after)) :
    (s.continueWith k).Yields guard post := by
  induction s generalizing guard post with
  | done result => exact h
  | endless => trivial
  | update change next ih => exact fun s hs => ih s (h s hs)
  | command call next ih => exact fun execution hsucceeds => ih execution (h execution hsucceeds)
  | ask spec next ih => exact fun answer => ih answer (h answer)
  | confirm label failure next ih => exact fun reply => ih reply (h reply)
  | report text next ih => exact ih h
  | launch unit next ih => exact ih h
  | note told next ih => exact ih h
  | await next ih => exact ih h

theorem yields_look_bind {look : Store → Except Error β} {k : β → Strand α} :
    ((Strand.update Store.drawn fun s => done (look s)) >>= k).Yields guard post ↔
      ∀ s, guard [] s → (done (look s) >>= k).Yields guard post :=
  Iff.rfl

theorem Yields.move {s t : Strand α} {store mid : Store} {new : List Event}
    (h : s.Yields guard post) (hstore : guard [] store) (hmove : Move s store new t mid)
    (hsucceeds : ∀ event ∈ new, event.Succeeds) :
    t.Yields (fun events => guard (new ++ events)) fun events => post (new ++ events) := by
  cases hmove with
  | update => exact h store hstore
  | command => exact h _ (hsucceeds _ List.mem_cons_self)
  | ask | confirm => exact h _
  | report | launch | note | await => exact h

/-- The guard has to hold for the stores that the strand comes to. -/
theorem Yields.moves {others : Store → Store → Prop} {s : Strand α} {store last : Store}
    {events : List Event} {result : Except Error α} (h : s.Yields guard post)
    (hguard : ∀ {events t mid}, Moves others s store events t mid →
      (∀ event ∈ events, event.Succeeds) → guard events mid)
    (hmoves : Moves others s store events (done result) last)
    (hsucceeds : ∀ event ∈ events, event.Succeeds) : post events result := by
  generalize ht : (done result : Strand α) = t at hmoves
  induction hmoves generalizing guard post with
  | refl =>
    subst ht
    exact h
  | own hmove _ ih =>
    obtain ⟨hnew, hrest⟩ := List.forall_mem_append.1 hsucceeds
    refine ih (h.move (hguard (.refl _ _) (List.forall_mem_nil _)) hmove hnew) ?_ hrest ht
    exact fun hmoves hall => hguard (.own hmove hmoves) (List.forall_mem_append.2 ⟨hnew, hall⟩)
  | other hother _ ih =>
    exact ih h (fun hmoves hall => hguard (.other hother hmoves) hall) hsucceeds ht

/-- The reply to a command can be that it is successful. -/
theorem Move.exists_succeeding {s t : Strand α} {store mid : Store} {new : List Event}
    (h : Move s store new t mid) : ∃ new t mid, Move s store new t mid ∧
      ∀ event ∈ new, event.Succeeds := by
  cases h with
  | update change next => exact ⟨_, _, _, .update change next store, List.forall_mem_nil _⟩
  | await _ hstore => exact ⟨_, _, _, .await _ hstore, List.forall_mem_nil _⟩
  | command call next =>
    refine ⟨_, _, _, .command call next store ⟨.exited 0, "", ""⟩, ?_⟩
    refine List.forall_mem_singleton.2 fun format => ?_
    cases hattached : call.attached with
    | false =>
      exact ⟨format.apply "", by simp [Execution.output, Shell.Ending.isSuccess, hattached]⟩
    | true => exact ⟨"", by simp [Execution.output, hattached]⟩
  | ask spec next _ answer =>
    exact ⟨_, _, _, .ask spec next store answer, List.forall_mem_singleton.2 trivial⟩
  | confirm label failure next _ reply =>
    exact ⟨_, _, _, .confirm label failure next store reply, List.forall_mem_singleton.2 trivial⟩
  | report text =>
    exact ⟨_, _, _, .report text _ store, List.forall_mem_singleton.2 trivial⟩
  | launch unit =>
    exact ⟨_, _, _, .launch unit _ store, List.forall_mem_singleton.2 trivial⟩
  | note told =>
    exact ⟨_, _, _, .note told _ store, List.forall_mem_singleton.2 trivial⟩

/-- A strand that comes to an end does so with commands that are all successful. -/
theorem Halts.exists_succeeding {s : Strand α} (h : s.Halts) (others : Store → Store → Prop)
    (store : Store) : ∃ events result last, Moves others s store events (.done result) last ∧
      ∀ event ∈ events, event.Succeeds := by
  induction h generalizing store with
  | done result => exact ⟨[], result, store, .refl _ _, List.forall_mem_nil _⟩
  | step hgoes _ ih =>
    obtain ⟨_, _, _, hgo⟩ := hgoes store
    obtain ⟨new, t, mid, hmove, hnew⟩ := hgo.exists_succeeding
    obtain ⟨events, result, last, hmoves, hevents⟩ := ih hmove mid
    exact ⟨_, result, last, .own hmove hmoves, List.forall_mem_append.2 ⟨hnew, hevents⟩⟩

end Strand

namespace Run

/-- The text that becomes the output of an operation, in a store. -/
def transformedIn (s : Store) (op : Operation) (raw : String) : Except Error String :=
  if op.transform.isEmpty then .ok raw
  else Template.render (s.bindings.overlay [("output", .str (Text.trimmed raw))]) op.transform

end Run

/-- In a store that an operation sees behind events of its own, it has an id, a condition that holds
and a command to run, and behind the command it has an output. -/
structure Operation.Ready (op : Operation) (own : List Event) (s : Store) : Prop where
  id : Run.commandOutput? op own = none → ∃ id, Run.idIn s op = .ok id
  condition : Run.commandOutput? op own = none → Condition.evaluate s.scope op.condition = .ok true
  command : Run.commandOutput? op own = none →
    ∃ text, Template.render s.bindings op.command = .ok text
  output : ∀ raw, Run.commandOutput? op own = some (.ok raw) →
    ∃ output, Run.transformedIn s op raw = .ok output

/-- An operation without templates is ready wherever its condition holds. -/
theorem Operation.ready_of_not_hasTemplate {op : Operation} (own : List Event) {s : Store}
    (hid : Template.hasTemplate op.id = false) (hcommand : Template.hasTemplate op.command = false)
    (htransform : op.transform.isEmpty = true)
    (hcondition : Condition.evaluate s.scope op.condition = .ok true) : op.Ready own s where
  id _ := ⟨op.id, by rw [Run.idIn, if_neg (by simp [hid])]⟩
  condition _ := hcondition
  command _ := by
    rw [Template.render, Template.renderRaw_of_not_hasTemplate _ hcommand]
    exact ⟨_, rfl⟩
  output raw _ := ⟨raw, by rw [Run.transformedIn, if_pos htransform]⟩

namespace Run

open Strand (Yields Moves)

variable {r : Run} {room : Nat} {op : Operation} {guard : List Event → Store → Prop}

/-- The success handler of an operation refers to another one. -/
def LeadsTo (r : Run) (op next : Operation) : Prop :=
  op.onSuccess.isEmpty = false ∧ r.handlers.get? op.onSuccess = some next

/-- The operation does no more than to run a command in the foreground, and its success handler
refers to an operation. -/
structure Chained (r : Run) (op : Operation) : Prop where
  runsCommand : op.RunsCommand
  prompts : op.prompts = []
  leads : ∃ next, r.LeadsTo op next

/-- If the operation that has started last, and has not ended, can be reached by success handlers,
it is ready. -/
def ReadyBehind (r : Run) (op : Operation) (events : List Event) (s : Store) : Prop :=
  ∀ front current room own, events = front ++ .noted (.started current room) :: own →
    ReflTransGen r.LeadsTo op current → (∀ told, .noted told ∉ own) → current.Ready own s

/-- A strand has failed, and has run so many commands. -/
def FailsBehind {α : Type} (e : Error) (commands : Nat) (events : List Event)
    (result : Except Error α) : Prop :=
  result = .error e ∧ events.countP Event.isCommand = commands

/-! ## One operation of a chain -/

theorem transformed_eq (op : Operation) (raw : String) :
    transformed op raw = pure raw ∨
      transformed op raw = .update Store.drawn fun s => .done (transformedIn s op raw) := by
  unfold transformed transformedIn
  split
  · exact .inl rfl
  · exact .inr rfl

theorem yields_publishOutput (r : Run) (op : Operation) (id raw : String)
    (h : ∀ s, guard [] s → ∃ output, transformedIn s op raw = .ok output) :
    (r.publishOutput op id raw).Yields guard fun events result =>
      result = .ok () ∧ ∀ event ∈ events, event.IsReported := by
  have htransformed : (transformed op raw).Yields guard fun events result =>
      events = [] ∧ ∃ text, result = .ok text := by
    rcases transformed_eq op raw with heq | heq
    · rw [heq]
      exact ⟨rfl, raw, rfl⟩
    · rw [heq]
      exact fun s hs => ⟨rfl, h s hs⟩
  have hemit : ∀ output : String, Yields
      (if !op.isSilent && !output.isEmpty && !op.mode.isAttached then r.emit output else pure ())
      guard fun events result => result = .ok () ∧ ∀ event ∈ events, event.IsReported := by
    intro output
    split
    · exact fun s _ => ⟨rfl, List.forall_mem_singleton.2 trivial⟩
    · exact ⟨rfl, List.forall_mem_nil _⟩
  refine Yields.continueWith (htransformed.mono ?_)
  rintro _ _ ⟨rfl, text, rfl⟩
  dsimp only
  split
  · exact fun s _ s' _ => hemit _
  · exact hemit _

theorem render_eq (template : String) : render template =
    Strand.update Store.drawn fun s => .done (Template.render s.bindings template) :=
  rfl

theorem holds_eq (condition : String) : holds condition =
    Strand.update Store.drawn fun s => .done (Condition.evaluate s.scope condition) :=
  rfl

section

variable {target : Operation} {e : Error} {commands : Nat} (hruns : op.RunsCommand)
  (hnext : r.LeadsTo op target)
  (hready : ∀ own s, guard own s → (∀ told, .noted told ∉ own) → op.Ready own s)
  (hturn : ∀ own, (r.execute room target).Yields (fun events => guard (own ++ events))
    (FailsBehind e commands))

include hruns hnext hready hturn

/-- An operation that is ready runs one command, and its success handler has the result. -/
theorem yields_command (id : String) :
    (r.command (r.execute room) op id room).Yields guard (FailsBehind e (commands + 1)) := by
  rw [command, render_eq, Strand.yields_look_bind]
  intro s hs
  obtain ⟨text, htext⟩ := (hready [] s hs fun _ => List.not_mem_nil).command rfl
  rw [htext, ← Strand.pure_def, Strand.pure_bind]
  simp only [if_neg hruns.mode]
  intro execution hsucceeds
  obtain ⟨raw, hraw⟩ := hsucceeds op.format
  simp only [Strand.pure_def, Strand.continueWith]
  rw [hraw]
  have houtput : ∀ s', guard [.reported (r.console.trace op.label text),
      .command ⟨text, r.input, op.mode.isAttached⟩ execution] s' →
      ∃ output, transformedIn s' op raw = .ok output := by
    intro s' hs'
    refine (hready _ s' hs' (by simp)).output raw ?_
    simp [commandOutput?, Event.firstCommand?, hraw]
  refine Yields.continueWith ((yields_publishOutput r op id raw houtput).mono ?_)
  rintro reports _ ⟨rfl, hreports⟩
  have hnone : reports.countP Event.isCommand = 0 := by
    refine List.countP_eq_zero.2 fun event hevent => ?_
    cases event with
    | reported => exact Bool.false_ne_true
    | _ => exact (hreports _ hevent).elim
  change (r.handled (r.execute room) op op.onSuccess).Yields _ _
  rw [handled_eq hnext.1 hnext.2]
  refine Yields.continueWith ((hturn (_ :: _ :: reports)).mono ?_)
  rintro turn _ ⟨rfl, hcount⟩
  refine ⟨rfl, ?_⟩
  simp [List.countP_cons, hnone, hcount, Event.isCommand]

theorem yields_body (hprompts : op.prompts = []) :
    (r.body room op).Yields guard (FailsBehind e (commands + 1)) := by
  have hstart : ∀ s, guard [] s → op.Ready [] s :=
    fun s hs => hready [] s hs fun _ => List.not_mem_nil
  have hengaged : ∀ id, (r.bodyAs room op id).Yields guard (FailsBehind e (commands + 1)) := by
    intro id
    rw [bodyAs, holds_eq, Strand.yields_look_bind]
    intro s hs
    rw [(hstart s hs).condition rfl, ← Strand.pure_def, Strand.pure_bind, if_pos rfl, hprompts,
      askAll, Strand.pure_bind, if_neg Bool.false_ne_true, perform_of_runsCommand hruns]
    refine Yields.continueWith ((yields_command hruns hnext hready hturn id).mono ?_)
    rintro events _ ⟨rfl, hcount⟩
    exact ⟨rfl, by rw [List.append_nil, hcount]⟩
  rw [body]
  rcases idOf_eq op with ⟨-, heq⟩ | ⟨-, heq⟩
  · rw [heq, Strand.pure_bind]
    exact hengaged op.id
  · rw [heq, Strand.yields_look_bind]
    intro s hs
    obtain ⟨id, hid⟩ := (hstart s hs).id rfl
    rw [hid, ← Strand.pure_def, Strand.pure_bind]
    exact hengaged id

end

/-! ## Chains -/

theorem ReadyBehind.of_append {before events : List Event} {s : Store} {next : Operation}
    (h : r.ReadyBehind op (before ++ events) s) (hnext : r.LeadsTo op next) :
    r.ReadyBehind next events s := by
  rintro front current room own rfl hleads
  exact h (before ++ front) current room own (List.append_assoc ..).symm (.head hnext hleads)

/-- A chain runs a command at each level that there is room for, and then it has no room. -/
theorem yields_execute (hchain : ∀ next, ReflTransGen r.LeadsTo op next → r.Chained next)
    (hguard : ∀ events s, guard events s → r.ReadyBehind op events s) :
    (r.execute room op).Yields guard (FailsBehind (.recursionLimit r.maxDepth) room) := by
  induction room generalizing op guard with
  | zero => exact ⟨rfl, rfl⟩
  | succ room ih =>
    obtain ⟨hruns, hprompts, target, hnext⟩ := hchain op .refl
    have hready : ∀ own s, guard (.noted (.started op room) :: own) s →
        (∀ told, .noted told ∉ own) → op.Ready own s :=
      fun own s hs => hguard _ s hs [] op room own rfl .refl
    have hturn : ∀ own, (r.execute room target).Yields
        (fun events => guard (.noted (.started op room) :: (own ++ events)))
        (FailsBehind (.recursionLimit r.maxDepth) room) := by
      intro own
      refine ih (fun next hleads => hchain next (.head hnext hleads)) fun events s hs => ?_
      have hwhole := hguard _ s hs
      rw [← List.cons_append] at hwhole
      exact hwhole.of_append hnext
    rw [execute_succ]
    refine Yields.continueWith ((yields_body hruns hnext hready hturn hprompts).mono ?_)
    rintro events _ ⟨rfl, hcount⟩
    refine ⟨rfl, ?_⟩
    simp [hcount, Event.isCommand]

/-- In a run that limits its loops, whatever handlers it has and whatever comes of its commands and
prompts, the recipe comes to an end, and no operation starts deeper than the limit.  A chain of
success handlers ends with the error of the limit, behind one command more than the limit. -/
theorem bounded (r : Run) (hlimit : 0 < r.maxRepeats) :
    (∀ ops, (r.recipeStrand ops).Halts) ∧
    (∀ ops store acts c front who act back op room,
      Crew.History r (Crew.start r ops store) acts c → acts = front ++ (who, act) :: back →
        act.Starts op room → (Crew.Depths.after front).strand who ≤ r.maxDepth) ∧
    ∀ op, (∀ next, ReflTransGen r.LeadsTo op next → r.Chained next) →
      (r.execute (r.maxDepth + 1) op).Halts ∧ ∀ others store,
        (∀ events t mid, Moves others (r.execute (r.maxDepth + 1) op) store events t mid →
          (∀ event ∈ events, event.Succeeds) → r.ReadyBehind op events mid) →
        ∀ events result last,
          Moves others (r.execute (r.maxDepth + 1) op) store events (.done result) last →
          (∀ event ∈ events, event.Succeeds) →
            result = .error (.recursionLimit r.maxDepth) ∧
              events.countP Event.isCommand = r.maxDepth + 1 := by
  refine ⟨halts_recipeStrand hlimit, ?_, fun op hchain => ⟨halts_execute hlimit _ op, ?_⟩⟩
  · intro ops store acts c front who act back op room hhistory hacts hstarts
    have hleft := hhistory.depth_add_room hacts hstarts
    omega
  · intro others store hready events result last hmoves hsucceeds
    have hyields : (r.execute (r.maxDepth + 1) op).Yields (r.ReadyBehind op) _ :=
      yields_execute hchain fun _ _ h => h
    exact hyields.moves (hready _ _ _) hmoves hsucceeds

/-- An operation that is its own success handler. -/
def again : Operation :=
  { id := "again", command := "true", onSuccess := "again" }

/-- A run in which it may be nested twice. -/
def repeating : Run :=
  ⟨2, 1, 0, .ofList [("again", again)], "", {}⟩

/-- It runs its command three times. -/
theorem bounded_again : 0 < repeating.maxRepeats ∧ (repeating.recipeStrand [again]).Halts ∧
    ∃ events last, Moves (fun _ _ => True) (repeating.execute 3 again) {} events
      (.done (.error (.recursionLimit 2))) last ∧ events.countP Event.isCommand = 3 := by
  have hlimit : 0 < repeating.maxRepeats := by decide
  obtain ⟨hhalts, -, hchains⟩ := bounded repeating hlimit
  have hleads : ∀ next, ReflTransGen repeating.LeadsTo again next → next = again := by
    intro next h
    induction h with
    | refl => rfl
    | tail _ hnext ih =>
      subst ih
      exact (Option.some.inj hnext.2).symm
  have hready : ∀ own s, again.Ready own s := fun own s =>
    Operation.ready_of_not_hasTemplate own (by decide) (by decide) rfl
      (Condition.evaluate_of_isEmpty _ (by decide))
  obtain ⟨hends, hchain⟩ := hchains again fun next h => by
    rw [hleads next h]
    exact ⟨⟨rfl, rfl, by decide, by decide⟩, rfl, again, rfl, rfl⟩
  obtain ⟨events, result, last, hmoves, hsucceeds⟩ :=
    hends.exists_succeeding (fun _ _ => True) {}
  obtain ⟨rfl, hcount⟩ := hchain (fun _ _ => True) {}
    (fun _ _ _ _ _ _ current _ own _ h _ => hleads current h ▸ hready own _)
    events result last hmoves hsucceeds
  exact ⟨hlimit, hhalts [again], events, last, hmoves, hcount⟩

end Run

end RecipeRunner

import RecipeRunner.Proofs.Condition.Faults
import RecipeRunner.Proofs.Run.Moves
import RecipeRunner.Run.Operation
/-!
# The errors of a run

Which errors an operation can return, if what answers its prompts has no others: templates and
conditions may be at fault, an id or the operation of a handler may be missing, the operator may
choose not to go on, the system may lose an attached command, and one of the two limits of the run
may be reached.  A command that fails is never the error of an operation, and a run that does not
limit its loops never reaches that limit.

* `Strand.FailsOnly`: the errors that a strand can come to.
* `Run.CanFail`: the errors of a run.
* `Run.failsOnly_execute`: operations come to no others.
-/

namespace RecipeRunner

namespace Event

/-- A reply is no error, or one that `Q` allows. -/
def Replies (Q : Error → Prop) : Event → Prop
  | asked _ answer => Blames Q answer
  | confirmed _ _ reply => Blames Q reply
  | command .. | reported _ | launched _ | noted _ => True

end Event

namespace Strand

variable {α β : Type} {Q : Error → Prop}

/-- The strand comes to no other errors than `Q` allows, if no reply is another one. -/
def FailsOnly (Q : Error → Prop) : Strand α → Prop
  | done result => Blames Q result
  | endless => True
  | update _ next => ∀ store, (next store).FailsOnly Q
  | command _ next => ∀ execution, (next execution).FailsOnly Q
  | ask _ next => ∀ answer, Blames Q answer → (next answer).FailsOnly Q
  | confirm _ _ next => ∀ reply, Blames Q reply → (next reply).FailsOnly Q
  | report _ next | launch _ next | note _ next | await next => next.FailsOnly Q

theorem FailsOnly.continueWith {s : Strand α} {k : Except Error α → Strand β} (h : s.FailsOnly Q)
    (hk : ∀ result, Blames Q result → (k result).FailsOnly Q) :
    (s.continueWith k).FailsOnly Q := by
  induction s with
  | done result => exact hk result h
  | endless => trivial
  | update change next ih => exact fun store => ih store (h store)
  | command call next ih => exact fun execution => ih execution (h execution)
  | ask spec next ih => exact fun answer hanswer => ih answer (h answer hanswer)
  | confirm label failure next ih => exact fun reply hreply => ih reply (h reply hreply)
  | report text next ih | launch unit next ih | note told next ih | await next ih => exact ih h

theorem FailsOnly.bind {s : Strand α} {k : α → Strand β} (h : s.FailsOnly Q)
    (hk : ∀ a, (k a).FailsOnly Q) : (s >>= k).FailsOnly Q :=
  h.continueWith fun result hresult => by
    cases result with
    | ok a => exact hk a
    | error e => exact hresult.error

theorem FailsOnly.always {s : Strand α} {cleanup : Strand Unit} (h : s.FailsOnly Q)
    (hcleanup : cleanup.FailsOnly Q) : (s.always cleanup).FailsOnly Q :=
  h.continueWith fun _ hresult => hcleanup.continueWith fun _ _ => hresult

theorem failsOnly_pure (a : α) : (pure a : Strand α).FailsOnly Q :=
  blames_ok a

theorem failsOnly_fail {e : Error} (h : Q e) : (fail e : Strand α).FailsOnly Q :=
  blames_error h

theorem failsOnly_modify (change : Store → Store) : (modify change).FailsOnly Q :=
  fun _ => failsOnly_pure ()

theorem failsOnly_write (text : Streams) : (write text).FailsOnly Q :=
  failsOnly_pure ()

theorem FailsOnly.moves {others : Store → Store → Prop} {s t : Strand α} {store last : Store}
    {events : List Event} (h : s.FailsOnly Q) (hmoves : Moves others s store events t last)
    (hevents : ∀ event ∈ events, event.Replies Q) : t.FailsOnly Q := by
  induction hmoves with
  | refl => exact h
  | other _ _ ih => exact ih h hevents
  | own hmove _ ih =>
    obtain ⟨hnew, hrest⟩ := List.forall_mem_append.1 hevents
    refine ih ?_ hrest
    cases hmove with
    | update | command => exact h _
    | ask | confirm => exact h _ (hnew _ List.mem_cons_self)
    | report | launch | note | await => exact h

end Strand

namespace Run

open Strand (FailsOnly)

/-- The errors that the operations of a run can come to. -/
def CanFail (r : Run) : Error → Prop
  | .templateSyntax _ | .templateExecution _ | .unsupportedCondition _ => True
  | .missingIdentifier _ | .unknownHandler _ | .userAborted | .system _ => True
  | .recursionLimit limit => limit = r.maxDepth
  | .loopLimit limit => r.maxRepeats ≠ 0 ∧ limit = r.maxRepeats
  | _ => False

theorem canFail_of_isTextual (r : Run) {e : Error} (h : e.isTextual = true) : r.CanFail e := by
  cases e with
  | templateSyntax | templateExecution | unsupportedCondition => trivial
  | _ => cases h

section

variable {r : Run} {Q : Error → Prop} (hQ : ∀ e, r.CanFail e → Q e)

include hQ

/-! ## Parts of operations -/

theorem blames_of_textual {α : Type} {result : Except Error α} (h : Textual result) :
    Blames Q result :=
  Blames.mono h fun e he => hQ e (r.canFail_of_isTextual he)

theorem failsOnly_render (template : String) : (render template).FailsOnly Q :=
  fun s => blames_of_textual hQ (Template.textual_render s.bindings template)

theorem failsOnly_holds (condition : String) : (holds condition).FailsOnly Q :=
  fun s => blames_of_textual hQ (Condition.textual_evaluate s.scope condition)

theorem failsOnly_idOf (op : Operation) : (idOf op).FailsOnly Q := by
  unfold idOf
  split
  · exact (failsOnly_render hQ _).bind fun _ => Strand.failsOnly_pure _
  · exact Strand.failsOnly_pure _

omit hQ in
theorem failsOnly_setResult (id : String) (success : Bool) :
    (setResult id success).FailsOnly Q := by
  unfold setResult
  split
  · exact Strand.failsOnly_pure ()
  · exact Strand.failsOnly_modify _

theorem failsOnly_publishOutput (op : Operation) (id raw : String) :
    (r.publishOutput op id raw).FailsOnly Q := by
  have htransformed : (transformed op raw).FailsOnly Q := by
    unfold transformed
    split
    · exact Strand.failsOnly_pure raw
    · exact fun s => blames_of_textual hQ (Template.textual_render _ _)
  have hemit : ∀ output : String, FailsOnly Q
      (if !op.isSilent && !output.isEmpty && !op.mode.isAttached then r.emit output
        else pure ()) := by
    intro output
    split
    · exact fun _ => Strand.failsOnly_write _
    · exact Strand.failsOnly_pure ()
  unfold publishOutput
  refine htransformed.bind fun text => ?_
  dsimp only
  split
  · exact (Strand.failsOnly_modify _).bind fun _ => (Strand.failsOnly_modify _).bind fun _ =>
      hemit _
  · exact hemit _

theorem failsOnly_askAll (specs : List PromptSpec) : (askAll specs).FailsOnly Q := by
  induction specs with
  | nil => exact Strand.failsOnly_pure false
  | cons spec rest ih =>
    have hmessage : (messageOf spec).FailsOnly Q := by
      unfold messageOf
      split
      · exact failsOnly_render hQ _
      · exact Strand.failsOnly_pure _
    have hask : ∀ message, (Strand.ask { spec with message := message }
        Strand.ofExcept).FailsOnly Q := fun message answer hanswer => hanswer
    refine (hmessage.bind fun message => (hask message).bind fun answer => ?_).bind fun stops => ?_
    · cases answer with
      | exit => exact Strand.failsOnly_pure true
      | value v => exact (Strand.failsOnly_modify _).bind fun _ => Strand.failsOnly_pure false
    · split
      · exact Strand.failsOnly_pure true
      · exact ih

theorem failsOnly_startUnit (op : Operation) (id command : String) (room : Nat) :
    (startUnit op id command room).FailsOnly Q := by
  unfold startUnit
  split
  · exact Strand.failsOnly_fail (hQ _ trivial)
  · have hlaunch : ∀ unit, (Strand.launch unit (pure (Signal.ofOperation op))).FailsOnly Q :=
      fun unit => Strand.failsOnly_pure (Signal.ofOperation op)
    refine FailsOnly.bind (fun _ => Strand.failsOnly_pure _) fun run => ?_
    exact (Strand.failsOnly_modify _).bind fun _ => (Strand.failsOnly_modify _).bind fun _ =>
      hlaunch _

/-! ## Loops -/

omit hQ in
theorem failsOnly_inLoop {α : Type} {kind : String} {depth : Nat} {names : List String}
    {body : Strand α} (h : body.FailsOnly Q) : (inLoop kind depth names body).FailsOnly Q :=
  fun _ => fun _ => h.always fun _ => Strand.failsOnly_modify _

omit hQ in
theorem failsOnly_condensed (on : Bool) {α : Type} {body : Strand α} (h : body.FailsOnly Q) :
    (r.condensed on body).FailsOnly Q := by
  cases on with
  | false => exact h
  | true =>
    refine fun s => h.always ((Strand.failsOnly_modify _).bind fun _ => ?_)
    split
    · exact Strand.failsOnly_pure ()
    · exact Strand.failsOnly_write _

omit hQ in
/-- Passes and operations go on only behind a signal to go on. -/
theorem failsOnly_orElse {s next : Strand Signal} (h : s.FailsOnly Q) (hnext : next.FailsOnly Q) :
    FailsOnly Q (do
      match ← s with
      | .next => next
      | signal => pure signal) := by
  refine h.bind fun signal => ?_
  cases signal with
  | next => exact hnext
  | stop => exact Strand.failsOnly_pure _
  | exit => exact Strand.failsOnly_pure _

omit hQ in
theorem failsOnly_passes {pass : Nat → Strand Signal} (h : ∀ number, (pass number).FailsOnly Q)
    (left number : Nat) : (passes pass left number).FailsOnly Q := by
  induction left generalizing number with
  | zero => exact Strand.failsOnly_pure _
  | succ left ih => exact failsOnly_orElse (h number) (ih _)

omit hQ in
theorem failsOnly_passesOver {pass : String → Nat → Strand Signal}
    (h : ∀ item number, (pass item number).FailsOnly Q) (items : List String) (number : Nat) :
    (passesOver pass items number).FailsOnly Q := by
  induction items generalizing number with
  | nil => exact Strand.failsOnly_pure _
  | cons item rest ih => exact failsOnly_orElse (h item number) (ih _)

omit hQ in
theorem failsOnly_passesWhile {condition : Strand Bool} {otherwise : Strand Signal}
    {pass : Nat → Strand Signal} (hcondition : condition.FailsOnly Q)
    (hotherwise : otherwise.FailsOnly Q) (h : ∀ number, (pass number).FailsOnly Q)
    (left number : Nat) : (passesWhile condition otherwise pass left number).FailsOnly Q := by
  induction left generalizing number with
  | zero =>
    refine hcondition.bind fun on => ?_
    split
    · exact hotherwise
    · exact Strand.failsOnly_pure _
  | succ left ih =>
    refine hcondition.bind fun on => ?_
    split
    · exact failsOnly_orElse (h number) (ih _)
    · exact Strand.failsOnly_pure _

theorem failsOnly_repeated (flow : ControlFlow) (depth : Nat) {body : Strand Signal}
    (h : body.FailsOnly Q) : (r.repeated flow depth body).FailsOnly Q := by
  have hnumbered : ∀ number, (numbered body number).FailsOnly Q :=
    fun number => (Strand.failsOnly_modify _).bind fun _ => h
  cases flow with
  | counted times name progress bar =>
    refine (failsOnly_render hQ times).bind fun text => ?_
    have hcount : Blames Q (passCount (Text.trimmed text)) := by
      unfold passCount
      split
      · exact blames_ok _
      · exact blames_error (hQ _ trivial)
    generalize passCount (Text.trimmed text) = found at hcount
    have hfound : (Strand.ofExcept found).FailsOnly Q := hcount
    refine hfound.bind fun count => failsOnly_inLoop (failsOnly_passes (fun number => ?_) count 1)
    refine (Strand.failsOnly_modify _).bind fun _ => (hnumbered number).bind fun signal => ?_
    split
    · exact (Strand.failsOnly_write _).bind fun _ => Strand.failsOnly_pure signal
    · exact Strand.failsOnly_pure signal
  | each collection name progress =>
    refine (failsOnly_render hQ collection).bind fun text =>
      failsOnly_inLoop (failsOnly_passesOver (fun item number => ?_) _ 1)
    exact (Strand.failsOnly_modify _).bind fun _ => hnumbered number
  | whileHolds condition progress =>
    have hwhile : ∀ (otherwise : Strand Signal) left, otherwise.FailsOnly Q →
        (inLoop "while" depth [passName]
          (passesWhile (holds condition) otherwise (numbered body) left 1)).FailsOnly Q :=
      fun otherwise left hotherwise => failsOnly_inLoop
        (failsOnly_passesWhile (failsOnly_holds hQ condition) hotherwise hnumbered left 1)
    simp only [repeated]
    split
    · exact hwhile Strand.endless _ trivial
    · next hlimit =>
      have hreached : r.CanFail (.loopLimit r.maxRepeats) := ⟨hlimit, rfl⟩
      exact hwhile _ _ (Strand.failsOnly_fail (hQ _ hreached))

theorem failsOnly_loop (flow : ControlFlow) (op : Operation) (id : String) (depth : Nat)
    {body : Strand Signal} (h : body.FailsOnly Q) :
    (r.loop flow op id depth body).FailsOnly Q := by
  refine failsOnly_condensed _ ((failsOnly_repeated hQ flow depth h).bind fun signal => ?_)
  split
  · exact Strand.failsOnly_pure _
  · exact (failsOnly_setResult id true).bind fun _ => Strand.failsOnly_pure _

/-! ## Operations -/

section

variable {execute : Operation → Strand Signal} (h : ∀ op, (execute op).FailsOnly Q)

include h

theorem failsOnly_handled (op : Operation) (handler : String) :
    (r.handled execute op handler).FailsOnly Q := by
  unfold handled
  split
  · exact Strand.failsOnly_pure _
  · refine FailsOnly.bind ?_ fun _ => Strand.failsOnly_pure _
    unfold follow
    split
    · exact h _
    · exact Strand.failsOnly_fail (hQ _ trivial)

theorem failsOnly_failed (op : Operation) (id : String) (failure : Error) :
    (r.failed execute op id failure).FailsOnly Q := by
  unfold failed
  refine (failsOnly_setResult id false).bind fun _ => (Strand.failsOnly_modify _).bind fun _ => ?_
  split
  · exact failsOnly_handled hQ h op _
  · refine (Strand.failsOnly_write _).bind fun _ =>
      FailsOnly.bind (fun _ hreply => hreply) fun on => ?_
    split
    · exact Strand.failsOnly_pure _
    · exact Strand.failsOnly_fail (hQ _ trivial)

theorem failsOnly_copyOutcome (op : Operation) (source id : String) :
    (r.copyOutcome execute op source id).FailsOnly Q := by
  unfold copyOutcome
  refine FailsOnly.bind (fun _ => Strand.failsOnly_pure _) fun outcome => ?_
  split
  · exact failsOnly_handled hQ h op _
  · exact failsOnly_handled hQ h op _
  · exact Strand.failsOnly_pure _

theorem failsOnly_command (op : Operation) (id : String) (room : Nat) :
    (r.command execute op id room).FailsOnly Q := by
  unfold command
  refine (failsOnly_render hQ op.command).bind fun command =>
    (Strand.failsOnly_write _).bind fun _ => ?_
  split
  · exact failsOnly_startUnit hQ op id command room
  · refine FailsOnly.bind (fun _ => Strand.failsOnly_pure _) fun execution => ?_
    split
    · exact (failsOnly_publishOutput hQ op id _).bind fun _ => failsOnly_handled hQ h op _
    · next failure hfailure =>
      split
      · exact failsOnly_failed hQ h op id _
      · next hno =>
        obtain ⟨reason, rfl⟩ := Execution.eq_system_of_output hfailure (Bool.not_eq_true _ ▸ hno)
        exact Strand.failsOnly_fail (hQ _ trivial)

omit hQ in
theorem failsOnly_inOrder (ops : List Operation) : (inOrder execute ops).FailsOnly Q := by
  induction ops with
  | nil => exact Strand.failsOnly_pure _
  | cons op rest ih => exact failsOnly_orElse (h op) ih

theorem failsOnly_perform (op : Operation) (id : String) (room : Nat) :
    (r.perform execute (inOrder execute) op id room).FailsOnly Q := by
  unfold perform
  split
  · exact failsOnly_loop hQ _ op id _ (failsOnly_inOrder h op.operations)
  · exact failsOnly_copyOutcome hQ h op _ id
  · split
    · exact (failsOnly_setResult id true).bind fun _ => Strand.failsOnly_pure _
    · exact failsOnly_command hQ h op id room

end

/-- Operations come to no other errors than those of the run, if no reply is another one. -/
theorem failsOnly_execute (room : Nat) (op : Operation) : (r.execute room op).FailsOnly Q := by
  induction room generalizing op with
  | zero => exact Strand.failsOnly_fail (hQ _ rfl)
  | succ room ih =>
    rw [execute, Strand.noted_eq]
    have hperform : ∀ id, FailsOnly Q
        (some <$> r.perform (r.execute room) (inOrder (r.execute room)) op id room) :=
      fun id => (failsOnly_perform hQ ih op id room).bind fun _ => Strand.failsOnly_pure _
    refine FailsOnly.continueWith ?_ fun result hresult => hresult.map _
    refine FailsOnly.bind (failsOnly_idOf hQ op) fun id => ?_
    refine FailsOnly.bind (failsOnly_holds hQ op.condition) fun on => ?_
    split
    · refine FailsOnly.bind (failsOnly_askAll hQ op.prompts) fun stops => ?_
      split
      · exact Strand.failsOnly_pure _
      · exact hperform id
    · exact Strand.failsOnly_pure _

end

end Run

end RecipeRunner

import RecipeRunner.Proofs.Run.Turn
/-!
# Turns that follow a handler

Which turns follow a handler, told by the events of the turn: a command that fails is followed by
the failure handler of its operation, a command that is successful by the success handler, and a
copy step follows the handler that the result of its source chooses.

* `commandOutput?`: what the command of an operation has come to in a turn.
* `BreaksOff`: the turns in which an operation does not come to a handler by itself.
* `endsAmong_execute_command`: how a turn of an operation that runs a command goes on.
* `endsAmong_execute_of_failure`: behind a failure the handler is followed and nobody is asked.
* `endsAmong_execute_of_success`, `endsAmong_execute_of_copy`: behind a success too.
-/

namespace RecipeRunner.Run

open Store (SameAt)
open Strand (Moves EndsAmong)

variable {r : Run} {room : Nat} {op target : Operation} {ids : List String} {s : Store}

/-- What the command of an operation has put out, or why it has not, in a turn of the operation. -/
def commandOutput? (op : Operation) (events : List Event) : Option (Except Error String) :=
  (Event.firstCommand? events).map fun (call, execution) => execution.output call op.format

theorem commandOutput?_of_idle (op : Operation) {own : List Event}
    (h : ∀ event ∈ own, event.IsAsked) (told told' : Note) :
    commandOutput? op (.noted told :: (own ++ [.noted told'])) = none := by
  rw [commandOutput?, Event.firstCommand?, Event.firstCommand?_append_of_asked h]
  · rfl
  · simp

theorem commandOutput?_of_command (op : Operation) {own : List Event}
    (h : ∀ event ∈ own, event.IsAsked) (told : Note) (text : Streams) (call : Call)
    (execution : Execution) (rest : List Event) :
    commandOutput? op
      (.noted told :: (own ++ (.reported text :: .command call execution :: rest))) =
      some (execution.output call op.format) := by
  rw [commandOutput?, Event.firstCommand?, Event.firstCommand?_append_of_asked h]
  · rfl
  · simp

/-- The command of an operation is lost in a turn, if it is run, and the turn returns why. -/
def LosesCommand (op : Operation) (turn : List Event) (result : Except Error Signal) : Prop :=
  ∀ outcome, commandOutput? op turn = some outcome →
    ∃ e, e.isCommandFailure = false ∧ outcome = .error e ∧ result = .error e

theorem losesCommand_of_none {turn : List Event} (h : commandOutput? op turn = none)
    (result : Except Error Signal) : LosesCommand op turn result := by
  intro outcome houtcome
  rw [h] at houtcome
  cases houtcome

/-- Turns in which an operation is skipped, is stopped at a prompt, or has an error by itself. -/
inductive BreaksOff (op : Operation) (room : Nat) : List Event → Prop
  | idle {own : List Event} {result : Except Error (Option Signal)} :
    (∀ event ∈ own, event.IsAsked) → IsIdle op result →
      BreaksOff op room (.noted (.started op room) :: (own ++ [.noted (.ending op result)]))
  | error {own : List Event} {e : Error} : (∀ event ∈ own, event.IsOwn) →
      BreaksOff op room (.noted (.started op room) :: (own ++ [.noted (.returned op (.error e))]))

theorem BreaksOff.isOwn {events : List Event} (h : BreaksOff op room events) :
    ∀ event ∈ events.tail.dropLast, event.IsOwn := by
  cases h with
  | idle hown => simpa using fun event hevent => (hown event hevent).isOwn
  | error hown => simpa using hown

/-- A turn of an operation that runs a command breaks off before the command, or it goes on behind
what the command has come to. -/
theorem endsAmong_execute_command (h : op.RunsCommand)
    {post : List Event → Except Error Signal → Store → Prop}
    (hbreaks : ∀ turn result last, LosesCommand op turn result → BreaksOff op room turn →
      post turn result last)
    (hok : ∀ own id raw mid, (∀ event ∈ own, event.IsOwn) →
      (Template.hasTemplate op.id = false → id = op.id) → SameAt ids s mid →
      (r.succeeded (r.execute room) op id raw).EndsAmong (SameAt ids) mid fun events result last =>
        ∀ turn, turn = .noted (.started op room) ::
            (own ++ events ++ [.noted (.returned op result)]) →
          commandOutput? op turn = some (.ok raw) → post turn result last)
    (hfail : ∀ own id failure mid, (∀ event ∈ own, event.IsOwn) →
      (Template.hasTemplate op.id = false → id = op.id) → SameAt ids s mid →
      (r.failed (r.execute room) op id failure).EndsAmong (SameAt ids) mid fun events result last =>
        ∀ turn, turn = .noted (.started op room) ::
            (own ++ events ++ [.noted (.returned op result)]) →
          commandOutput? op turn = some (.error failure) → post turn result last) :
    (r.execute (room + 1) op).EndsAmong (SameAt ids) s post := by
  refine endsAmong_execute ?_ ?_
  · intro own result last hown hidle
    exact hbreaks _ _ _ (losesCommand_of_none (commandOutput?_of_idle op hown _ _) _)
      (.idle hown hidle)
  · intro own id mid hown hid hmid
    rw [perform_of_runsCommand h]
    have hran : ∀ trace call execution, ∀ event ∈
        own ++ [Event.reported trace, .command call execution], event.IsOwn := by
      intro trace call execution event hevent
      simp only [List.mem_append, List.mem_cons, List.not_mem_nil, or_false] at hevent
      rcases hevent with hevent | rfl | rfl
      · exact (hown event hevent).isOwn
      · trivial
      · trivial
    refine endsAmong_command h.mode ?_ ?_ ?_ ?_
    · intro e last
      rw [List.append_nil]
      exact hbreaks _ _ _ (losesCommand_of_none (commandOutput?_of_idle op hown _ _) _)
        (.error fun event hevent => (hown event hevent).isOwn)
    · intro trace call execution raw mid' hraw hmid'
      refine (hok _ id raw mid' (hran trace call execution) hid
        (IsTrans.trans _ _ _ hmid hmid')).mono fun events result last hpost => hpost _ ?_ ?_
      · simp
      · rw [List.append_assoc, List.cons_append, List.cons_append,
          commandOutput?_of_command op hown, hraw]
    · intro trace call execution failure mid' hfailure hmid'
      refine (hfail _ id failure mid' (hran trace call execution) hid
        (IsTrans.trans _ _ _ hmid hmid')).mono fun events result last hpost => hpost _ ?_ ?_
      · simp
      · rw [List.append_assoc, List.cons_append, List.cons_append,
          commandOutput?_of_command op hown, hfailure]
    · intro trace call execution e last he hother
      refine hbreaks _ _ _ (fun outcome houtcome => ?_) (.error (hran trace call execution))
      rw [List.append_assoc, List.cons_append, List.cons_append,
        commandOutput?_of_command op hown, he] at houtcome
      exact ⟨e, hother, (Option.some.inj houtcome).symm, rfl⟩

/-! ## Failures -/

theorem endsAmong_failed {execute : Operation → Strand Signal}
    (hhandler : op.onFailure.isEmpty = false)
    (htarget : r.handlers.get? op.onFailure = some target) (id : String) (failure : Error) :
    (r.failed execute op id failure).EndsAmong (SameAt ids) s fun events result last =>
      ∃ came start, Moves (SameAt ids) (execute target) start events (.done came) last ∧
        result = came.map (·.combine (.ofOperation op)) := by
  unfold failed
  refine endsAmong_setResult_bind fun mid _ => Strand.endsAmong_modify_bind fun mid' _ => ?_
  simp only [hhandler, Bool.not_false, if_true]
  refine (endsAmong_handled hhandler htarget).mono ?_
  rintro events result last ⟨came, hmoves, hresult⟩
  exact ⟨came, _, hmoves, hresult⟩

/-- Where the command of an operation fails that has a failure handler, the handler is followed, and
the operator is not asked. -/
theorem endsAmong_execute_of_failure (h : op.RunsCommand) (hhandler : op.onFailure.isEmpty = false)
    (htarget : r.handlers.get? op.onFailure = some target) :
    (r.execute (room + 1) op).EndsAmong (SameAt ids) s fun turn result _ =>
      ∀ failure, commandOutput? op turn = some (.error failure) →
        failure.isCommandFailure = true → Follows (SameAt ids) r room target op turn result := by
  refine endsAmong_execute_command h ?_ ?_ ?_
  · intro turn result last hloses _ failure hfailure hcommand
    obtain ⟨e, hother, heq, -⟩ := hloses _ hfailure
    obtain rfl := Except.error.inj heq
    cases hother.symm.trans hcommand
  · intro own id raw mid _ _ _ events result last _ turn _ hraw failure hfailure
    rw [hraw] at hfailure
    cases hfailure
  · intro own id failure mid hown _ _
    refine (endsAmong_failed hhandler htarget id failure).mono ?_
    rintro events result last ⟨came, start, hmoves, hresult⟩ turn rfl _ _ _ _
    exact ⟨own, events, came, start, last, rfl, hown, hmoves, hresult⟩

/-! ## Successes -/

/-- Where the command of an operation is successful that has a success handler, the handler is
followed. -/
theorem endsAmong_execute_of_success (h : op.RunsCommand) (hhandler : op.onSuccess.isEmpty = false)
    (htarget : r.handlers.get? op.onSuccess = some target) :
    (r.execute (room + 1) op).EndsAmong (SameAt ids) s fun turn result _ =>
      ∀ raw, commandOutput? op turn = some (.ok raw) → ¬ BreaksOff op room turn →
        Follows (SameAt ids) r room target op turn result := by
  refine endsAmong_execute_command h ?_ ?_ ?_
  · intro turn result last _ hbreaks raw _ hnot
    exact absurd hbreaks hnot
  · intro own id raw mid hown _ _
    have hpublish : (r.publishOutput op id raw).Does Event.IsReported (SameAt []) :=
      does_publishOutput r (fun _ => trivial) List.not_mem_nil op raw
    refine Strand.endsAmong_bind
      ((hpublish.endsAmong (fun _ _ _ => Store.sameAt_nil _ _) mid).mono ?_)
    rintro reports done mid' ⟨hreports, -⟩
    have hall : ∀ event ∈ own ++ reports, event.IsOwn := by
      intro event hevent
      rcases List.mem_append.1 hevent with hevent | hevent
      · exact hown event hevent
      · exact (hreports event hevent).isOwn
    cases done with
    | error e =>
      rintro turn rfl _ _ _ hnot
      exact absurd (.error hall) hnot
    | ok _ =>
      refine (endsAmong_handled hhandler htarget).mono ?_
      rintro events result last ⟨came, hmoves, hresult⟩ turn rfl _ _ _ _
      refine ⟨own ++ reports, events, came, mid', last, ?_, hall, hmoves, hresult⟩
      simp
  · intro own id failure mid _ _ _ events result last _ turn _ hfailure raw hraw
    rw [hfailure] at hraw
    cases hraw

/-- A copy step follows the success handler where its source has succeeded. -/
theorem endsAmong_execute_of_copy {source : String} (h : op.Copies source) (hsource : source ∈ ids)
    (htrue : s.results.get? source = some true) (hhandler : op.onSuccess.isEmpty = false)
    (htarget : r.handlers.get? op.onSuccess = some target) :
    (r.execute (room + 1) op).EndsAmong (SameAt ids) s fun events result _ =>
      ¬ BreaksOff op room events → Follows (SameAt ids) r room target op events result := by
  refine endsAmong_execute ?_ ?_
  · intro own result last hown hidle hbreaks
    exact absurd (.idle hown hidle) hbreaks
  · intro own id mid hown _ hmid
    rw [perform, h.controlFlow, h.copyFrom]
    refine endsAmong_copyOutcome fun mid' hmid' => ?_
    rw [hmid'.results source hsource, hmid.results source hsource, htrue]
    refine (endsAmong_handled hhandler htarget).mono ?_
    rintro turn result last ⟨came, hmoves, hresult⟩ _
    exact ⟨own, turn, came, _, last, rfl, fun event hevent => (hown event hevent).isOwn, hmoves,
      hresult⟩

end RecipeRunner.Run

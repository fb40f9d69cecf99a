import RecipeRunner.Proofs.Run.Following
/-!
# Outcomes that turns record

What a turn of an operation records under the id of the operation, while others and the handlers
leave it alone.

* `endsAmong_execute_records`: an operation that runs a command records its output and its result.
* `endsAmong_execute_copies`: a copy step records the outcome of its source.
* `Completed`: the turns in which an operation is successful.
* `endsAmong_execute_succeeds`: any operation records there that it is successful.
-/

namespace RecipeRunner

namespace Store

theorem outputs_copyOutcome (s : Store) (source target : String) :
    (s.copyOutcome source target).outputs.get? target =
      (s.outputs.get? source).or (s.outputs.get? target) := by
  have hresult : ∀ (t : Store) (success? : Option Bool),
      (t.withResult target success?).outputs = t.outputs := by
    intro t success?
    cases success? <;> rfl
  rw [copyOutcome_eq, hresult]
  cases s.outputs.get? source with
  | none => rfl
  | some output => simp [withOutput, setOutput]

theorem results_copyOutcome (s : Store) (source target : String) :
    (s.copyOutcome source target).results.get? target =
      (s.results.get? source).or (s.results.get? target) := by
  have houtput : ∀ output? : Option String, (s.withOutput target output?).results = s.results := by
    intro output?
    cases output? <;> rfl
  rw [copyOutcome_eq]
  cases s.results.get? source with
  | none => simp [withResult, houtput]
  | some success => simp [withResult, setResult]

end Store

namespace Run

open Store (SameAt)
open Strand (Moves EndsAmong)

variable {r : Run} {room : Nat} {op : Operation} {id : String} {ids : List String} {s : Store}

/-- The handlers of an operation leave the outcomes of `ids` alone. -/
def HandlersSpare (r : Run) (room : Nat) (ids : List String) (op : Operation) : Prop :=
  ∀ handler ∈ [op.onSuccess, op.onFailure], ∀ target, r.handlers.get? handler = some target →
    (r.execute room target).Spares ids

theorem Apart.handlersSpare {P : Operation → Prop} (h : r.Apart ids P)
    (htargets : ∀ handler ∈ [op.onSuccess, op.onFailure], ∀ target,
      r.handlers.get? handler = some target → P target) : HandlersSpare r room ids op :=
  fun handler hhandler target htarget =>
    spares_execute h room (htargets handler hhandler target htarget)

theorem HandlersSpare.handled (h : HandlersSpare r room ids op) {handler : String}
    (hhandler : handler ∈ [op.onSuccess, op.onFailure]) :
    (r.handled (r.execute room) op handler).Spares ids :=
  spares_handled fun target htarget => h handler hhandler target htarget

/-! ## Turns in a row -/

/-- Turns of operations, one after the other, that are all `Good`. -/
inductive Turns (Good : Operation → List Event → Except Error Signal → Prop)
    (others : Store → Store → Prop) (r : Run) (room : Nat) : List Operation → Store → Store → Prop
  | nil (s : Store) : Turns Good others r room [] s s
  | cons {op : Operation} {ops : List Operation} {s mid last : Store} {turn : List Event}
    {result : Except Error Signal} :
    Moves others (r.execute (room + 1) op) s turn (.done result) mid → Good op turn result →
      Turns Good others r room ops mid last → Turns Good others r room (op :: ops) s last

/-- Turns in which an operation is not skipped and has no error. -/
def Ran (op : Operation) (events : List Event) (result : Except Error Signal) : Prop :=
  ∃ signal, result = .ok signal ∧ events.getLast? = some (.noted (.returned op (.ok signal)))

/-! ## Commands -/

theorem endsAmong_publishOutput (hne : id.isEmpty = false) (op : Operation) (raw : String) :
    (r.publishOutput op id raw).EndsAmong (SameAt ids) s fun _ result last =>
      ∀ done, result = .ok done →
        ∃ output, SameAt ids ((s.setOutput id output).setResult id true) last := by
  unfold publishOutput
  refine Strand.endsAmong_bind (((does_transformed op raw).endsAmong_quiet s).mono ?_)
  rintro _ text mid ⟨rfl, hmid⟩
  cases text with
  | error e => simp
  | ok text =>
    simp only [hne, Bool.not_false, if_true]
    refine Strand.endsAmong_modify_bind fun mid' hmid' =>
      Strand.endsAmong_modify_bind fun mid'' hmid'' => ?_
    have hreport : Strand.Spares ids
        (if !op.isSilent && !(Text.trimmed text).isEmpty && !op.mode.isAttached then
          r.emit (Text.trimmed text) else pure ()) := by
      split
      · exact does_emit r (fun _ => trivial) _
      · exact Strand.does_pure ()
    refine (hreport.endsAmong (fun _ _ h => h) _).mono ?_
    rintro _ result last ⟨-, hlast⟩ _ _
    have houtput := (IsTrans.trans _ _ _ hmid hmid').setOutput id (Text.trimmed text)
    have hresult := (IsTrans.trans _ _ _ houtput hmid'').setResult id true
    exact ⟨_, IsTrans.trans _ _ _ hresult hlast⟩

theorem endsAmong_failed_records (hne : id.isEmpty = false)
    (hhandlers : HandlersSpare r room ids op) (failure : Error) :
    (r.failed (r.execute room) op id failure).EndsAmong (SameAt ids) s
      fun _ _ last => SameAt ids (s.setResult id false) last := by
  unfold failed
  refine endsAmong_setResult_bind fun mid hmid => ?_
  rw [hne, if_neg Bool.false_ne_true]
  have hrest : Strand.Spares ids (do
      setVar "error" (.str failure.failureMessage)
      if !op.onFailure.isEmpty then r.handled (r.execute room) op op.onFailure
      else
        Strand.write (r.console.failure op.label failure.failureMessage)
        if ← goesOn op.label failure.failureMessage then pure (.ofOperation op)
        else Strand.fail .userAborted) := by
    refine Strand.does_bind (does_setVar _ _) fun _ => ?_
    split
    · exact hhandlers.handled (by simp)
    · refine Strand.does_bind (Strand.does_write trivial) fun _ =>
        Strand.does_bind (fun _ => ⟨trivial, Strand.does_ofExcept _⟩) fun on => ?_
      split
      · exact Strand.does_pure _
      · exact Strand.does_fail _
  refine (hrest.endsAmong (fun _ _ h => h) _).mono ?_
  rintro _ result last ⟨-, hlast⟩
  exact IsTrans.trans _ _ _ (hmid.setResult id false) hlast

/-- An operation that runs a command records under its id what has come of it. -/
theorem endsAmong_execute_records (h : op.RunsCommand) (hplain : Template.hasTemplate op.id = false)
    (hne : op.id.isEmpty = false) (hhandlers : HandlersSpare r room ids op) :
    (r.execute (room + 1) op).EndsAmong (SameAt ids) s fun turn result last =>
      ∀ outcome signal, commandOutput? op turn = some outcome → result = .ok signal →
        match outcome with
        | .ok _ => ∃ output, SameAt ids ((s.setOutput op.id output).setResult op.id true) last
        | .error _ => SameAt ids (s.setResult op.id false) last := by
  refine endsAmong_execute_command h ?_ ?_ ?_
  · intro turn result last hloses _ outcome signal houtcome hresult
    obtain ⟨e, -, -, herror⟩ := hloses outcome houtcome
    cases herror.symm.trans hresult
  · intro own id raw mid _ hid hmid
    obtain rfl := hid hplain
    refine Strand.endsAmong_bind ((endsAmong_publishOutput hne op raw).mono ?_)
    intro reports done mid' hpublished
    cases done with
    | error e =>
      intro turn _ _ outcome signal _ hresult
      cases hresult
    | ok a =>
      obtain ⟨output, houtput⟩ := hpublished a rfl
      have hhandled : (r.handled (r.execute room) op op.onSuccess).Spares ids :=
        hhandlers.handled (by simp)
      refine (hhandled.endsAmong (fun _ _ h => h) _).mono ?_
      rintro events result last ⟨-, hlast⟩ turn _ hraw outcome _ houtcome _
      obtain rfl := Option.some.inj (hraw.symm.trans houtcome)
      have hsame := (hmid.setOutput op.id output).setResult op.id true
      exact ⟨output, IsTrans.trans _ _ _ (IsTrans.trans _ _ _ hsame houtput) hlast⟩
  · intro own id failure mid _ hid hmid
    obtain rfl := hid hplain
    refine (endsAmong_failed_records hne hhandlers failure).mono ?_
    intro events result last hlast turn _ hfailure outcome _ houtcome _
    obtain rfl := Option.some.inj (hfailure.symm.trans houtcome)
    exact IsTrans.trans _ _ _ (hmid.setResult op.id false) hlast

/-! ## Copy steps -/

theorem ne_returned_of_isIdle {result : Except Error (Option Signal)} (h : IsIdle op result)
    (hprompts : op.prompts = []) (signal : Signal) :
    Note.ending op result ≠ .returned op (.ok signal) := by
  rcases result with e | _ | _ | _ | _
  · simp [Note.ending]
  · simp [Note.ending]
  · exact h.elim
  · exact h.elim
  · exact absurd hprompts h

/-- A copy step that is not skipped records under its id the outcome of its source. -/
theorem endsAmong_execute_copies {source : String} (h : op.Copies source) (hsource : source ∈ ids)
    (hplain : Template.hasTemplate op.id = false) (hne : op.id.isEmpty = false)
    (hhandlers : HandlersSpare r room ids op) :
    (r.execute (room + 1) op).EndsAmong (SameAt ids) s fun events result last =>
      Ran op events result → SameAt ids (s.copyOutcome source op.id) last := by
  refine endsAmong_execute ?_ ?_
  · rintro own result last _ hidle ⟨signal, -, hran⟩
    rw [← List.cons_append, List.getLast?_concat] at hran
    exact absurd (Event.noted.inj (Option.some.inj hran)) (ne_returned_of_isIdle hidle h.prompts _)
  · intro own id mid _ hid hmid
    obtain rfl := hid hplain
    rw [perform, h.controlFlow, h.copyFrom]
    refine endsAmong_copyOutcome fun mid' hmid' => ?_
    rw [hne, if_neg Bool.false_ne_true]
    have hrest : (r.behindCopy (r.execute room) op (mid'.results.get? source)).Spares ids := by
      rcases mid'.results.get? source with - | success
      · exact Strand.does_pure _
      · cases success with
        | true => exact hhandlers.handled (by simp)
        | false => exact hhandlers.handled (by simp)
    refine (hrest.endsAmong (fun _ _ h => h) _).mono ?_
    rintro _ _ last ⟨-, hlast⟩ _
    exact IsTrans.trans _ _ _ ((IsTrans.trans _ _ _ hmid hmid').copyOutcome hsource op.id) hlast

/-! ## Loops -/

theorem endsAmong_condensed {α : Type} {on : Bool} {body : Strand α}
    {post : Except Error α → Store → Prop}
    (hbody : ∀ mid, body.EndsAmong (SameAt ids) mid fun _ => post)
    (hpost : ∀ result mid last, post result mid → SameAt ids mid last → post result last) :
    (r.condensed on body).EndsAmong (SameAt ids) s fun _ => post := by
  unfold condensed
  split
  · refine Strand.endsAmong_update fun before _ => Strand.endsAmong_always ((hbody _).mono ?_)
    intro _ result mid hresult
    have hcleanup : Strand.Spares ids (do
        Strand.modify (·.setProgress before.progress)
        if before.progress then pure () else Strand.write r.console.endCondensed) := by
      refine Strand.does_bind (Strand.does_modify fun _ => Store.sameAt_of_eq rfl rfl) fun _ => ?_
      split
      · exact Strand.does_pure ()
      · exact Strand.does_write trivial
    refine (hcleanup.endsAmong (fun _ _ h => h) mid).mono ?_
    rintro _ _ last ⟨-, hlast⟩
    exact hpost _ _ _ hresult hlast
  · exact hbody s

/-- A loop that does not end the recipe records that it is successful. -/
theorem endsAmong_loop (hne : id.isEmpty = false) (hid : id ∈ ids) (flow : ControlFlow)
    (op : Operation) (depth : Nat) (body : Strand Signal) :
    (r.loop flow op id depth body).EndsAmong (SameAt ids) s fun _ result last =>
      result = .ok .next → last.results.get? id = some true := by
  refine endsAmong_condensed (fun mid => ?_) fun _ _ last htrue hlast hresult =>
    (hlast.results id hid).trans (htrue hresult)
  refine Strand.endsAmong_bind ((Strand.endsAmong_self (r.repeated flow depth body) mid).mono ?_)
  intro _ signal mid' _
  have hrecords : Strand.EndsAmong (SameAt ids) (do setResult id true; pure (.ofOperation op)) mid'
      fun _ (_ : Except Error Signal) last => last.results.get? id = some true := by
    refine endsAmong_setResult_bind fun mid'' _ => Strand.endsAmong_pure fun last hlast => ?_
    rw [hlast.results id hid, hne, if_neg Bool.false_ne_true]
    simp [Store.setResult]
  cases signal with
  | error e =>
    intro hresult
    cases hresult
  | ok signal =>
    cases signal with
    | exit =>
      refine Strand.endsAmong_pure fun _ _ hresult => ?_
      cases hresult
    | next | stop => exact hrecords.mono fun _ _ _ h _ => h

/-! ## Successful turns -/

/-- Turns in which an operation comes to its end without a signal and its command, if it runs one,
is successful. -/
structure Completed (op : Operation) (events : List Event) (result : Except Error Signal) :
    Prop where
  result : result = .ok .next
  returned : events.getLast? = some (.noted (.returned op (.ok .next)))
  successful : op.RunsCommand → ∃ raw, commandOutput? op events = some (.ok raw)

/-- What is neither a loop nor a copy step and has no command records that it is successful. -/
theorem endsAmong_execute_of_blank (hflow : op.controlFlow = none) (hcopy : op.copyFrom = none)
    (hblank : Text.isAllBlank op.command = true) (hplain : Template.hasTemplate op.id = false)
    (hne : op.id.isEmpty = false) (hid : op.id ∈ ids) :
    (r.execute (room + 1) op).EndsAmong (SameAt ids) s fun events _ last =>
      events.getLast? = some (.noted (.returned op (.ok .next))) →
        last.results.get? op.id = some true := by
  refine endsAmong_execute ?_ ?_
  · intro own result last _ hidle hran
    rw [← List.cons_append, List.getLast?_concat] at hran
    exact absurd (Event.noted.inj (Option.some.inj hran)) hidle.ending_ne
  · intro own id mid _ hplainId _
    obtain rfl := hplainId hplain
    rw [perform, hflow, hcopy]
    dsimp only
    rw [if_pos hblank]
    refine endsAmong_setResult_bind fun mid' _ => Strand.endsAmong_pure fun last hlast _ => ?_
    rw [hlast.results _ hid, hne, if_neg Bool.false_ne_true]
    simp [Store.setResult]

theorem endsAmong_execute_of_loop {flow : ControlFlow} (hflow : op.controlFlow = some flow)
    (hplain : Template.hasTemplate op.id = false) (hne : op.id.isEmpty = false)
    (hid : op.id ∈ ids) :
    (r.execute (room + 1) op).EndsAmong (SameAt ids) s fun events result last =>
      result = .ok .next → events.getLast? = some (.noted (.returned op (.ok .next))) →
        last.results.get? op.id = some true := by
  refine endsAmong_execute ?_ ?_
  · intro own result last _ hidle _ hran
    rw [← List.cons_append, List.getLast?_concat] at hran
    exact absurd (Event.noted.inj (Option.some.inj hran)) hidle.ending_ne
  · intro own id mid _ hplainId _
    obtain rfl := hplainId hplain
    rw [perform, hflow]
    exact (endsAmong_loop hne hid flow op _ _).mono fun _ _ _ htrue hresult _ => htrue hresult

/-- In a completed turn an operation records under its id that it is successful, whatever it is for.
A copy step does if its source is. -/
theorem endsAmong_execute_succeeds (hmode : op.mode ≠ .background)
    (hplain : Template.hasTemplate op.id = false) (hne : op.id.isEmpty = false) (hid : op.id ∈ ids)
    (hhandlers : HandlersSpare r room ids op)
    (hcopy : ∀ source, op.copyFrom = some source →
      op.Copies source ∧ source ∈ ids ∧ s.results.get? source = some true) :
    (r.execute (room + 1) op).EndsAmong (SameAt ids) s fun events result last =>
      Completed op events result → last.results.get? op.id = some true := by
  cases hflow : op.controlFlow with
  | some flow =>
    exact (endsAmong_execute_of_loop hflow hplain hne hid).mono
      fun _ _ _ h hcompleted => h hcompleted.result hcompleted.returned
  | none =>
    cases hfrom : op.copyFrom with
    | some source =>
      obtain ⟨hcopies, hsource, htrue⟩ := hcopy source hfrom
      refine (endsAmong_execute_copies hcopies hsource hplain hne hhandlers).mono ?_
      intro _ _ last hcopied hcompleted
      have hsame := hcopied ⟨_, hcompleted.result, hcompleted.returned⟩
      rw [hsame.results _ hid, Store.results_copyOutcome, htrue, Option.some_or]
    | none =>
      cases hblank : Text.isAllBlank op.command with
      | true =>
        exact (endsAmong_execute_of_blank hflow hfrom hblank hplain hne hid).mono
          fun _ _ _ h hcompleted => h hcompleted.returned
      | false =>
        have hruns : op.RunsCommand := ⟨hflow, hfrom, hblank, hmode⟩
        refine (endsAmong_execute_records hruns hplain hne hhandlers).mono ?_
        intro _ _ last hrecords hcompleted
        obtain ⟨raw, hraw⟩ := hcompleted.successful hruns
        obtain ⟨output, hsame⟩ := hrecords _ _ hraw hcompleted.result
        rw [hsame.results _ hid]
        simp [Store.setResult]

end Run

end RecipeRunner

import RecipeRunner.Proofs.Recipe.Copying
import RecipeRunner.Proofs.Run.Sparing
/-!
# Turns of operations

What one operation does among others, from its start to its return.  By itself it asks prompts, runs
at most one command and reports; then it may follow a handler, whose operation has a turn of its own
inside, and last it returns.

* `endsAmong_execute`: a turn is idle, or it performs what the operation is for.
* `endsAmong_command`: a command in the foreground succeeds or fails.
* `Follows`: the turns in which a handler is followed.
-/

namespace RecipeRunner

namespace Event

/-- A prompt is asked. -/
def IsAsked : Event → Prop
  | asked .. => True
  | _ => False

/-- Something is reported. -/
def IsReported : Event → Prop
  | reported _ => True
  | _ => False

/-- What an operation does by itself: it asks, it runs commands and it reports. -/
def IsOwn : Event → Prop
  | asked .. | command .. | reported _ => True
  | _ => False

theorem IsAsked.isOwn {event : Event} (h : event.IsAsked) : event.IsOwn := by
  cases event with
  | asked => trivial
  | _ => exact h.elim

theorem IsReported.isOwn {event : Event} (h : event.IsReported) : event.IsOwn := by
  cases event with
  | reported => trivial
  | _ => exact h.elim

/-- The first command of events, with what has come of it. -/
def firstCommand? : List Event → Option (Call × Execution)
  | [] => none
  | command call execution :: _ => some (call, execution)
  | _ :: rest => firstCommand? rest

theorem firstCommand?_append_of_asked {own : List Event} (h : ∀ event ∈ own, event.IsAsked)
    (rest : List Event) : firstCommand? (own ++ rest) = firstCommand? rest := by
  induction own with
  | nil => rfl
  | cons event own ih =>
    have hevent := h event List.mem_cons_self
    have hown := ih fun event hevent => h event (List.mem_cons_of_mem _ hevent)
    cases event with
    | asked => exact hown
    | _ => exact hevent.elim

end Event

namespace Run

open Store (SameAt)
open Strand (Moves)

variable {r : Run} {room : Nat} {op : Operation} {ids : List String} {s : Store}

/-! ## Turns -/

theorem endsAmong_idOf (op : Operation) (s : Store) :
    (idOf op).EndsAmong (SameAt ids) s fun events result mid => events = [] ∧ SameAt ids s mid ∧
      (Template.hasTemplate op.id = false → result = .ok op.id) := by
  intro events result mid hmoves
  obtain ⟨hevents, hmid⟩ := (does_idOf op).endsAmong_quiet s _ _ _ hmoves
  refine ⟨hevents, hmid, fun hplain => ?_⟩
  rw [idOf, if_neg (by simp [hplain])] at hmoves
  have hpure : (pure op.id : Strand String).EndsAmong (SameAt ids) s
      fun _ result _ => result = .ok op.id := Strand.endsAmong_pure fun _ _ => rfl
  exact hpure _ _ _ hmoves

/-- A turn that ends before it comes to what the operation is for: the operation is skipped or
stopped at a prompt, or it fails. -/
def IsIdle (op : Operation) : Except Error (Option Signal) → Prop
  | .ok none | .error _ => True
  | .ok (some .exit) => op.prompts ≠ []
  | .ok (some _) => False

theorem IsIdle.ending_ne {result : Except Error (Option Signal)} (h : IsIdle op result) :
    Note.ending op result ≠ .returned op (.ok .next) := by
  rcases result with e | _ | _ | _ | _
  · simp [Note.ending]
  · simp [Note.ending]
  · exact h.elim
  · exact h.elim
  · simp [Note.ending]

theorem endsAmong_askAll (specs : List PromptSpec) (s : Store) :
    (askAll specs).EndsAmong (SameAt ids) s fun own stops mid =>
      (∀ event ∈ own, event.IsAsked) ∧ SameAt ids s mid ∧ (specs = [] → stops = .ok false) := by
  have hasks : (askAll specs).Does Event.IsAsked (SameAt ids) :=
    does_askAll (fun _ _ => trivial) specs
  have hnone : (askAll specs).EndsAmong (SameAt ids) s fun _ stops _ =>
      specs = [] → stops = .ok false := by
    cases specs with
    | nil => exact Strand.endsAmong_pure fun _ _ _ => rfl
    | cons spec rest => exact fun _ _ _ _ hnil => absurd hnil (List.cons_ne_nil spec rest)
  exact ((hasks.endsAmong (fun _ _ h => h) s).and hnone).mono fun _ _ _ h => ⟨h.1.1, h.1.2, h.2⟩

/-- A turn is idle, or it performs what the operation is for, under its id. -/
theorem endsAmong_execute {post : List Event → Except Error Signal → Store → Prop}
    (hidle : ∀ own result last, (∀ event ∈ own, event.IsAsked) → IsIdle op result →
      post (.noted (.started op room) :: (own ++ [.noted (.ending op result)]))
        (result.map (·.getD .next)) last)
    (hperform : ∀ own id mid, (∀ event ∈ own, event.IsAsked) →
      (Template.hasTemplate op.id = false → id = op.id) → SameAt ids s mid →
      (r.perform (r.execute room) (inOrder (r.execute room)) op id room).EndsAmong (SameAt ids) mid
        fun events result last => post
          (.noted (.started op room) :: (own ++ events ++ [.noted (.returned op result)]))
          result last) :
    (r.execute (room + 1) op).EndsAmong (SameAt ids) s post := by
  rw [execute, Strand.noted_eq]
  refine Strand.endsAmong_note (Strand.endsAmong_continueWith ?_)
  suffices hbody : Strand.EndsAmong (SameAt ids) (do
      let id ← idOf op
      if ← holds op.condition then
        if ← askAll op.prompts then pure (some .exit)
        else some <$> r.perform (r.execute room) (inOrder (r.execute room)) op id room
      else pure none) s fun before result mid =>
        post (.noted (.started op room) :: (before ++ [.noted (.ending op result)]))
          (result.map (·.getD .next)) mid by
    refine hbody.later.mono fun before result mid hpost => ?_
    exact Strand.endsAmong_note (Strand.endsAmong_done hpost)
  refine Strand.endsAmong_bind ((endsAmong_idOf op s).mono ?_)
  rintro _ id mid ⟨rfl, hmid, hid⟩
  cases id with
  | error e => exact hidle [] (.error e) mid (by simp) trivial
  | ok id =>
    have hplain : Template.hasTemplate op.id = false → id = op.id := fun h => Except.ok.inj (hid h)
    refine Strand.endsAmong_bind (((does_holds op.condition).endsAmong_quiet mid).mono ?_)
    rintro _ on mid' ⟨rfl, hmid'⟩
    cases on with
    | error e => exact hidle [] (.error e) mid' (by simp) trivial
    | ok on =>
      dsimp only
      split
      · refine Strand.endsAmong_bind ((endsAmong_askAll op.prompts mid').mono ?_)
        rintro own stops before ⟨hown, hbefore, hnone⟩
        cases stops with
        | error e => exact hidle own (.error e) before hown trivial
        | ok stops =>
          dsimp only
          split
          · next hstops =>
            subst hstops
            refine Strand.endsAmong_pure fun last _ => ?_
            have := hidle own (.ok (some .exit)) last hown fun hprompts => by cases hnone hprompts
            simpa using this
          · have hsame := IsTrans.trans _ _ _ (IsTrans.trans _ _ _ hmid hmid') hbefore
            refine Strand.endsAmong_bind ((hperform own id before hown hplain hsame).later.mono ?_)
            intro events result last hpost
            cases result with
            | error e => exact hpost last (refl _)
            | ok signal =>
              refine Strand.endsAmong_pure fun last' hlast' => ?_
              have hend := hpost last' hlast'
              simpa [Note.ending, Except.map] using hend
      · refine Strand.endsAmong_pure fun last _ => ?_
        exact hidle [] (.ok none) last (by simp) trivial

theorem endsAmong_setResult_bind {α : Type} {id : String} {success : Bool} {k : Unit → Strand α}
    {post : List Event → Except Error α → Store → Prop}
    (h : ∀ mid, SameAt ids s mid → (k ()).EndsAmong (SameAt ids)
      (if id.isEmpty then mid else mid.setResult id success) post) :
    (setResult id success >>= k).EndsAmong (SameAt ids) s post := by
  unfold setResult
  split at h
  · next hempty =>
    rw [if_pos hempty]
    exact h s (refl s)
  · next hempty =>
    rw [if_neg hempty]
    exact Strand.endsAmong_modify_bind h

/-! ## Commands -/

theorem perform_of_runsCommand (h : op.RunsCommand) (execute : Operation → Strand Signal)
    (executeAll : List Operation → Strand Signal) (id : String) (room : Nat) :
    r.perform execute executeAll op id room = r.command execute op id room := by
  rw [perform]
  simp only [h.controlFlow, h.copyFrom, h.command, Bool.false_eq_true, if_false]

/-- A command in the foreground succeeds or fails, unless it cannot be rendered or is lost. -/
theorem endsAmong_command (hmode : op.mode ≠ .background) {execute : Operation → Strand Signal}
    {id : String} {post : List Event → Except Error Signal → Store → Prop}
    (herror : ∀ e last, post [] (.error e) last)
    (hok : ∀ trace call execution raw mid, execution.output call op.format = .ok raw →
      SameAt ids s mid → (r.succeeded execute op id raw).EndsAmong (SameAt ids) mid fun events =>
        post (.reported trace :: .command call execution :: events))
    (hfail : ∀ trace call execution failure mid,
      execution.output call op.format = .error failure → SameAt ids s mid →
        (r.failed execute op id failure).EndsAmong (SameAt ids) mid fun events =>
          post (.reported trace :: .command call execution :: events))
    (hlost : ∀ trace call execution e last, execution.output call op.format = .error e →
      e.isCommandFailure = false →
      post [.reported trace, .command call execution] (.error e) last) :
    (r.command execute op id room).EndsAmong (SameAt ids) s post := by
  unfold command
  refine Strand.endsAmong_bind (((does_render op.command).endsAmong_quiet s).mono ?_)
  rintro _ text mid ⟨rfl, hmid⟩
  cases text with
  | error e => exact herror e mid
  | ok text =>
    dsimp only
    rw [if_neg hmode]
    refine Strand.endsAmong_report (Strand.endsAmong_command fun execution => ?_)
    simp only [Strand.pure_def, Strand.continueWith]
    split
    · next raw hraw => exact hok _ _ execution raw mid hraw hmid
    · next failure hfailure =>
      split
      · exact hfail _ _ execution failure mid hfailure hmid
      · next hother =>
        exact Strand.endsAmong_done fun last _ =>
          hlost _ _ execution failure last hfailure (Bool.not_eq_true _ ▸ hother)

/-- How a copy step goes on behind a result that it has copied. -/
def behindCopy (r : Run) (execute : Operation → Strand Signal) (op : Operation) :
    Option Bool → Strand Signal
  | some true => r.handled execute op op.onSuccess
  | some false => r.handled execute op op.onFailure
  | none => pure (.ofOperation op)

theorem copyOutcome_eq (r : Run) (execute : Operation → Strand Signal) (op : Operation)
    (source id : String) : r.copyOutcome execute op source id =
      .update (fun s => if id.isEmpty then s else s.copyOutcome source id)
        fun s => r.behindCopy execute op (s.results.get? source) := by
  unfold copyOutcome
  refine congrArg (Strand.update _) (funext fun s => ?_)
  simp only [Strand.pure_def, Strand.continueWith]
  rcases s.results.get? source with - | _ | _
  · rfl
  · rfl
  · rfl

/-- A copy step looks at the outcome of its source when it copies it. -/
theorem endsAmong_copyOutcome {execute : Operation → Strand Signal} {source id : String}
    {post : List Event → Except Error Signal → Store → Prop}
    (h : ∀ mid, SameAt ids s mid →
      (r.behindCopy execute op (mid.results.get? source)).EndsAmong (SameAt ids)
        (if id.isEmpty then mid else mid.copyOutcome source id) post) :
    (r.copyOutcome execute op source id).EndsAmong (SameAt ids) s post := by
  rw [copyOutcome_eq]
  exact Strand.endsAmong_update h

/-! ## Handlers -/

/-- A handler is followed: behind what the operation does by itself its target has one turn, and the
operation returns the stronger one of the signals. -/
def Follows (others : Store → Store → Prop) (r : Run) (room : Nat) (target op : Operation)
    (events : List Event) (result : Except Error Signal) : Prop :=
  ∃ own turn came start last,
    events = .noted (.started op room) :: own ++ turn ++ [.noted (.returned op result)] ∧
    (∀ event ∈ own, event.IsOwn) ∧
    Moves others (r.execute room target) start turn (.done came) last ∧
    result = came.map (·.combine (.ofOperation op))

variable {execute : Operation → Strand Signal}

theorem handled_eq {handler : String} {target : Operation} (hhandler : handler.isEmpty = false)
    (htarget : r.handlers.get? handler = some target) : r.handled execute op handler =
      execute target >>= fun signal => pure (signal.combine (.ofOperation op)) := by
  simp [handled, follow, hhandler, htarget]

theorem endsAmong_handled {handler : String} {target : Operation}
    (hhandler : handler.isEmpty = false) (htarget : r.handlers.get? handler = some target) :
    (r.handled execute op handler).EndsAmong (SameAt ids) s fun events result last => ∃ came,
      Moves (SameAt ids) (execute target) s events (.done came) last ∧
        result = came.map (·.combine (.ofOperation op)) := by
  rw [handled_eq hhandler htarget]
  refine Strand.endsAmong_bind ((Strand.endsAmong_self (execute target) s).later.mono ?_)
  intro events came mid hmoves
  cases came with
  | error e => exact ⟨_, hmoves mid (refl _), rfl⟩
  | ok signal =>
    refine Strand.endsAmong_pure fun last hlast => ?_
    rw [List.append_nil]
    exact ⟨_, hmoves last hlast, rfl⟩

end Run

end RecipeRunner

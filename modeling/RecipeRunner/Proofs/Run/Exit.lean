import RecipeRunner.Proofs.Run.Interleaving
import RecipeRunner.Proofs.Run.Parts
import RecipeRunner.Proofs.Run.Unwinding
import RecipeRunner.Run.Outcome
/-!
# The end of a recipe

The signal to end the recipe is passed on by everything that runs operations: handlers combine it
with the signal of their operation, lists and the three kinds of loops stop at it, and the recipe
stops at it, whatever the background units do meanwhile.

* `execute_passesExit`: operations pass the signal on, at whatever depth it is raised.
* `exit_ends_recipe`: behind the signal the run does nothing more of the recipe and ends with it,
  and it ends with it only if it was raised.
* `Recipe.exited_iff`: what this says of the schedule that is run.
-/

namespace RecipeRunner

namespace Signal

theorem exitsRecipe_of_ofOperation {op : Operation} (h : ofOperation op = exit) :
    op.exitsRecipe = true := by
  unfold ofOperation at h
  split at h
  · next hexits => exact hexits
  · split at h <;> cases h

theorem combine_eq_exit {a b : Signal} (h : a.combine b = exit) : a = exit ∨ b = exit := by
  cases a <;> cases b <;> simp_all [combine, strength]

end Signal

namespace Run

open Strand (PassesExit)
open Store (Kept)

variable {own : Prop}

theorem passesExit_own (op : Operation) :
    PassesExit (op.exitsRecipe = true) (· = .exit) (pure (.ofOperation op) : Strand Signal) :=
  Strand.passesExit_pure Signal.exitsRecipe_of_ofOperation

/-! ## Prompts -/

theorem passesExit_askOne (spec : PromptSpec) : PassesExit own (· = true) (askOne spec) := by
  have hmessage : (messageOf spec).Plain (Kept []) := plain_messageOf spec
  have hvalue : ∀ v, PassesExit own (· = true) (keepAnswer spec (.value v)) := fun v =>
    Strand.passesExit_update fun _ => Strand.passesExit_pure nofun
  refine hmessage.passesExit_bind fun message =>
    ⟨⟨fun answer => ?_, Strand.unwinds_pure rfl⟩, fun answer => ?_⟩
  · match answer with
    | .error e => rfl
    | .ok .exit => rfl
    | .ok (.value v) => exact (hvalue v).heeds
  · match answer with
    | .error e => exact .inr nofun
    | .ok .exit => exact .inl trivial
    | .ok (.value v) => exact .inr (hvalue v).raises

theorem passesExit_askAll (specs : List PromptSpec) :
    PassesExit own (· = true) (askAll specs) := by
  induction specs with
  | nil => exact Strand.passesExit_pure nofun
  | cons spec rest ih =>
    refine Strand.passesExit_bind (passesExit_askOne spec) (fun stops hstops => ?_)
      fun stops hstops => ?_
    · cases stops with
      | true => exact absurd rfl hstops
      | false => exact ih
    · obtain rfl := hstops
      exact Strand.unwinds_pure rfl

/-! ## Loops -/

theorem passesExit_inLoop {α : Type} {exits : α → Prop} {kind : String} {depth : Nat}
    {names : List String} {body : Strand α} (h : PassesExit own exits body) :
    PassesExit own exits (inLoop kind depth names body) := by
  refine Strand.passesExit_update fun key => Strand.passesExit_update fun values =>
    Strand.passesExit_always h ?_
  exact fun _ _ => ⟨rfl, (), rfl, trivial⟩

theorem passesExit_condensed {α : Type} {exits : α → Prop} (r : Run) (on : Bool)
    {body : Strand α} (h : PassesExit own exits body) :
    PassesExit own exits (r.condensed on body) := by
  unfold condensed
  split
  · refine Strand.passesExit_update fun before => Strand.passesExit_always h fun _ => ?_
    cases before with
    | true => exact Strand.unwinds_pure trivial
    | false => exact Strand.unwinds_pure trivial
  · exact h

/-- Passes go on only behind a signal to go on. -/
theorem passesExit_orElse {s next : Strand Signal} (h : PassesExit own (· = .exit) s)
    (hnext : PassesExit own (· = .exit) next) :
    PassesExit own (· = .exit) (do
      match ← s with
      | .next => next
      | signal => pure signal) := by
  refine Strand.passesExit_bind h (fun signal hsignal => ?_) fun signal hsignal => ?_
  · cases signal with
    | next => exact hnext
    | stop => exact Strand.passesExit_pure nofun
    | exit => exact absurd rfl hsignal
  · obtain rfl := hsignal
    exact Strand.unwinds_pure rfl

theorem passesExit_passes {pass : Nat → Strand Signal}
    (h : ∀ number, PassesExit own (· = .exit) (pass number)) (left number : Nat) :
    PassesExit own (· = .exit) (passes pass left number) := by
  induction left generalizing number with
  | zero => exact Strand.passesExit_pure nofun
  | succ left ih => exact passesExit_orElse (h number) (ih _)

theorem passesExit_passesOver {pass : String → Nat → Strand Signal}
    (h : ∀ item number, PassesExit own (· = .exit) (pass item number)) (items : List String)
    (number : Nat) : PassesExit own (· = .exit) (passesOver pass items number) := by
  induction items generalizing number with
  | nil => exact Strand.passesExit_pure nofun
  | cons item rest ih => exact passesExit_orElse (h item number) (ih _)

theorem passesExit_passesWhile {condition : Strand Bool} {otherwise : Strand Signal}
    {pass : Nat → Strand Signal} (hcondition : condition.Plain (Kept []))
    (hotherwise : PassesExit own (· = .exit) otherwise)
    (h : ∀ number, PassesExit own (· = .exit) (pass number)) (left number : Nat) :
    PassesExit own (· = .exit) (passesWhile condition otherwise pass left number) := by
  induction left generalizing number with
  | zero =>
    refine hcondition.passesExit_bind fun on => ?_
    split
    · exact hotherwise
    · exact Strand.passesExit_pure nofun
  | succ left ih =>
    refine hcondition.passesExit_bind fun on => ?_
    split
    · exact passesExit_orElse (h number) (ih _)
    · exact Strand.passesExit_pure nofun

theorem passesExit_numbered {body : Strand Signal} (h : PassesExit own (· = .exit) body)
    (number : Nat) : PassesExit own (· = .exit) (numbered body number) :=
  Strand.passesExit_update fun _ => h

theorem passesExit_repeated (r : Run) (flow : ControlFlow) (depth : Nat) {body : Strand Signal}
    (h : PassesExit own (· = .exit) body) :
    PassesExit own (· = .exit) (r.repeated flow depth body) := by
  have hrender : ∀ template, (render template).Plain (Kept []) := plain_render
  have hwrite : ∀ text, (Strand.write text).Plain (Kept []) := plain_write
  cases flow with
  | counted times name progress bar =>
    simp only [repeated]
    refine (hrender times).passesExit_bind fun text => ?_
    refine (Strand.plain_ofExcept (R := Kept []) _).passesExit_bind fun count =>
      passesExit_inLoop (passesExit_passes (fun number => ?_) count 1)
    refine Strand.passesExit_update fun _ =>
      Strand.passesExit_bind (passesExit_numbered h number) (fun signal hsignal => ?_)
      fun signal hsignal => ?_
    · split
      · exact (hwrite _).passesExit_bind fun _ =>
          Strand.passesExit_pure fun hexit => absurd hexit hsignal
      · exact Strand.passesExit_pure fun hexit => absurd hexit hsignal
    · split
      · exact Strand.unwinds_pure hsignal
      · exact Strand.unwinds_pure hsignal
  | each collection name progress =>
    simp only [repeated]
    refine (hrender collection).passesExit_bind fun text =>
      passesExit_inLoop (passesExit_passesOver (fun item number => ?_) _ 1)
    exact Strand.passesExit_update fun _ => passesExit_numbered h number
  | whileHolds condition progress =>
    simp only [repeated]
    split
    · exact passesExit_inLoop (passesExit_passesWhile (plain_holds condition)
        Strand.passesExit_endless (passesExit_numbered h) _ 1)
    · exact passesExit_inLoop (passesExit_passesWhile (plain_holds condition)
        (Strand.passesExit_fail _) (passesExit_numbered h) _ 1)

/-- The signal of the body counts for more than the own one of the loop. -/
theorem passesExit_loop (r : Run) (flow : ControlFlow) (op : Operation) (id : String) (depth : Nat)
    {body : Strand Signal} (h : PassesExit (op.exitsRecipe = true) (· = .exit) body) :
    PassesExit (op.exitsRecipe = true) (· = .exit) (r.loop flow op id depth body) := by
  have hown : PassesExit (op.exitsRecipe = true) (· = .exit)
      (setResult id true >>= fun _ => pure (Signal.ofOperation op)) := by
    have hresult : (setResult id true).Plain (Kept []) := plain_setResult id true
    exact hresult.passesExit_bind fun _ => passesExit_own op
  refine passesExit_condensed r _ (Strand.passesExit_bind (passesExit_repeated r flow depth h)
    (fun signal hsignal => ?_) fun signal hsignal => ?_)
  · cases signal with
    | next => exact hown
    | stop => exact hown
    | exit => exact absurd rfl hsignal
  · obtain rfl := hsignal
    exact Strand.unwinds_pure rfl

/-! ## Operations -/

section

variable {r : Run} {execute : Operation → Strand Signal}

/-- Whatever a handler signals, the signal to end the recipe is not lost. -/
theorem passesExit_handled (h : ∀ op, PassesExit False (· = .exit) (execute op)) (op : Operation)
    (handler : String) :
    PassesExit (op.exitsRecipe = true) (· = .exit) (r.handled execute op handler) := by
  unfold handled
  split
  · exact passesExit_own op
  · have hfollow : PassesExit (op.exitsRecipe = true) (· = .exit) (r.follow execute handler) := by
      unfold follow
      split
      · exact (h _).mono False.elim
      · exact Strand.passesExit_fail _
    refine Strand.passesExit_bind hfollow (fun signal hsignal => ?_) fun signal hsignal => ?_
    · refine Strand.passesExit_pure fun hexit => ?_
      exact Signal.exitsRecipe_of_ofOperation ((Signal.combine_eq_exit hexit).resolve_left hsignal)
    · obtain rfl := hsignal
      exact Strand.unwinds_pure (Signal.exit_combine _)

theorem passesExit_failed (h : ∀ op, PassesExit False (· = .exit) (execute op)) (op : Operation)
    (id : String) (failure : Error) :
    PassesExit (op.exitsRecipe = true) (· = .exit) (r.failed execute op id failure) := by
  have hresult : (setResult id false).Plain (Kept []) := plain_setResult id false
  have hwrite : ∀ text, (Strand.write text).Plain (Kept []) := plain_write
  have hon : ∀ label failure, (goesOn label failure).Plain (Kept []) := plain_goesOn
  unfold failed
  refine hresult.passesExit_bind fun _ => Strand.passesExit_update fun _ => ?_
  split
  · exact passesExit_handled h op _
  · refine (hwrite _).passesExit_bind fun _ => (hon _ _).passesExit_bind fun on => ?_
    split
    · exact passesExit_own op
    · exact Strand.passesExit_fail _

theorem passesExit_copyOutcome (h : ∀ op, PassesExit False (· = .exit) (execute op))
    (op : Operation) (source id : String) :
    PassesExit (op.exitsRecipe = true) (· = .exit) (r.copyOutcome execute op source id) := by
  refine Strand.passesExit_update fun outcome => ?_
  cases outcome with
  | none => exact passesExit_own op
  | some success =>
    cases success with
    | true => exact passesExit_handled h op _
    | false => exact passesExit_handled h op _

theorem passesExit_startUnit (op : Operation) (id command : String) (room : Nat) :
    PassesExit (op.exitsRecipe = true) (· = .exit) (startUnit op id command room) := by
  unfold startUnit
  split
  · exact Strand.passesExit_fail _
  · refine Strand.passesExit_update fun run => Strand.passesExit_update fun _ =>
      Strand.passesExit_update fun _ => ?_
    exact ⟨(passesExit_own op).heeds, (passesExit_own op).raises⟩

theorem passesExit_command (h : ∀ op, PassesExit False (· = .exit) (execute op)) (op : Operation)
    (id : String) (room : Nat) :
    PassesExit (op.exitsRecipe = true) (· = .exit) (r.command execute op id room) := by
  have hrender : (render op.command).Plain (Kept []) := plain_render op.command
  have hwrite : ∀ text, (Strand.write text).Plain (Kept []) := plain_write
  have hcall : ∀ call, (Strand.command call pure).Plain (Kept []) := fun _ _ => trivial
  refine hrender.passesExit_bind fun command => (hwrite _).passesExit_bind fun _ => ?_
  split
  · exact passesExit_startUnit op id command room
  · refine (hcall _).passesExit_bind fun execution => ?_
    split
    · have hpublish : ∀ raw, (r.publishOutput op id raw).Plain (Kept []) :=
        plain_publishOutput r op id
      exact (hpublish _).passesExit_bind fun _ => passesExit_handled h op _
    · split
      · exact passesExit_failed h op id _
      · exact Strand.passesExit_fail _

theorem passesExit_inOrder (h : ∀ op, PassesExit own (· = .exit) (execute op))
    (ops : List Operation) : PassesExit own (· = .exit) (inOrder execute ops) := by
  induction ops with
  | nil => exact Strand.passesExit_pure nofun
  | cons op rest ih => exact passesExit_orElse (h op) ih

theorem passesExit_perform (h : ∀ op, PassesExit False (· = .exit) (execute op))
    (op : Operation) (id : String) (room : Nat) :
    PassesExit (op.exitsRecipe = true) (· = .exit)
      (r.perform execute (inOrder execute) op id room) := by
  have hresult : (setResult id true).Plain (Kept []) := plain_setResult id true
  unfold perform
  split
  · exact passesExit_loop r _ op id _ ((passesExit_inOrder h op.operations).mono False.elim)
  · exact passesExit_copyOutcome h op _ id
  · split
    · exact hresult.passesExit_bind fun _ => passesExit_own op
    · exact passesExit_command h op id room

end

/-! ## Own signals -/

/-- An operation that is to end the recipe comes to no other signal. -/
def IsOwn (op : Operation) (result : Except Error Signal) : Prop :=
  ∀ signal, result = .ok signal → op.exitsRecipe = true → signal = .exit

theorem isOwn_ofOperation (op : Operation) : IsOwn op (.ok (.ofOperation op)) := by
  intro signal hsignal hexits
  obtain rfl := Except.ok.inj hsignal
  rw [Signal.ofOperation, if_pos hexits]

theorem isOwn_error (op : Operation) (e : Error) : IsOwn op (.error e) :=
  nofun

section

variable {r : Run} {execute : Operation → Strand Signal}

theorem gives_handled (op : Operation) (handler : String) :
    (r.handled execute op handler).Gives (IsOwn op) := by
  unfold handled
  split
  · exact isOwn_ofOperation op
  · refine Strand.gives_bind (isOwn_error op) fun signal => ?_
    intro result hresult hexits
    obtain rfl := Except.ok.inj hresult
    rw [Signal.ofOperation, if_pos hexits, Signal.combine_exit]

theorem gives_failed (op : Operation) (id : String) (failure : Error) :
    (r.failed execute op id failure).Gives (IsOwn op) := by
  unfold failed
  refine Strand.gives_bind (isOwn_error op) fun _ => Strand.gives_bind (isOwn_error op) fun _ => ?_
  split
  · exact gives_handled op _
  · refine Strand.gives_bind (isOwn_error op) fun _ =>
      Strand.gives_bind (isOwn_error op) fun on => ?_
    split
    · exact isOwn_ofOperation op
    · exact isOwn_error op _

theorem gives_copyOutcome (op : Operation) (source id : String) :
    (r.copyOutcome execute op source id).Gives (IsOwn op) := by
  refine Strand.gives_bind (isOwn_error op) fun outcome => ?_
  split
  · exact gives_handled op _
  · exact gives_handled op _
  · exact isOwn_ofOperation op

theorem gives_startUnit (op : Operation) (id command : String) (room : Nat) :
    (startUnit op id command room).Gives (IsOwn op) := by
  unfold startUnit
  split
  · exact isOwn_error op _
  · exact Strand.gives_bind (isOwn_error op) fun _ => Strand.gives_bind (isOwn_error op) fun _ =>
      Strand.gives_bind (isOwn_error op) fun _ => isOwn_ofOperation op

theorem gives_command (op : Operation) (id : String) (room : Nat) :
    (r.command execute op id room).Gives (IsOwn op) := by
  refine Strand.gives_bind (isOwn_error op) fun _ => Strand.gives_bind (isOwn_error op) fun _ => ?_
  split
  · exact gives_startUnit op id _ room
  · refine Strand.gives_bind (isOwn_error op) fun execution => ?_
    split
    · exact Strand.gives_bind (isOwn_error op) fun _ => gives_handled op _
    · split
      · exact gives_failed op id _
      · exact isOwn_error op _

theorem gives_condensed {α : Type} {gives : Except Error α → Prop} (on : Bool) {body : Strand α}
    (herror : ∀ e, gives (.error e)) (h : body.Gives gives) :
    (r.condensed on body).Gives gives := by
  unfold condensed
  split
  · exact Strand.gives_bind herror fun before => Strand.gives_always h _
  · exact h

theorem gives_loop (flow : ControlFlow) (op : Operation) (id : String) (depth : Nat)
    (body : Strand Signal) : (r.loop flow op id depth body).Gives (IsOwn op) := by
  refine gives_condensed _ (isOwn_error op) (Strand.gives_bind (isOwn_error op) fun signal => ?_)
  split
  · exact fun signal hsignal _ => (Except.ok.inj hsignal).symm
  · exact Strand.gives_bind (isOwn_error op) fun _ => isOwn_ofOperation op

theorem gives_perform (executeAll : List Operation → Strand Signal) (op : Operation)
    (id : String) (room : Nat) : (r.perform execute executeAll op id room).Gives (IsOwn op) := by
  unfold perform
  split
  · exact gives_loop _ op id _ _
  · exact gives_copyOutcome op _ id
  · split
    · exact Strand.gives_bind (isOwn_error op) fun _ => isOwn_ofOperation op
    · exact gives_command op id room

end

/-- Operations pass on the signal to end the recipe, and come to it only if it was raised. -/
theorem execute_passesExit (r : Run) (room : Nat) (op : Operation) :
    PassesExit False (· = .exit) (r.execute room op) := by
  induction room generalizing op with
  | zero => exact Strand.passesExit_fail _
  | succ room ih =>
    have hid : (idOf op).Plain (Kept []) := plain_idOf op
    have hcondition : (holds op.condition).Plain (Kept []) := plain_holds op.condition
    refine Strand.passesExit_noted room (hid.passesExit_bind fun id =>
      hcondition.passesExit_bind fun on => ?_) ?_
    · split
      · refine Strand.passesExit_bind (passesExit_askAll op.prompts) (fun stops hstops => ?_)
          fun stops hstops => ?_
        · rw [if_neg hstops]
          refine Strand.passesExit_bind (passesExit_perform ih op id room)
            (fun signal hsignal => ?_) fun signal hsignal => ?_
          · exact Strand.passesExit_pure fun hexit => absurd (Option.some.inj hexit) hsignal
          · exact Strand.unwinds_pure (congrArg some hsignal)
        · rw [if_pos hstops]
          exact Strand.unwinds_pure rfl
      · exact Strand.passesExit_pure nofun
    · have herror : ∀ e signal, (.error e : Except Error (Option Signal)) = .ok (some signal) →
          op.exitsRecipe = true → signal = .exit := nofun
      refine Strand.gives_bind herror fun id => Strand.gives_bind herror fun on => ?_
      split
      · refine Strand.gives_bind herror fun stops => ?_
        split
        · exact fun signal hsignal _ => (Option.some.inj (Except.ok.inj hsignal)).symm
        · refine Strand.gives_continueWith (gives_perform _ op id room) fun result hresult => ?_
          cases result with
          | ok signal =>
            intro other hother
            exact hresult other (congrArg _ (Option.some.inj (Except.ok.inj hother)))
          | error e => exact herror e
      · exact nofun

theorem recipeStrand_passesExit (r : Run) (ops : List Operation) :
    PassesExit False (· = true) (r.recipeStrand ops) := by
  induction ops with
  | nil => exact Strand.passesExit_pure nofun
  | cons op rest ih =>
    refine Strand.passesExit_bind (execute_passesExit r _ op) (fun signal hsignal => ?_)
      fun signal hsignal => ?_
    · cases signal with
      | next => exact ih
      | stop => exact ih
      | exit => exact absurd rfl hsignal
    · obtain rfl := hsignal
      exact Strand.unwinds_pure rfl

theorem mainStrand_passesExit (r : Run) (ops : List Operation) :
    PassesExit False (· = true) (r.mainStrand ops) :=
  Strand.passesExit_always (recipeStrand_passesExit r ops) (Strand.unwinds_pure trivial)

end Run

/-! ## Interleavings -/

namespace Schedule

variable {σ : Type} {r : Run} {w : Surroundings σ}

/-- The main strand waits for background units. -/
def IsWaiting (s : Schedule σ) : Prop :=
  s.scene.store.inFlight ≠ 0 ∧ ∃ next, s.main.strand = .await next

/-- A run may go on with a step of the main strand. -/
theorem exists_runs_main {s : Schedule σ} {step : Step σ Bool}
    (h : s.main.strand.step? w s.scene = some step) :
    ∃ t : Schedule σ, t.main.strand = step.strand ∧ ∀ {more u}, Runs r w t more u →
      Runs r w s (s.main.strand.events w s.scene ++ more) u :=
  ⟨_, rfl, fun hmore => .main s.main.time (Option.map_eq_some_iff.2 ⟨step, h, rfl⟩) hmore⟩

theorem exists_runs_of_step? {s : Schedule σ} {step : Step σ Bool} {ends : Schedule σ → Prop}
    (h : s.main.strand.step? w s.scene = some step)
    (hrest : ∀ t : Schedule σ, t.main.strand = step.strand →
      ∃ events u, Runs r w t events u ∧ ends u) :
    ∃ events u, Runs r w s events u ∧ ends u := by
  obtain ⟨t, ht, hmain⟩ := exists_runs_main (r := r) h
  obtain ⟨events, u, hruns, hu⟩ := hrest t ht
  exact ⟨_, u, hmain hruns, hu⟩

/-- By itself, a main strand that closes gets as far as the background units let it. -/
theorem exists_runs_of_closes {s : Schedule σ} {ends : Except Error Bool → Prop}
    (h : s.main.strand.Closes ends) :
    ∃ events t, Runs r w s events t ∧
      ((∃ result, ends result ∧ t.main.strand = .done result) ∨ t.IsWaiting) := by
  generalize hmain : s.main.strand = strand at h
  induction strand generalizing s with
  | done result => exact ⟨[], s, .refl s, .inl ⟨result, h, hmain⟩⟩
  | update change next ih =>
    exact exists_runs_of_step? (by rw [hmain]; rfl) fun t ht => ih s.scene.store ht (h _)
  | report text next ih | note told next ih =>
    exact exists_runs_of_step? (by rw [hmain]; rfl) fun t ht => ih ht h
  | await next ih =>
    by_cases hstore : s.scene.store.inFlight = 0
    · have hstep : s.main.strand.step? w s.scene =
          some ⟨next, s.scene, none, Strand.stepDuration⟩ := by
        rw [hmain, Strand.step?, if_pos hstore]
      exact exists_runs_of_step? hstep fun t ht => ih ht h
    · exact ⟨[], s, .refl s, .inr ⟨hstore, next, hmain⟩⟩
  | endless | command | ask | confirm | launch => exact h.elim

theorem exists_runs_of_unwinds {s : Schedule σ} {exits : Bool → Prop} {stack : List Operation}
    (h : s.main.strand.Unwinds exits stack) :
    ∃ events t, Runs r w s events t ∧
      ((∃ a, exits a ∧ t.main.strand = .done (.ok a)) ∨ t.IsWaiting) := by
  obtain ⟨events, t, hruns, hend⟩ := exists_runs_of_closes (r := r) (w := w) h.closes
  refine ⟨events, t, hruns, hend.imp_left ?_⟩
  rintro ⟨_, ⟨a, rfl, ha⟩, hdone⟩
  exact ⟨a, ha, hdone⟩

/-- Once an operation of the main strand returns the signal to end the recipe, or the operator
chooses to stop, nothing of the recipe starts any more, in no interleaving: the operations that are
still running return the signal, innermost first, and the run ends early, waiting only for its
background units.  An operation that is to end the recipe returns no other signal, and a run ends
early only if the signal was raised. -/
theorem exit_ends_recipe (r : Run) (w : Surroundings σ) (ops : List Operation) (store : Store)
    (outside : σ) {events : List Event} {s : Schedule σ}
    (h : Runs r w (start r ops store outside) events s) :
    (∀ before e after, events = before ++ e :: after → e.IsExit →
      (∀ e' ∈ after, e'.IsUnwinding) ∧
      (∀ result, s.main.strand = .done result → result = .ok true ∧
        after.filterMap Event.returned? = Event.running (before ++ [e]) []) ∧
      ∃ more t, Runs r w s more t ∧ (t.main.strand = .done (.ok true) ∨ t.IsWaiting)) ∧
    (∀ e ∈ events, e.KeepsFlag) ∧
    (s.main.strand = .done (.ok true) → ∃ e ∈ events, e.RaisesExit) := by
  have hmain := r.mainStrand_passesExit ops
  obtain ⟨-, hflags, hexits⟩ := hmain.heeds.moves h.moves
  refine ⟨fun before e after hevents he => ?_, hflags, fun hdone => ?_⟩
  · obtain ⟨hafter, hunwinds, hrunning⟩ := hexits before e after hevents he
    refine ⟨hafter, fun result hdone => ?_, ?_⟩
    · rw [hdone] at hunwinds
      obtain ⟨hstack, a, rfl, rfl⟩ := hunwinds
      rw [hrunning, hstack, List.append_nil]
      exact ⟨rfl, rfl⟩
    · obtain ⟨more, t, hruns, hend⟩ := exists_runs_of_unwinds (r := r) (w := w) hunwinds
      refine ⟨more, t, hruns, hend.imp (fun hdone => ?_) id⟩
      obtain ⟨a, rfl, ht⟩ := hdone
      exact ht
  · have hmoves := h.moves
    rw [hdone] at hmoves
    exact hmain.raises.moves hmoves ⟨rfl, not_false⟩

/-- An operator who chooses to stop at every prompt. -/
def stopping : Surroundings Unit where
  command _ _ := (⟨⟨.exited 0, "", ""⟩, {}, 0⟩, ())
  ask _ _ := (⟨.ok .exit, {}, 0⟩, ())
  confirm _ _ _ := (⟨.ok true, {}, 0⟩, ())

/-- A loop that asks a prompt in each of two passes. -/
def promptedLoop : Operation where
  controlFlow := some (.counted "2" "i" false false)
  operations := [{ prompts := [{ id := "go" }] }]

/-- The choice to stop in the first pass ends the loop and the recipe before its command. -/
theorem exit_ends_recipe_promptedLoop :
    ∃ before after s, Runs ⟨1, 0, 0, .empty, "", {}⟩ stopping
        (start ⟨1, 0, 0, .empty, "", {}⟩ [promptedLoop, { command := "true" }] {} ())
        (before ++ .asked { id := "go" } (.ok .exit) :: after) s ∧
      s.main.strand = .done (.ok true) ∧ (∀ e ∈ after, e.IsUnwinding) ∧
      after.filterMap Event.returned? = [{ prompts := [{ id := "go" }] }, promptedLoop] := by
  obtain ⟨s, h, hdone⟩ : ∃ s, Runs ⟨1, 0, 0, .empty, "", {}⟩ stopping
      (start ⟨1, 0, 0, .empty, "", {}⟩ [promptedLoop, { command := "true" }] {} ())
      [.noted (.started promptedLoop 1), .noted (.started { prompts := [{ id := "go" }] } 0),
        .asked { id := "go" } (.ok .exit),
        .noted (.returned { prompts := [{ id := "go" }] } (.ok .exit)),
        .noted (.returned promptedLoop (.ok .exit))] s ∧
      s.main.strand = .done (.ok true) :=
    ⟨_, .main 0 rfl <| .main 0 rfl <| .main 0 rfl <| .main 0 rfl <| .main 0 rfl <|
      .main 0 rfl <| .main 0 rfl <| .main 0 rfl <| .main 0 rfl <| .main 0 rfl <|
      .main 0 rfl <| .main 0 rfl <| .main 0 rfl <| .main 0 rfl <| .main 0 rfl <| .refl _, rfl⟩
  obtain ⟨hafter, hresult, -⟩ := (exit_ends_recipe _ _ _ _ _ h).1 [_, _] _ [_, _] rfl trivial
  exact ⟨[_, _], [_, _], s, h, hdone, hafter, (hresult _ hdone).2⟩

end Schedule

/-! ## Runs of recipes -/

theorem Event.RaisesExit.isExit {e : Event} (h : e.RaisesExit) : e.IsExit := by
  unfold Event.RaisesExit at h
  split at h
  · trivial
  · trivial
  · exact h.elim

/-- A run of a recipe that does not fail ends early if and only if, in the schedule that is run, an
operation returned the signal or the operator chose to stop. -/
theorem Recipe.exited_iff {recipe : Recipe} {o : Order} {ops : List Operation} {outcome : Outcome}
    {written : Streams} (hops : Expansion.expand o.registry recipe.operations = .ok ops)
    (h : recipe.run o = some (.ok outcome, written)) :
    ∃ events s, Schedule.Runs (runOf o ops) o.workplace.surroundings
        (Schedule.start (runOf o ops) ops (recipe.storeOf o) o.state) events s ∧
      s.scene.store = outcome.store ∧ (outcome.exited = true ↔ ∃ e ∈ events, e.IsExit) := by
  unfold run at h
  rw [hops] at h
  obtain ⟨⟨result, scene⟩, hrun, heq⟩ := Option.map_eq_some_iff.1 h
  obtain ⟨events, s, hruns, hdone, rfl⟩ := Schedule.runs_of_runWithin hrun
  obtain ⟨hresult, -⟩ := Prod.mk.inj heq
  cases result with
  | error e => cases hresult
  | ok exited =>
    obtain rfl := Except.ok.inj hresult
    have hmain := (runOf o ops).mainStrand_passesExit ops
    have hmoves := hruns.moves
    rw [hdone] at hmoves
    refine ⟨events, s, hruns, rfl, fun hexited => ?_, fun hexit => ?_⟩
    · obtain ⟨e, he, hraises⟩ := hmain.raises.moves hmoves ⟨hexited, not_false⟩
      exact ⟨e, he, hraises.isExit⟩
    · obtain ⟨e, he, hexit⟩ := hexit
      obtain ⟨before, after, hevents⟩ := List.append_of_mem he
      obtain ⟨-, -, hunwinds⟩ := hmain.heeds.moves hmoves
      obtain ⟨-, ⟨-, a, ha, hexits⟩, -⟩ := hunwinds before e after hevents hexit
      exact (Except.ok.inj ha).trans hexits

end RecipeRunner

import RecipeRunner.Proofs.Run.Interleaving
import RecipeRunner.Proofs.Run.Strict
/-!
# Failures of commands are contained

No run ends with the error of a command, unless what answers its prompts has such an error itself.

* `Strand.Contained`: strands that do not come to the error of a command.
* `Run.contained_mainStrand`: the main strand of a run is one.
* `Schedule.innocent_of_runs`: so no run comes to such an error.
-/

namespace RecipeRunner

namespace Strand

variable {α β : Type}

/-- The strand does not come to the error of a command, if its prompts do not. -/
def Contained : Strand α → Prop
  | done result => Innocent result
  | endless => True
  | update _ next => ∀ store, (next store).Contained
  | command _ next => ∀ execution, (next execution).Contained
  | ask _ next => ∀ answer, Innocent answer → (next answer).Contained
  | confirm _ _ next => ∀ reply, Innocent reply → (next reply).Contained
  | report _ next => next.Contained
  | launch _ next => next.Contained
  | note _ next => next.Contained
  | await next => next.Contained

theorem Contained.continueWith {s : Strand α} {k : Except Error α → Strand β} (h : s.Contained)
    (hk : ∀ result, Innocent result → (k result).Contained) : (s.continueWith k).Contained := by
  induction s with
  | done result => exact hk result h
  | endless => trivial
  | update change next ih => exact fun store => ih store (h store)
  | command call next ih => exact fun execution => ih execution (h execution)
  | ask spec next ih => exact fun answer hanswer => ih answer (h answer hanswer)
  | confirm label failure next ih => exact fun reply hreply => ih reply (h reply hreply)
  | report text next ih | launch unit next ih | note told next ih | await next ih => exact ih h

theorem Unwinds.contained {exits : α → Prop} {s : Strand α} {stack : List Operation}
    (h : s.Unwinds exits stack) : s.Contained := by
  induction s generalizing stack with
  | done result =>
    obtain ⟨-, a, rfl, -⟩ := h
    exact innocent_ok a
  | update change next ih => exact fun store => ih store (h store)
  | report text next ih => exact ih h
  | await next ih => exact ih h
  | note told next ih =>
    cases told with
    | started op room => exact h.elim
    | skipped op => exact h.elim
    | returned op result =>
      obtain ⟨-, rest, -, hnext⟩ := h
      exact ih hnext
  | endless | command | ask | confirm | launch => exact h.elim

theorem strict_contained : Strict fun _ s => s.Contained where
  done h := h
  endless := trivial
  update h := h
  prompt _ _ h := h
  report h := h
  bind h hk := h.continueWith fun result hresult => by
    cases result with
    | ok a => exact hk a
    | error e => exact hresult.error
  always h hcleanup := h.continueWith fun _ hresult =>
    hcleanup.contained.continueWith fun _ _ => hresult

end Strand

namespace Run

open Strand (Contained strict_contained)

theorem contained_goesOn (label failure : String) (signal : Signal) :
    Contained (do
      if ← goesOn label failure then pure signal else Strand.fail .userAborted) := by
  intro reply hreply
  match reply with
  | .ok true => exact innocent_ok _
  | .ok false => exact innocent_error rfl
  | .error e => exact hreply.error

theorem contained_execute (r : Run) (room : Nat) (op : Operation) :
    (r.execute room op).Contained := by
  induction room generalizing op with
  | zero => exact innocent_error rfl
  | succ room ih =>
    have hbody : (r.body room op).Contained :=
      strict_contained.body fun id => strict_contained.perform ih
        (fun call execution => innocent_ok execution) contained_goesOn
        (fun unit signal => innocent_ok signal) op id room
    rw [execute_succ]
    exact hbody.continueWith fun result hresult => hresult.map _

theorem contained_mainStrand (r : Run) (ops : List Operation) : (r.mainStrand ops).Contained :=
  strict_contained.mainStrand (contained_execute r _) ops

end Run

/-- What answers prompts does not itself have the error of a command. -/
structure Surroundings.Honest {σ : Type} (w : Surroundings σ) : Prop where
  ask : ∀ spec outside, Innocent (w.ask spec outside).1.reply
  confirm : ∀ label failure outside, Innocent (w.confirm label failure outside).1.reply

variable {σ α : Type} {r : Run} {w : Surroundings σ}

theorem Strand.Contained.step {s : Strand α} {scene : Scene σ} {step : Step σ α}
    (h : s.Contained) (hw : w.Honest) (hstep : s.step? w scene = some step) :
    step.strand.Contained := by
  cases s with
  | done | endless => cases hstep
  | update change next | command call next =>
    obtain rfl := Option.some.inj hstep
    exact h _
  | ask spec next =>
    obtain rfl := Option.some.inj hstep
    exact h _ (hw.ask spec _)
  | confirm label failure next =>
    obtain rfl := Option.some.inj hstep
    exact h _ (hw.confirm label failure _)
  | report text next | launch unit next | note told next =>
    obtain rfl := Option.some.inj hstep
    exact h
  | await next =>
    simp only [step?] at hstep
    split at hstep
    · obtain rfl := Option.some.inj hstep
      exact h
    · cases hstep

theorem Schedule.Runs.contained {s t : Schedule σ} {events : List Event} (h : Runs r w s events t)
    (hw : w.Honest) (hmain : s.main.strand.Contained) : t.main.strand.Contained := by
  induction h with
  | refl => exact hmain
  | main time hstep _ ih =>
    obtain ⟨step, hstrand, rfl⟩ := Option.map_eq_some_iff.1 hstep
    exact ih (hmain.step hw hstrand)
  | unit before _ hstep _ ih =>
    rw [main_of_stepUnit? hstep] at ih
    exact ih hmain

/-- No run comes to the error of a command. -/
theorem Schedule.innocent_of_runs {ops : List Operation} {store : Store} {outside : σ}
    {events : List Event} {s : Schedule σ} {result : Except Error Bool}
    (h : Runs r w (start r ops store outside) events s) (hw : w.Honest)
    (hdone : s.main.strand = .done result) : Innocent result := by
  have hcontained := h.contained hw (r.contained_mainStrand ops)
  rw [hdone] at hcontained
  exact hcontained

end RecipeRunner

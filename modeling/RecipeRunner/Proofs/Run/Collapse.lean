import RecipeRunner.Proofs.Run.Monitor
/-!
# Errors end the run

An operation that returns an error, and an operator who does not want to go on behind a failure, end
the run: from then on nothing is done but to report, and to let the operations that are still
running return the same error.  Commands and refusals come only from inside operations.

* `Fate`: the monitor, which knows the running operations and whether an error ends them.
* `Run.obeys_mainStrand`: it lets the main strand do what it does.
* `Fate.passesOn_of_raises`: what it allows behind an error.
* `Strand.Obeys.closes`: behind an error a strand comes to its end with it.
-/

namespace RecipeRunner

/-- How operations get on, the innermost first: they are running, or an error ends them. -/
inductive Fate where
  | going (stack : List Operation)
  | failing (e : Error) (stack : List Operation)

namespace Fate

/-- The operations that have not returned. -/
def stack : Fate → List Operation
  | going stack | failing _ stack => stack

/-- The operations run inside others. -/
def within (outer : List Operation) : Fate → Fate
  | going stack => going (stack ++ outer)
  | failing e stack => failing e (stack ++ outer)

/-- What happens to operations with an event.  Commands are run and failures are asked about only
inside operations, which a strand is anyway if `deep` holds. -/
inductive Step (deep : Prop) : Fate → Event → Fate → Prop
  | command {ops : List Operation} {call : Call} {execution : Execution} :
    deep ∨ ops ≠ [] → Step deep (going ops) (.command call execution) (going ops)
  | asked {ops : List Operation} {spec : PromptSpec} {answer : Except Error Answer} :
    Step deep (going ops) (.asked spec answer) (going ops)
  | confirmed {ops : List Operation} {label failure : String} {reply : Except Error Bool} :
    deep ∨ ops ≠ [] → reply ≠ .ok false →
      Step deep (going ops) (.confirmed label failure reply) (going ops)
  | refused {ops : List Operation} {label failure : String} :
    deep ∨ ops ≠ [] →
      Step deep (going ops) (.confirmed label failure (.ok false)) (failing .userAborted ops)
  | reported {ops : List Operation} {text : Streams} :
    Step deep (going ops) (.reported text) (going ops)
  | launched {ops : List Operation} {unit : Launch} :
    Step deep (going ops) (.launched unit) (going ops)
  | started {ops : List Operation} {op : Operation} {room : Nat} :
    Step deep (going ops) (.noted (.started op room)) (going (op :: ops))
  | skipped {ops : List Operation} {op : Operation} :
    Step deep (going (op :: ops)) (.noted (.skipped op)) (going ops)
  | returned {ops : List Operation} {op : Operation} {signal : Signal} :
    Step deep (going (op :: ops)) (.noted (.returned op (.ok signal))) (going ops)
  | raised {ops : List Operation} {op : Operation} {e : Error} :
    Step deep (going (op :: ops)) (.noted (.returned op (.error e))) (failing e ops)
  | cleaned {ops : List Operation} {e : Error} {text : Streams} :
    Step deep (failing e ops) (.reported text) (failing e ops)
  | passed {ops : List Operation} {op : Operation} {e : Error} :
    Step deep (failing e (op :: ops)) (.noted (.returned op (.error e))) (failing e ops)

variable {deep : Prop} {fate mid last : Fate} {event : Event} {events : List Event}

/-- Whatever happens to operations by themselves happens to them inside others. -/
theorem Step.within {deep' : Prop} (h : Step deep fate event mid) {outer : List Operation}
    (houter : deep' ∨ outer ≠ []) : Step deep' (fate.within outer) event (mid.within outer) := by
  have hinside : ∀ ops : List Operation, deep' ∨ ops ++ outer ≠ [] := fun ops =>
    houter.imp_right (List.append_ne_nil_of_right_ne_nil ops)
  cases h with
  | command => exact .command (hinside _)
  | asked => exact .asked
  | confirmed _ hreply => exact .confirmed (hinside _) hreply
  | refused => exact .refused (hinside _)
  | reported => exact .reported
  | launched => exact .launched
  | started => exact .started
  | skipped => exact .skipped
  | returned => exact .returned
  | raised => exact .raised
  | cleaned => exact .cleaned
  | passed => exact .passed

theorem Step.stack_eq (h : Step deep fate event mid) : mid.stack = event.restack fate.stack := by
  cases h <;> rfl

theorem stack_of_path (h : Path (Step deep) fate events last) :
    last.stack = Event.running events fate.stack := by
  induction h with
  | nil => rfl
  | cons hstep _ ih =>
    rw [ih, hstep.stack_eq]
    rfl

/-- Commands are run inside operations. -/
theorem running_ne_nil_of_command {before after : List Event} {call : Call}
    {execution : Execution}
    (h : Path (Step False) (going []) (before ++ .command call execution :: after) last) :
    Event.running before [] ≠ [] := by
  obtain ⟨fate, behind, hbefore, hstep, -⟩ := h.exists_of_append_cons
  have hstack : fate.stack = Event.running before [] := stack_of_path hbefore
  cases hstep with
  | command hdeep =>
    rw [← hstack]
    exact hdeep.resolve_left not_false

end Fate

namespace Event

/-- The event raises an error: an operation returns it, or the operator does not want to go on. -/
def Raises (e : Error) : Event → Prop
  | noted (.returned _ (.error raised)) => raised = e
  | confirmed _ _ (.ok false) => e = .userAborted
  | _ => False

/-- Nothing is done but a report, or an operation returns the error. -/
def PassesOn (e : Error) : Event → Prop
  | reported _ => True
  | noted (.returned _ (.error passed)) => passed = e
  | _ => False

end Event

namespace Fate

variable {deep : Prop} {fate mid last : Fate} {event : Event} {events : List Event} {e : Error}
  {ops : List Operation}

theorem Step.eq_failing (h : Step deep fate event mid) (hraises : event.Raises e) :
    ∃ ops, mid = failing e ops := by
  cases h with
  | refused | raised | passed =>
    obtain rfl := hraises
    exact ⟨_, rfl⟩
  | @confirmed _ _ _ reply _ hreply =>
    cases reply with
    | ok goesOn =>
      cases goesOn with
      | true => exact hraises.elim
      | false => exact absurd rfl hreply
    | error => exact hraises.elim
  | _ => exact hraises.elim

/-- Behind an error nothing is done but to pass it on. -/
theorem passesOn_of_failing (h : Path (Step deep) (failing e ops) events last) :
    (∀ event ∈ events, event.PassesOn e) ∧ ∃ ops, last = failing e ops := by
  generalize hfate : failing e ops = fate at h
  induction h generalizing ops with
  | nil => exact ⟨List.forall_mem_nil _, ops, hfate.symm⟩
  | cons hstep _ ih =>
    subst hfate
    cases hstep with
    | cleaned | passed =>
      obtain ⟨hrest, hlast⟩ := ih rfl
      exact ⟨List.forall_mem_cons.2 ⟨by simp only [Event.PassesOn], hrest⟩, hlast⟩

theorem passesOn_of_raises {before after : List Event}
    (h : Path (Step deep) fate (before ++ event :: after) last) (hraises : event.Raises e) :
    (∀ event ∈ after, event.PassesOn e) ∧ ∃ ops, last = failing e ops := by
  obtain ⟨_, behind, -, hstep, hafter⟩ := h.exists_of_append_cons
  obtain ⟨ops, rfl⟩ := hstep.eq_failing hraises
  exact passesOn_of_failing hafter

/-- The monitor of operations.  Behind an error nothing is repeated without end. -/
def monitor (deep : Prop) : Monitor Fate where
  step := Step deep
  waits _ := True
  loops fate := ∃ ops, fate = going ops

theorem simulates_within {deep deep' : Prop} {outer : List Operation}
    (houter : deep' ∨ outer ≠ []) :
    Strand.Simulates (monitor deep) (monitor deep')
      fun fate fate' => fate' = fate.within outer where
  step := by
    rintro fate mid _ event rfl hstep
    exact ⟨_, hstep.within houter, rfl⟩
  waits _ _ := trivial
  loops := by
    rintro _ _ rfl ⟨ops, rfl⟩
    exact ⟨ops ++ outer, rfl⟩

end Fate

namespace Run

open Fate (monitor)
open Strand (Obeys Noticed Strict)

/-- No operation of its own is running, and no error ends what the strand does unless it has come
to it. -/
def Passing {α : Type} (result : Except Error α) (fate : Fate) : Prop :=
  Noticed (.going []) (.failing · []) result fate

theorem strict_passing (deep : Prop) :
    Strict fun _ s => s.Obeys (monitor deep) Passing (.going []) :=
  Strand.strict_obeys (fun _ _ => .asked) (fun _ => .reported) trivial ⟨[], rfl⟩
    (fun _ _ => .cleaned) fun _ => trivial

/-- An operator who refuses to go on raises an error. -/
theorem obeys_goesOn (label failure : String) (signal : Signal) :
    Obeys (monitor True) Passing (do
      if ← goesOn label failure then pure signal else Strand.fail .userAborted) (.going []) := by
  intro reply
  match reply with
  | .ok true => exact ⟨_, .confirmed (.inl trivial) nofun, Strand.noticed_base ..⟩
  | .ok false => exact ⟨_, .refused (.inl trivial), .inr ⟨_, rfl, rfl⟩⟩
  | .error e => exact ⟨_, .confirmed (.inl trivial) nofun, Strand.noticed_base ..⟩

theorem obeys_body {r : Run} {room : Nat}
    (h : ∀ op, (r.execute room op).Obeys (monitor True) Passing (.going [])) (op : Operation) :
    (r.body room op).Obeys (monitor True) Passing (.going []) := by
  have hP := strict_passing True
  refine hP.body fun id => hP.perform h (fun call execution => ?_) obeys_goesOn
    (fun unit signal => ?_) op id room
  · exact ⟨_, .command (.inl trivial), Strand.noticed_base ..⟩
  · exact ⟨_, .launched, Strand.noticed_base ..⟩

/-- An operation passes on the errors of the operations inside it. -/
theorem obeys_execute (r : Run) (room : Nat) (op : Operation) (deep : Prop) :
    (r.execute room op).Obeys (monitor deep) Passing (.going []) := by
  induction room generalizing op deep with
  | zero => exact Strand.noticed_base ..
  | succ room ih =>
    -- what is inside the operation is shown for itself and then seen with the operation below it
    have hbody : (r.body room op).Obeys (monitor deep)
        (Noticed (.going [op]) (.failing · [op])) (.going [op]) := by
      refine (obeys_body (fun op => ih op True) op).simulate
        (Fate.simulates_within (.inr (List.cons_ne_nil op []))) ?_ rfl
      rintro result fate _ rfl (rfl | ⟨e, rfl, rfl⟩)
      · exact Strand.noticed_base ..
      · exact .inr ⟨e, rfl, rfl⟩
    rw [execute_succ]
    refine ⟨_, .started, hbody.continueWith fun result fate hfate => ?_⟩
    rcases hfate with rfl | ⟨e, rfl, rfl⟩
    · match result with
      | .ok none => exact ⟨_, .skipped, Strand.noticed_base ..⟩
      | .ok (some signal) => exact ⟨_, .returned, Strand.noticed_base ..⟩
      | .error e => exact ⟨_, .raised, .inr ⟨e, rfl, rfl⟩⟩
    · exact ⟨_, .passed, .inr ⟨e, rfl, rfl⟩⟩

theorem obeys_mainStrand (r : Run) (ops : List Operation) :
    (r.mainStrand ops).Obeys (monitor False) Passing (.going []) :=
  (strict_passing False).mainStrand (fun op => obeys_execute r _ op False) ops

end Run

namespace Strand

variable {α : Type}

/-- Behind an error the monitor lets nothing be done but to pass it on. -/
theorem Obeys.closes {s : Strand α} {deep : Prop} {e : Error} {ops : List Operation}
    (h : s.Obeys (Fate.monitor deep) Run.Passing (.failing e ops)) :
    s.Closes (· = .error e) := by
  induction s generalizing ops with
  | done result =>
    rcases h with heq | ⟨e', rfl, heq⟩
    · cases heq
    · obtain ⟨rfl, -⟩ := Fate.failing.inj heq
      rfl
  | endless =>
    obtain ⟨ops, heq⟩ := h
    cases heq
  | update change next ih => exact fun store => ih store (h store)
  | command call next ih =>
    obtain ⟨mid, hstep, -⟩ := h ⟨.exited 0, "", ""⟩
    cases hstep
  | ask spec next ih =>
    obtain ⟨mid, hstep, -⟩ := h (.ok .exit)
    cases hstep
  | confirm label failure next ih =>
    obtain ⟨mid, hstep, -⟩ := h (.ok true)
    cases hstep
  | report text next ih =>
    obtain ⟨mid, hstep, hnext⟩ := h
    cases hstep
    exact ih hnext
  | launch unit next ih =>
    obtain ⟨mid, hstep, -⟩ := h
    cases hstep
  | note told next ih =>
    obtain ⟨mid, hstep, hnext⟩ := h
    cases hstep
    exact ih hnext
  | await next ih => exact ih h.2

end Strand

end RecipeRunner

import Mathlib.Data.List.Induction
import RecipeRunner.Proofs.Run.Collapse
/-!
# Where failures go

What an operation does by itself behind the failure of its command: it follows its failure handler
if it names one, and otherwise it asks once whether to go on; then it returns.  Where the command
does not fail but is lost, the operation returns the error of the system and does nothing else.
This is told of one operation by a monitor, which takes no notice of what the operations inside it
do.

* `Event.own`: what an operation does itself.
* `Run.Answers`: the ways in which a failure is answered.
* `Run.obeys_turn`: the monitor lets operations do what they do, from their start on.
* `Run.answers_of_path`: it lets a failure be answered in no other way.
* `Run.passes_of_path`: it lets nothing be done about an error of the system.
-/

namespace RecipeRunner

namespace Event

/-- What the operation does itself that is running below `inside` others, up to its end.  Of the
operations inside it only the starts are told, and reports are not. -/
def own : (inside : Nat) → List Event → List Event
  | _, [] => []
  | 0, noted (.started op room) :: rest => noted (.started op room) :: own 1 rest
  | 0, noted told :: _ => [noted told]
  | 0, reported _ :: rest => own 0 rest
  | 0, event :: rest => event :: own 0 rest
  | inside + 1, noted (.started _ _) :: rest => own (inside + 2) rest
  | inside + 1, noted _ :: rest => own inside rest
  | inside + 1, _ :: rest => own (inside + 1) rest

theorem own_append_of_nil {events more : List Event} (h : own 0 events = []) :
    own 0 (events ++ more) = own 0 more := by
  induction events with
  | nil => rfl
  | cons event events ih =>
    cases event with
    | reported text => exact ih h
    | noted told => cases told <;> cases h
    | _ => cases h

/-- An operation is skipped or returns. -/
def IsEnd : Event → Prop
  | noted (.skipped _) | noted (.returned _ _) => True
  | _ => False

/-- Something is told of an operation. -/
def IsNoted : Event → Prop
  | noted _ => True
  | _ => False

theorem isEnd_ending (op : Operation) (result : Except Error (Option Signal)) :
    (noted (.ending op result)).IsEnd := by
  rcases result with e | _ | signal <;> trivial

/-- How many others an operation is running below behind an event, if it has not come to its end. -/
def levelBehind : (inside : Nat) → Event → Option Nat
  | inside, noted (.started _ _) => some (inside + 1)
  | 0, noted _ => none
  | inside + 1, noted _ => some inside
  | inside, _ => some inside

/-- How many others an operation is running below behind events. -/
def level (inside : Nat) (events : List Event) : Option Nat :=
  events.foldlM levelBehind inside

theorem level_snoc {inside mid : Nat} {events : List Event} (h : level inside events = some mid)
    (event : Event) : level inside (events ++ [event]) = levelBehind mid event := by
  rw [level, List.foldlM_append, ← level, h]
  simp

/-- The start of an operation that is running below others. -/
theorem exists_start {events : List Event} {top rest : List Operation} {op : Operation}
    (h : running events [] = top ++ op :: rest) : ∃ front room mid,
      events = front ++ noted (.started op room) :: mid ∧ level 0 mid = some top.length := by
  induction events using List.reverseRecOn generalizing top with
  | nil => exact absurd h.symm (append_cons_ne_nil _ _ _)
  | append_singleton events event ih =>
    rw [running_append] at h
    -- behind the start of an operation further up, the event is the last one of what follows
    have hsnoc : ∀ {top' : List Operation}, running events [] = top' ++ op :: rest →
        levelBehind top'.length event = some top.length → ∃ front room mid,
          events ++ [event] = front ++ noted (.started op room) :: mid ∧
            level 0 mid = some top.length := by
      intro top' hrunning hlevel
      obtain ⟨front, room, mid, rfl, hmid⟩ := ih hrunning
      refine ⟨front, room, mid ++ [event], by simp, ?_⟩
      rw [level_snoc hmid, hlevel]
    cases event with
    | noted told =>
      cases told with
      | started other room =>
        cases top with
        | nil =>
          obtain ⟨rfl, -⟩ := List.cons.inj h
          exact ⟨events, room, [], rfl, rfl⟩
        | cons _ top =>
          obtain ⟨rfl, hrunning⟩ := List.cons.inj h
          exact hsnoc hrunning rfl
      | skipped other | returned other result =>
        cases hrunning : running events [] with
        | nil =>
          rw [hrunning] at h
          exact absurd h.symm (append_cons_ne_nil _ _ _)
        | cons last stack =>
          rw [hrunning] at h
          have htop : running events [] = (last :: top) ++ op :: rest := by
            rw [hrunning, List.cons_append, ← h]
            rfl
          exact hsnoc htop rfl
    | _ => exact hsnoc h (by cases top <;> rfl)

end Event

namespace Run

/-- What keeps an operation from following a handler: it refers to no operation, or there is no room
for a further level. -/
def Bars (r : Run) (room : Nat) (handler : String) (e : Error) : Prop :=
  r.handlers.get? handler = none ∧ e = .unknownHandler handler ∨
    (∃ target, r.handlers.get? handler = some target) ∧ room = 0 ∧ e = .recursionLimit r.maxDepth

/-- How an operation answers the failure of its command. -/
inductive Answers (r : Run) (room : Nat) (op : Operation) (failure : Error) : List Event → Prop
  | followed {target : Operation} {left : Nat} (result : Except Error Signal) :
    op.onFailure.isEmpty = false → r.handlers.get? op.onFailure = some target → room = left + 1 →
      Answers r room op failure [.noted (.started target left), .noted (.returned op result)]
  | barred {e : Error} : op.onFailure.isEmpty = false → r.Bars room op.onFailure e →
      Answers r room op failure [.noted (.returned op (.error e))]
  | asked (reply : Except Error Bool) (result : Except Error Signal) :
    op.onFailure.isEmpty = true →
      Answers r room op failure
        [.confirmed op.label failure.failureMessage reply, .noted (.returned op result)]

/-- How far an operation has come by itself. -/
inductive Stage where
  | acting
  | failed (failure : Error)
  | lost (e : Error)
  | answered
  | finished

namespace Stage

theorem acting_ne_finished : acting ≠ finished := by
  intro heq
  cases heq

/-- What an operation may do by itself, and what may happen while others are running below it, which
are counted. -/
inductive Step (r : Run) (room : Nat) (op : Operation) : Stage × Nat → Event → Stage × Nat → Prop
  | asked {spec : PromptSpec} {answer : Except Error Answer} :
    Step r room op (acting, 0) (.asked spec answer) (acting, 0)
  | reported {text : Streams} : Step r room op (acting, 0) (.reported text) (acting, 0)
  | launched {unit : Launch} : Step r room op (acting, 0) (.launched unit) (acting, 0)
  | succeeded {call : Call} {execution : Execution} {raw : String} :
    execution.output call op.format = .ok raw →
      Step r room op (acting, 0) (.command call execution) (acting, 0)
  | failed {call : Call} {execution : Execution} {failure : Error} :
    execution.output call op.format = .error failure → failure.isCommandFailure = true →
      Step r room op (acting, 0) (.command call execution) (failed failure, 0)
  | lost {call : Call} {execution : Execution} {e : Error} :
    execution.output call op.format = .error e → e.isCommandFailure = false →
      Step r room op (acting, 0) (.command call execution) (lost e, 0)
  | entered {inner : Operation} {left : Nat} :
    Step r room op (acting, 0) (.noted (.started inner left)) (acting, 1)
  | ended {result : Except Error (Option Signal)} :
    Step r room op (acting, 0) (.noted (.ending op result)) (finished, 0)
  | complained {failure : Error} {text : Streams} :
    Step r room op (failed failure, 0) (.reported text) (failed failure, 0)
  | confirmed {failure : Error} {reply : Except Error Bool} : op.onFailure.isEmpty = true →
      Step r room op (failed failure, 0) (.confirmed op.label failure.failureMessage reply)
        (answered, 0)
  | followed {failure : Error} {target : Operation} {left : Nat} :
    op.onFailure.isEmpty = false → r.handlers.get? op.onFailure = some target → room = left + 1 →
      Step r room op (failed failure, 0) (.noted (.started target left)) (answered, 1)
  | barred {failure e : Error} : op.onFailure.isEmpty = false → r.Bars room op.onFailure e →
      Step r room op (failed failure, 0) (.noted (.returned op (.error e))) (finished, 0)
  | passed {e : Error} :
    Step r room op (lost e, 0) (.noted (.returned op (.error e))) (finished, 0)
  | returned {result : Except Error Signal} :
    Step r room op (answered, 0) (.noted (.returned op result)) (finished, 0)
  | deeper {stage : Stage} {inside : Nat} {inner : Operation} {left : Nat} :
    Step r room op (stage, inside + 1) (.noted (.started inner left)) (stage, inside + 2)
  | shallower {stage : Stage} {inside : Nat} {event : Event} : event.IsEnd →
      Step r room op (stage, inside + 1) event (stage, inside)
  | busy {stage : Stage} {inside : Nat} {event : Event} : ¬ event.IsNoted →
      Step r room op (stage, inside + 1) event (stage, inside + 1)
  | anything {event : Event} : Step r room op (finished, 0) event (finished, 0)

/-- The operation need neither answer a failure nor pass an error on. -/
def IsSettled : Stage → Prop
  | failed _ | lost _ => False
  | _ => True

theorem not_isSettled_failed (failure : Error) : ¬ (failed failure).IsSettled :=
  not_false

theorem not_isSettled_lost (e : Error) : ¬ (lost e).IsSettled :=
  not_false

/-- The monitor of one operation.  A failure is answered at once, and an error passed on. -/
def monitor (r : Run) (room : Nat) (op : Operation) : Monitor (Stage × Nat) where
  step := Step r room op
  waits st := st.1.IsSettled
  loops st := st.1.IsSettled

end Stage

open Stage (monitor)
open Strand (Obeys Noticed Strict)

variable {r : Run} {room : Nat} {op : Operation}

/-! ## What the monitor lets happen -/

section

variable {failure : Error} {events : List Event} {stage : Stage} {inside : Nat} {last : Stage × Nat}

theorem exists_answers (r : Run) (room : Nat) (op : Operation) (failure : Error) :
    ∃ answer, r.Answers room op failure answer := by
  cases hhandler : op.onFailure.isEmpty with
  | true => exact ⟨_, .asked (.ok true) (.ok .next) hhandler⟩
  | false =>
    cases htarget : r.handlers.get? op.onFailure with
    | none => exact ⟨_, .barred hhandler (.inl ⟨htarget, rfl⟩)⟩
    | some target =>
      cases room with
      | zero => exact ⟨_, .barred hhandler (.inr ⟨⟨target, htarget⟩, rfl, rfl⟩)⟩
      | succ left => exact ⟨_, .followed (.ok .next) hhandler htarget rfl⟩

/-- Of what happens inside an operation nothing is its own. -/
theorem own_of_inside (h : Path (Stage.Step r room op) (stage, inside + 1) events last) :
    Event.own (inside + 1) events = [] ∧ last.1 = stage ∨
      ∃ rest, Event.own (inside + 1) events = Event.own 0 rest ∧
        Path (Stage.Step r room op) (stage, 0) rest last := by
  induction events generalizing inside with
  | nil =>
    cases h
    exact .inl ⟨rfl, rfl⟩
  | cons event events ih =>
    cases h with
    | cons hstep hrest =>
      cases hstep with
      | deeper => exact ih hrest
      | shallower hend =>
        cases event with
        | noted told =>
          cases told with
          | started => exact hend.elim
          | skipped | returned =>
            cases inside with
            | zero => exact .inr ⟨events, rfl, hrest⟩
            | succ inside => exact ih hrest
        | _ => exact hend.elim
      | busy hbusy =>
        cases event with
        | noted told => exact absurd trivial hbusy
        | _ => exact ih hrest

/-- Behind an answer the operation does no more than to return. -/
theorem own_of_answered (h : Path (Stage.Step r room op) (.answered, inside) events last) :
    Event.own inside events = [] ∧ last.1 = .answered ∨
      ∃ result, Event.own inside events = [.noted (.returned op result)] := by
  have hzero : ∀ {events : List Event}, Path (Stage.Step r room op) (.answered, 0) events last →
      Event.own 0 events = [] ∧ last.1 = .answered ∨
        ∃ result, Event.own 0 events = [.noted (.returned op result)] := by
    intro events h
    cases h with
    | nil => exact .inl ⟨rfl, rfl⟩
    | cons hstep _ =>
      cases hstep with
      | returned => exact .inr ⟨_, rfl⟩
  cases inside with
  | zero => exact hzero h
  | succ inside =>
    rcases own_of_inside h with hnone | ⟨rest, hown, hrest⟩
    · exact .inl hnone
    · rw [hown]
      exact hzero hrest

/-- A failure is answered in one of the ways, and no more is done, as far as the operation has
come. -/
theorem answers_of_path (h : Path (Stage.Step r room op) (.failed failure, 0) events last) :
    ∃ answer, r.Answers room op failure answer ∧ Event.own 0 events <+: answer ∧
      (last.1 = .finished → Event.own 0 events = answer) ∧
      (Event.own 0 events = [] → last = (.failed failure, 0)) := by
  -- what follows the first event of an answer is the return of the operation, if it has returned
  have hanswer : ∀ {first : Event} {rest : List Event},
      (∀ result, r.Answers room op failure [first, .noted (.returned op result)]) →
      (rest = [] ∧ last.1 = .answered ∨ ∃ result, rest = [.noted (.returned op result)]) →
        ∃ answer, r.Answers room op failure answer ∧ first :: rest <+: answer ∧
          (last.1 = .finished → first :: rest = answer) ∧
          (first :: rest = [] → last = (.failed failure, 0)) := by
    rintro first rest hanswers (⟨rfl, hlast⟩ | ⟨result, rfl⟩)
    · refine ⟨_, hanswers (.ok .next), List.prefix_append [first] _, fun hfinished => ?_, nofun⟩
      rw [hlast] at hfinished
      cases hfinished
    · exact ⟨_, hanswers result, List.prefix_rfl, fun _ => rfl, nofun⟩
  induction events with
  | nil =>
    cases h
    obtain ⟨answer, hanswers⟩ := exists_answers r room op failure
    exact ⟨answer, hanswers, List.nil_prefix, nofun, fun _ => rfl⟩
  | cons event events ih =>
    cases h with
    | cons hstep hrest =>
      cases hstep with
      | complained => exact ih hrest
      | barred hhandler hbars =>
        exact ⟨_, .barred hhandler hbars, List.prefix_rfl, fun _ => rfl, nofun⟩
      | confirmed hhandler =>
        exact hanswer (fun result => .asked _ result hhandler) (own_of_answered hrest)
      | followed hhandler htarget hroom =>
        exact hanswer (fun result => .followed result hhandler htarget hroom)
          (own_of_answered hrest)

/-- An error of the system is passed on, and no more is done. -/
theorem passes_of_path {e : Error} (h : Path (Stage.Step r room op) (.lost e, 0) events last) :
    Event.own 0 events <+: [.noted (.returned op (.error e))] ∧
      (last.1 = .finished → Event.own 0 events = [.noted (.returned op (.error e))]) ∧
      (Event.own 0 events = [] → last = (.lost e, 0)) := by
  cases h with
  | nil => exact ⟨List.nil_prefix, nofun, fun _ => rfl⟩
  | cons hstep _ =>
    cases hstep with
    | passed => exact ⟨List.prefix_rfl, fun _ => rfl, nofun⟩

theorem step_level {st mid : Stage × Nat} {event : Event} {level : Nat}
    (h : Stage.Step r room op st event mid) (hst : st.1 ≠ .finished)
    (hlevel : Event.levelBehind st.2 event = some level) : mid.2 = level ∧ mid.1 ≠ .finished := by
  cases h with
  | @ended result =>
    rcases result with e | _ | signal
    · cases hlevel
    · cases hlevel
    · cases hlevel
  | barred | passed | returned => cases hlevel
  | deeper => exact ⟨Option.some.inj hlevel, hst⟩
  | @shallower _ _ event hend =>
    cases event with
    | noted told =>
      cases told with
      | started => exact hend.elim
      | skipped | returned => exact ⟨Option.some.inj hlevel, hst⟩
    | _ => exact hend.elim
  | @busy _ _ event hbusy =>
    cases event with
    | noted told => exact absurd trivial hbusy
    | _ => exact ⟨Option.some.inj hlevel, hst⟩
  | anything => exact absurd rfl hst
  | _ => exact ⟨Option.some.inj hlevel, nofun⟩

/-- The monitor counts the operations that are running below its own. -/
theorem path_level {st : Stage × Nat} {level : Nat}
    (h : Path (Stage.Step r room op) st events last) (hst : st.1 ≠ .finished)
    (hlevel : Event.level st.2 events = some level) : last.2 = level ∧ last.1 ≠ .finished := by
  induction h with
  | nil => exact ⟨Option.some.inj hlevel, hst⟩
  | cons hstep _ ih =>
    obtain ⟨mid, hmid, hrest⟩ := Option.bind_eq_some_iff.1 hlevel
    obtain ⟨rfl, hunfinished⟩ := step_level hstep hst hmid
    exact ih hunfinished hrest

end

/-! ## What operations do -/

/-- A part of an operation leaves no failure to be answered. -/
def Calm {α : Type} : Except Error α → Stage × Nat → Prop :=
  Noticed (.acting, 0) fun _ => (.acting, 0)

theorem calm_acting {α : Type} (result : Except Error α) : Calm result (.acting, 0) :=
  Strand.noticed_base ..

theorem Calm.eq_acting {α : Type} {result : Except Error α} {st : Stage × Nat}
    (h : Calm result st) : st = (.acting, 0) := by
  rcases h with rfl | ⟨_, _, rfl⟩
  · rfl
  · rfl

theorem strict_calm (r : Run) (room : Nat) (op : Operation) :
    Strict fun _ s => s.Obeys (monitor r room op) Calm (.acting, 0) :=
  Strand.strict_obeys (fun _ _ => .asked) (fun _ => .reported) trivial trivial
    (fun _ _ => .reported) fun _ => trivial

/-- The operation may end with a result. -/
def Ends (r : Run) (room : Nat) (op : Operation) (result : Except Error (Option Signal))
    (st : Stage × Nat) : Prop :=
  Stage.Step r room op st (.noted (.ending op result)) (.finished, 0)

/-- The operation may return a result. -/
def Returns (r : Run) (room : Nat) (op : Operation) (result : Except Error Signal)
    (st : Stage × Nat) : Prop :=
  Ends r room op (result.map some) st

theorem Calm.ends {result : Except Error (Option Signal)} {st : Stage × Nat} (h : Calm result st) :
    Ends r room op result st := by
  rw [h.eq_acting]
  exact .ended

theorem Calm.returns {result : Except Error Signal} {st : Stage × Nat} (h : Calm result st) :
    Returns r room op result st := by
  rw [h.eq_acting]
  exact .ended

theorem returns_answered (result : Except Error Signal) :
    Returns r room op result (.answered, 0) := by
  cases result with
  | ok signal => exact .returned
  | error e => exact .returned

section

variable {α β : Type} {s : Strand α} {k : α → Strand β}
  {final : Except Error β → Stage × Nat → Prop}

/-- A part of an operation leaves it to the rest to answer failures. -/
theorem obeys_calm_bind (h : s.Obeys (monitor r room op) Calm (.acting, 0))
    (hfinal : ∀ e, final (.error e) (.acting, 0))
    (hk : ∀ a, (k a).Obeys (monitor r room op) final (.acting, 0)) :
    (s >>= k).Obeys (monitor r room op) final (.acting, 0) := by
  refine h.continueWith fun result st hst => ?_
  rw [hst.eq_acting]
  cases result with
  | ok a => exact hk a
  | error e => exact hfinal e

end

/-- Below an operation the others do what they do. -/
theorem simulates_inside {stage : Stage} (hstage : stage.IsSettled) :
    Strand.Simulates (Fate.monitor True) (monitor r room op) fun fate st =>
      st = (stage, fate.stack.length + 1) where
  step := by
    rintro fate mid _ event rfl hstep
    refine ⟨_, ?_, rfl⟩
    cases hstep with
    | started => exact .deeper
    | skipped | returned | raised | passed => exact .shallower trivial
    | _ => exact .busy not_false
  waits := by
    rintro fate _ rfl _
    exact hstage
  loops := by
    rintro fate _ rfl _
    exact hstage

section

variable {β : Type} {final : Except Error β → Stage × Nat → Prop} {stage : Stage}

/-- An operation that is running below another one ends. -/
theorem obeys_inside (hstage : stage.IsSettled) (left : Nat) (inner : Operation)
    {k : Except Error (Option Signal) → Strand β}
    (hk : ∀ result, (k result).Obeys (monitor r room op) final (stage, 0)) :
    ((r.body left inner).continueWith fun result => .note (.ending inner result) (k result)).Obeys
      (monitor r room op) final (stage, 1) := by
  have hbody : (r.body left inner).Obeys (monitor r room op) (fun _ st => st = (stage, 1))
      (stage, 1) := by
    refine (obeys_body (fun op => obeys_execute r left op True) inner).simulate
      (simulates_inside hstage) ?_ rfl
    rintro result fate _ rfl (rfl | ⟨e, rfl, rfl⟩)
    · rfl
    · rfl
  refine hbody.continueWith ?_
  rintro result _ rfl
  exact ⟨_, .shallower (Event.isEnd_ending inner result), hk result⟩

end

theorem obeys_execute_inside (left : Nat) (inner : Operation) :
    (r.execute left inner).Obeys (monitor r room op) Calm (.acting, 0) := by
  cases left with
  | zero => exact calm_acting _
  | succ left =>
    have hsettled : Stage.acting.IsSettled := trivial
    rw [execute_succ]
    exact ⟨_, .entered, obeys_inside hsettled left inner fun _ => calm_acting _⟩

/-- The failure handler is followed, unless something keeps the operation from it. -/
theorem obeys_follow (op : Operation) (failure : Error) (hhandler : op.onFailure.isEmpty = false) :
    (r.follow (r.execute room) op.onFailure).Obeys (monitor r room op)
      (fun result st => st = (.answered, 0) ∨
        ∃ e, result = .error e ∧ Returns r room op (.error e) st)
      (.failed failure, 0) := by
  unfold follow
  split
  · next target htarget =>
    cases room with
    | zero => exact .inr ⟨_, rfl, .barred hhandler (.inr ⟨⟨target, htarget⟩, rfl, rfl⟩)⟩
    | succ left =>
      have hsettled : Stage.answered.IsSettled := trivial
      rw [execute_succ]
      exact ⟨_, .followed hhandler htarget rfl,
        obeys_inside hsettled left target fun _ => .inl rfl⟩
  · next hnone => exact .inr ⟨_, rfl, .barred hhandler (.inl ⟨hnone, rfl⟩)⟩

theorem obeys_failed (op : Operation) (id : String) (failure : Error) :
    (r.failed (r.execute room) op id failure).Obeys (monitor r room op) (Returns r room op)
      (.failed failure, 0) := by
  -- up to the answer only the store is changed
  have hset : (setResult id false).Obeys (monitor r room op)
      (fun result st => result = .ok () ∧ st = (.failed failure, 0)) (.failed failure, 0) := by
    unfold setResult
    split
    · exact ⟨rfl, rfl⟩
    · exact fun _ => ⟨rfl, rfl⟩
  unfold failed
  refine hset.continueWith ?_
  rintro _ _ ⟨rfl, rfl⟩ store
  change Obeys _ _
    (if !op.onFailure.isEmpty then r.handled (r.execute room) op op.onFailure else _) _
  split
  · next hhandler =>
    have hhandler : op.onFailure.isEmpty = false := by simpa using hhandler
    unfold handled
    rw [if_neg (by simp [hhandler])]
    refine (obeys_follow op failure hhandler).continueWith ?_
    rintro result _ (rfl | ⟨e, rfl, hreturns⟩)
    · cases result with
      | ok signal => exact returns_answered _
      | error e => exact returns_answered _
    · exact hreturns
  · next hnone =>
    have hnone : op.onFailure.isEmpty = true := by simpa using hnone
    refine ⟨_, .complained, fun reply => ⟨_, .confirmed hnone, ?_⟩⟩
    match reply with
    | .ok true => exact returns_answered _
    | .ok false => exact returns_answered _
    | .error e => exact returns_answered _

theorem obeys_command (op : Operation) (id : String) :
    (r.command (r.execute room) op id room).Obeys (monitor r room op) (Returns r room op)
      (.acting, 0) := by
  have hP := strict_calm r room op
  have hreturns : ∀ e, Returns r room op (.error e) (.acting, 0) := fun e => (calm_acting _).returns
  have hlaunch : ∀ unit (signal : Signal),
      Obeys (monitor r room op) Calm (.launch unit (pure signal)) (.acting, 0) :=
    fun _ _ => ⟨_, .launched, calm_acting _⟩
  unfold command
  refine obeys_calm_bind (hP.render op.command) hreturns fun command =>
    obeys_calm_bind (hP.write _) hreturns fun _ => ?_
  split
  · exact (hP.startUnit hlaunch op id command room).mono fun _ _ => Calm.returns
  · intro execution
    -- the only place where a failure comes up
    cases houtput : execution.output ⟨command, r.input, op.mode.isAttached⟩ op.format with
    | ok raw =>
      refine ⟨_, .succeeded houtput, ?_⟩
      simp only [Strand.pure_def, Strand.continueWith, houtput]
      exact (hP.succeeded (obeys_execute_inside room) op id raw).mono fun _ _ => Calm.returns
    | error failure =>
      simp only [Strand.pure_def, Strand.continueWith, houtput]
      cases hcommand : failure.isCommandFailure with
      | true => exact ⟨_, .failed houtput hcommand, obeys_failed op id failure⟩
      | false => exact ⟨_, .lost houtput hcommand, .passed⟩

theorem obeys_perform (op : Operation) (id : String) :
    (r.perform (r.execute room) (inOrder (r.execute room)) op id room).Obeys (monitor r room op)
      (Returns r room op) (.acting, 0) := by
  have hP := strict_calm r room op
  unfold perform
  split
  · have hbody := hP.inOrder (obeys_execute_inside room) op.operations
    exact (hP.loop r _ op id _ hbody).mono fun _ _ => Calm.returns
  · exact (hP.copyOutcome (obeys_execute_inside room) op _ id).mono fun _ _ => Calm.returns
  · split
    · exact (hP.bind (hP.setResult id true) fun _ => hP.pure _).mono fun _ _ => Calm.returns
    · exact obeys_command op id

theorem obeys_body_own (op : Operation) :
    (r.body room op).Obeys (monitor r room op) (Ends r room op) (.acting, 0) := by
  have hP := strict_calm r room op
  have hends : ∀ e, Ends r room op (.error e) (.acting, 0) := fun e => (calm_acting _).ends
  refine obeys_calm_bind (hP.idOf op) hends fun id =>
    obeys_calm_bind (hP.holds _) hends fun on => ?_
  split
  · refine obeys_calm_bind (hP.askAll op.prompts) hends fun stops => ?_
    split
    · exact (calm_acting _).ends
    · refine (obeys_perform op id).continueWith fun result st hst => ?_
      cases result with
      | ok signal => exact hst
      | error e => exact hst
  · exact (calm_acting _).ends

/-- From its start on an operation does what the monitor lets it do. -/
theorem obeys_turn {β : Type} (op : Operation) (k : Except Error (Option Signal) → Strand β) :
    ((r.body room op).continueWith fun result => .note (.ending op result) (k result)).Obeys
      (monitor r room op) (fun _ st => st = (.finished, 0)) (.acting, 0) :=
  (obeys_body_own op).continueWith fun _ _ hst =>
    ⟨_, hst, Strand.obeys_of_forall (fun _ => .anything) trivial trivial fun _ => rfl⟩

end Run

end RecipeRunner

import RecipeRunner.Proofs.Run.Alone
/-!
# Unwinding

When a recipe is to end early, what remains of a strand does nothing but clean up and let the
operations that are still running return the signal, innermost first.  Whether a strand does so is a
property of it as a tree, so it holds for all replies and whatever others do between its steps.

* `Unwinds`: strands that have nothing else left to do.
* `Closes`: strands that come to their end without a further request.
* `Heeds`: strands that unwind wherever an operation returns the signal or the operator chooses to
  stop.
* `Raises`: strands that come to the signal only behind an event that raises it.
* `PassesExit`: both together, with rules for strands in a row.
-/

namespace RecipeRunner

namespace Event

/-- An operation returns the signal to end the recipe, or the operator chooses to stop. -/
def IsExit : Event → Prop
  | asked _ (.ok .exit) => True
  | noted (.returned _ (.ok .exit)) => True
  | _ => False

/-- The operator chooses to stop, or an operation that is to end the recipe returns the signal. -/
def RaisesExit : Event → Prop
  | asked _ (.ok .exit) => True
  | noted (.returned op (.ok .exit)) => op.exitsRecipe = true
  | _ => False

/-- Nothing is done but a report, or an operation returns the signal to end the recipe. -/
def IsUnwinding : Event → Prop
  | reported _ => True
  | noted (.returned _ (.ok .exit)) => True
  | _ => False

/-- An operation that is to end the recipe returns no other signal. -/
def KeepsFlag : Event → Prop
  | noted (.returned op (.ok signal)) => op.exitsRecipe = true → signal = .exit
  | _ => True

/-- The operation that returns. -/
def returned? : Event → Option Operation
  | noted (.returned op _) => some op
  | _ => none

/-- The operations that are running behind an event, the innermost first. -/
def restack (stack : List Operation) : Event → List Operation
  | noted (.started op _) => op :: stack
  | noted (.skipped _) => stack.tail
  | noted (.returned _ _) => stack.tail
  | _ => stack

/-- The operations that are running behind some events. -/
def running (events : List Event) (stack : List Operation) : List Operation :=
  events.foldl restack stack

theorem running_append (events more : List Event) (stack : List Operation) :
    running (events ++ more) stack = running more (running events stack) :=
  List.foldl_append

end Event

namespace Strand

variable {α β : Type}

/-- What is left to be done is to let the operations in `stack` return the signal to end the
recipe, and then to come to a result of which `exits` holds. -/
def Unwinds (exits : α → Prop) : Strand α → List Operation → Prop
  | done result, stack => stack = [] ∧ ∃ a, result = .ok a ∧ exits a
  | endless, _ => False
  | update _ next, stack => ∀ store, (next store).Unwinds exits stack
  | command _ _, _ => False
  | ask _ _, _ => False
  | confirm _ _ _, _ => False
  | report _ next, stack => next.Unwinds exits stack
  | launch _ _, _ => False
  | note (.started _ _) _, _ => False
  | note (.skipped _) _, _ => False
  | note (.returned op result) next, stack =>
    result = .ok .exit ∧ ∃ rest, stack = op :: rest ∧ next.Unwinds exits rest
  | await next, stack => next.Unwinds exits stack

/-- What is left to be done is to report, to let operations return, to wait, and then to come to a
result of which `ends` holds. -/
def Closes (ends : Except Error α → Prop) : Strand α → Prop
  | done result => ends result
  | update _ next => ∀ store, (next store).Closes ends
  | report _ next | note _ next | await next => next.Closes ends
  | endless | command .. | ask .. | confirm .. | launch .. => False

/-- While the operations in `stack` are running: wherever one returns the signal to end the recipe
or the operator chooses to stop, the rest unwinds, and those that are to end the recipe return no
other signal unless they are skipped. -/
def Heeds (exits : α → Prop) : Strand α → List Operation → Prop
  | done _, stack => stack = []
  | endless, _ => True
  | update _ next, stack => ∀ store, (next store).Heeds exits stack
  | command _ next, stack => ∀ execution, (next execution).Heeds exits stack
  | ask _ next, stack => (∀ answer, (next answer).Heeds exits stack) ∧
    (next (.ok .exit)).Unwinds exits stack
  | confirm _ _ next, stack => ∀ reply, (next reply).Heeds exits stack
  | report _ next, stack => next.Heeds exits stack
  | launch _ next, stack => next.Heeds exits stack
  | note (.started op _) next, stack => next.Heeds exits (op :: stack)
  | note (.skipped op) next, stack => ∃ rest, stack = op :: rest ∧ next.Heeds exits rest
  | note (.returned op result) next, stack => (Event.noted (.returned op result)).KeepsFlag ∧
    ∃ rest, stack = op :: rest ∧ next.Heeds exits rest ∧
      (result = .ok .exit → next.Unwinds exits rest)
  | await next, stack => next.Heeds exits stack

/-- A result of which `exits` holds comes only behind an event that raises the signal to end the
recipe. -/
def Raises (exits : α → Prop) : Strand α → Prop
  | done result => ∀ a, result = .ok a → ¬ exits a
  | endless => True
  | update _ next => ∀ store, (next store).Raises exits
  | command _ next => ∀ execution, (next execution).Raises exits
  | ask spec next => ∀ answer, (Event.asked spec answer).RaisesExit ∨ (next answer).Raises exits
  | confirm _ _ next => ∀ reply, (next reply).Raises exits
  | report _ next => next.Raises exits
  | launch _ next => next.Raises exits
  | note told next => (Event.noted told).RaisesExit ∨ next.Raises exits
  | await next => next.Raises exits

/-- Whatever the strand comes to satisfies `gives`. -/
def Gives (gives : Except Error α → Prop) : Strand α → Prop
  | done result => gives result
  | endless => True
  | update _ next => ∀ store, (next store).Gives gives
  | command _ next => ∀ execution, (next execution).Gives gives
  | ask _ next => ∀ answer, (next answer).Gives gives
  | confirm _ _ next => ∀ reply, (next reply).Gives gives
  | report _ next => next.Gives gives
  | launch _ next => next.Gives gives
  | note _ next => next.Gives gives
  | await next => next.Gives gives

theorem gives_of_forall {gives : Except Error α → Prop} (h : ∀ result, gives result)
    {s : Strand α} : s.Gives gives := by
  induction s with
  | done result => exact h result
  | endless => trivial
  | update _ _ ih | command _ _ ih | ask _ _ ih | confirm _ _ _ ih | report _ _ ih
  | launch _ _ ih | note _ _ ih | await _ ih => exact ih

/-- What two strands in a row come to is what the second comes to behind the first. -/
theorem gives_continueWith {first : Except Error α → Prop} {gives : Except Error β → Prop}
    {s : Strand α} {k : Except Error α → Strand β} (h : s.Gives first)
    (hk : ∀ result, first result → (k result).Gives gives) : (s.continueWith k).Gives gives := by
  induction s with
  | done result => exact hk result h
  | endless => trivial
  | update _ _ ih => exact fun store => ih store (h store)
  | command _ _ ih => exact fun execution => ih execution (h execution)
  | ask _ _ ih => exact fun answer => ih answer (h answer)
  | confirm _ _ _ ih => exact fun reply => ih reply (h reply)
  | report _ _ ih | launch _ _ ih | note _ _ ih | await _ ih => exact ih h

theorem gives_bind {gives : Except Error β → Prop} {s : Strand α} {k : α → Strand β}
    (herror : ∀ e, gives (.error e)) (hk : ∀ a, (k a).Gives gives) : (s >>= k).Gives gives :=
  gives_continueWith (gives_of_forall fun _ => trivial) fun result _ => by
    cases result with
    | ok a => exact hk a
    | error e => exact herror e

theorem gives_always {gives : Except Error α → Prop} {s : Strand α} (h : s.Gives gives)
    (cleanup : Strand Unit) : (s.always cleanup).Gives gives :=
  gives_continueWith h fun _ hresult =>
    gives_continueWith (gives_of_forall fun _ => trivial) fun _ _ => hresult

/-! ## Moves -/

section

variable {exits : α → Prop} {s t : Strand α} {store last : Store} {stack : List Operation}

theorem Unwinds.move {new : List Event} (h : s.Unwinds exits stack)
    (hmove : Move s store new t last) :
    (∀ e ∈ new, e.IsUnwinding) ∧ t.Unwinds exits (Event.running new stack) ∧
      stack = new.filterMap Event.returned? ++ Event.running new stack := by
  cases hmove with
  | update change next => exact ⟨by simp, h store, rfl⟩
  | command | ask | confirm | launch => exact h.elim
  | report text next => exact ⟨by simp [Event.IsUnwinding], h, rfl⟩
  | await next => exact ⟨by simp, h, rfl⟩
  | note told next =>
    cases told with
    | started op room => exact h.elim
    | skipped op => exact h.elim
    | returned op result =>
      obtain ⟨rfl, rest, rfl, hnext⟩ := h
      exact ⟨by simp [Event.IsUnwinding], hnext, rfl⟩

theorem Unwinds.closes (h : s.Unwinds exits stack) :
    s.Closes fun result => ∃ a, result = .ok a ∧ exits a := by
  induction s generalizing stack with
  | done result => exact h.2
  | update change next ih => exact fun store => ih store (h store)
  | report text next ih | await next ih => exact ih h
  | note told next ih =>
    cases told with
    | started | skipped => exact h.elim
    | returned op result =>
      obtain ⟨-, rest, -, hnext⟩ := h
      exact ih hnext
  | endless | command | ask | confirm | launch => exact h.elim

/-- Unwinding, a strand does nothing but report and let operations return, in their order. -/
theorem Unwinds.moves {others : Store → Store → Prop} {events : List Event}
    (h : s.Unwinds exits stack) (hmoves : Moves others s store events t last) :
    (∀ e ∈ events, e.IsUnwinding) ∧ t.Unwinds exits (Event.running events stack) ∧
      stack = events.filterMap Event.returned? ++ Event.running events stack := by
  induction hmoves generalizing stack with
  | refl => exact ⟨by simp, h, rfl⟩
  | own hmove _ ih =>
    obtain ⟨hnew, hmid, hstack⟩ := h.move hmove
    obtain ⟨hevents, hlast, hrest⟩ := ih hmid
    rw [Event.running_append]
    refine ⟨fun e he => (List.mem_append.1 he).elim (hnew e) (hevents e), hlast, ?_⟩
    rw [List.filterMap_append, List.append_assoc, ← hrest, ← hstack]
  | other _ _ ih => exact ih h

theorem Heeds.move {new : List Event} (h : s.Heeds exits stack)
    (hmove : Move s store new t last) :
    t.Heeds exits (Event.running new stack) ∧ ∀ e ∈ new, e.KeepsFlag ∧
      (e.IsExit → t.Unwinds exits (Event.running new stack)) := by
  cases hmove with
  | update change next => exact ⟨h store, by simp⟩
  | command call next _ execution => exact ⟨h execution, by simp [Event.IsExit, Event.KeepsFlag]⟩
  | ask spec next _ answer =>
    refine ⟨h.1 answer, List.forall_mem_singleton.2 ⟨trivial, fun hexit => ?_⟩⟩
    unfold Event.IsExit at hexit
    split at hexit
    · next heq =>
      obtain ⟨-, rfl⟩ := Event.asked.inj heq
      exact h.2
    · next heq => cases heq
    · exact hexit.elim
  | confirm label failure next _ reply =>
    exact ⟨h reply, by simp [Event.IsExit, Event.KeepsFlag]⟩
  | report text next => exact ⟨h, by simp [Event.IsExit, Event.KeepsFlag]⟩
  | launch unit next => exact ⟨h, by simp [Event.IsExit, Event.KeepsFlag]⟩
  | await next => exact ⟨h, by simp⟩
  | note told next =>
    cases told with
    | started op room => exact ⟨h, by simp [Event.IsExit, Event.KeepsFlag]⟩
    | skipped op =>
      obtain ⟨rest, rfl, hnext⟩ := h
      exact ⟨hnext, by simp [Event.IsExit, Event.KeepsFlag]⟩
    | returned op result =>
      obtain ⟨hflag, rest, rfl, hnext, hexits⟩ := h
      refine ⟨hnext, List.forall_mem_singleton.2 ⟨hflag, fun hexit => ?_⟩⟩
      unfold Event.IsExit at hexit
      split at hexit
      · next heq => cases heq
      · next heq =>
        cases heq
        exact hexits rfl
      · exact hexit.elim

/-- Behind the event that ends the recipe a strand unwinds. -/
theorem Heeds.moves {others : Store → Store → Prop} {events : List Event}
    (h : s.Heeds exits stack) (hmoves : Moves others s store events t last) :
    t.Heeds exits (Event.running events stack) ∧ (∀ e ∈ events, e.KeepsFlag) ∧
      ∀ before e after, events = before ++ e :: after → e.IsExit →
        (∀ e' ∈ after, e'.IsUnwinding) ∧ t.Unwinds exits (Event.running events stack) ∧
          Event.running (before ++ [e]) stack =
            after.filterMap Event.returned? ++ Event.running events stack := by
  induction hmoves generalizing stack with
  | refl => exact ⟨h, by simp, by simp⟩
  | other _ _ ih => exact ih h
  | own hmove hmoves ih =>
    obtain ⟨hmid, hnew⟩ := h.move hmove
    obtain ⟨hlast, hflags, hrest⟩ := ih hmid
    rcases hmove.events_eq with rfl | ⟨first, rfl⟩
    · exact ⟨hlast, hflags, hrest⟩
    · refine ⟨hlast, List.forall_mem_cons.2 ⟨(hnew _ List.mem_cons_self).1, hflags⟩,
        fun before e after hevents he => ?_⟩
      cases before with
      | nil =>
        obtain ⟨rfl, rfl⟩ := List.cons.inj hevents
        exact ((hnew _ List.mem_cons_self).2 he).moves hmoves
      | cons other before =>
        obtain ⟨rfl, htail⟩ := List.cons.inj hevents
        exact hrest before e after htail he

theorem Raises.move {new : List Event} (h : s.Raises exits) (hmove : Move s store new t last) :
    (∃ e ∈ new, e.RaisesExit) ∨ t.Raises exits := by
  cases hmove with
  | update change next => exact .inr (h store)
  | command call next _ execution => exact .inr (h execution)
  | ask spec next _ answer =>
    exact (h answer).imp (fun hraises => ⟨_, List.mem_cons_self, hraises⟩) id
  | confirm label failure next _ reply => exact .inr (h reply)
  | report text next => exact .inr h
  | launch unit next => exact .inr h
  | await next => exact .inr h
  | note told next => exact h.imp (fun hraises => ⟨_, List.mem_cons_self, hraises⟩) id

theorem Raises.moves {others : Store → Store → Prop} {events : List Event} {a : α}
    (h : s.Raises exits) (hmoves : Moves others s store events (done (.ok a)) last)
    (ha : exits a) : ∃ e ∈ events, e.RaisesExit := by
  generalize hend : done (.ok a) = t at hmoves
  induction hmoves with
  | refl =>
    subst hend
    exact absurd ha (h a rfl)
  | other _ _ ih => exact ih h hend
  | own hmove _ ih =>
    rcases h.move hmove with ⟨e, he, hraises⟩ | hmid
    · exact ⟨e, List.mem_append_left _ he, hraises⟩
    · obtain ⟨e, he, hraises⟩ := ih hmid hend
      exact ⟨e, List.mem_append_right _ he, hraises⟩

end

/-! ## Strands in a row -/

section

variable {first exits : α → Prop} {last : β → Prop} {s : Strand α} {k : Except Error α → Strand β}

theorem Unwinds.continueWith {stack more : List Operation} (h : s.Unwinds first stack)
    (hk : ∀ a, first a → (k (.ok a)).Unwinds last more) :
    (s.continueWith k).Unwinds last (stack ++ more) := by
  induction s generalizing stack with
  | done result =>
    obtain ⟨rfl, a, rfl, ha⟩ := h
    exact hk a ha
  | update change next ih => exact fun store => ih store (h store)
  | report text next ih => exact ih h
  | await next ih => exact ih h
  | note told next ih =>
    cases told with
    | started op room => exact h.elim
    | skipped op => exact h.elim
    | returned op result =>
      obtain ⟨hresult, rest, rfl, hnext⟩ := h
      exact ⟨hresult, rest ++ more, rfl, ih hnext⟩
  | endless | command | ask | confirm | launch => exact h.elim

theorem Heeds.continueWith_of_gives {gives : Except Error α → Prop} {stack more : List Operation}
    (h : s.Heeds first stack) (hgives : s.Gives gives)
    (hk : ∀ result, gives result → (k result).Heeds last more)
    (hexit : ∀ a, first a → (k (.ok a)).Unwinds last more) :
    (s.continueWith k).Heeds last (stack ++ more) := by
  induction s generalizing stack with
  | done result =>
    obtain rfl := h
    exact hk result hgives
  | endless => trivial
  | update change next ih => exact fun store => ih store (h store) (hgives store)
  | command call next ih => exact fun execution => ih execution (h execution) (hgives execution)
  | ask spec next ih =>
    exact ⟨fun answer => ih answer (h.1 answer) (hgives answer), h.2.continueWith hexit⟩
  | confirm label failure next ih => exact fun reply => ih reply (h reply) (hgives reply)
  | report text next ih => exact ih h hgives
  | launch unit next ih => exact ih h hgives
  | await next ih => exact ih h hgives
  | note told next ih =>
    cases told with
    | started op room => exact ih h hgives
    | skipped op =>
      obtain ⟨rest, rfl, hnext⟩ := h
      exact ⟨rest ++ more, rfl, ih hnext hgives⟩
    | returned op result =>
      obtain ⟨hflag, rest, rfl, hnext, hunwinds⟩ := h
      exact ⟨hflag, rest ++ more, rfl, ih hnext hgives,
        fun hresult => (hunwinds hresult).continueWith hexit⟩

theorem Heeds.continueWith {stack more : List Operation} (h : s.Heeds first stack)
    (hk : ∀ result, (k result).Heeds last more)
    (hexit : ∀ a, first a → (k (.ok a)).Unwinds last more) :
    (s.continueWith k).Heeds last (stack ++ more) :=
  h.continueWith_of_gives (gives_of_forall fun _ => trivial) (fun result _ => hk result) hexit

theorem Raises.continueWith (h : s.Raises first)
    (hk : ∀ result, (∀ a, result = .ok a → ¬ first a) → (k result).Raises last) :
    (s.continueWith k).Raises last := by
  induction s with
  | done result => exact hk result h
  | endless => trivial
  | update change next ih => exact fun store => ih store (h store)
  | command call next ih => exact fun execution => ih execution (h execution)
  | ask spec next ih => exact fun answer => (h answer).imp id (ih answer)
  | confirm label failure next ih => exact fun reply => ih reply (h reply)
  | report text next ih => exact ih h
  | launch unit next ih => exact ih h
  | await next ih => exact ih h
  | note told next ih => exact h.imp id ih

/-! ## Passing the signal on -/

theorem Unwinds.heeds {stack : List Operation} (h : s.Unwinds exits stack) :
    s.Heeds exits stack := by
  induction s generalizing stack with
  | done result => exact h.1
  | update change next ih => exact fun store => ih store (h store)
  | report text next ih => exact ih h
  | await next ih => exact ih h
  | note told next ih =>
    cases told with
    | started op room => exact h.elim
    | skipped op => exact h.elim
    | returned op result =>
      obtain ⟨rfl, rest, rfl, hnext⟩ := h
      exact ⟨fun _ => rfl, rest, rfl, ih hnext, fun _ => hnext⟩
  | endless | command | ask | confirm | launch => exact h.elim

/-- Where no operation is running, unwinding has nothing to do with the signal. -/
theorem Unwinds.heeds_of_nil {other : α → Prop} (h : s.Unwinds other []) : s.Heeds exits [] := by
  induction s with
  | done result => rfl
  | update change next ih => exact fun store => ih store (h store)
  | report text next ih => exact ih h
  | await next ih => exact ih h
  | note told next ih =>
    cases told with
    | started op room => exact h.elim
    | skipped op => exact h.elim
    | returned op result =>
      obtain ⟨-, rest, hstack, -⟩ := h
      cases hstack
  | endless | command | ask | confirm | launch => exact h.elim

theorem Raises.mono {other : α → Prop} (h : s.Raises exits) (hexits : ∀ a, other a → exits a) :
    s.Raises other := by
  induction s with
  | done result => exact fun a ha hother => h a ha (hexits a hother)
  | endless => trivial
  | update change next ih => exact fun store => ih store (h store)
  | command call next ih => exact fun execution => ih execution (h execution)
  | ask spec next ih => exact fun answer => (h answer).imp id (ih answer)
  | confirm label failure next ih => exact fun reply => ih reply (h reply)
  | report text next ih => exact ih h
  | launch unit next ih => exact ih h
  | await next ih => exact ih h
  | note told next ih => exact h.imp id ih

theorem raises_of_forall_not (h : ∀ a, ¬ exits a) : s.Raises exits := by
  induction s with
  | done result => exact fun a _ => h a
  | endless => trivial
  | update change next ih => exact ih
  | command call next ih => exact ih
  | ask spec next ih => exact fun answer => .inr (ih answer)
  | confirm label failure next ih => exact ih
  | report text next ih => exact ih
  | launch unit next ih => exact ih
  | await next ih => exact ih
  | note told next ih => exact .inr ih

end

/-- The strand passes on the signal to end the recipe, which are the results of which `exits`
holds, and comes to it only if it was raised inside or if `own` holds. -/
structure PassesExit (own : Prop) (exits : α → Prop) (s : Strand α) : Prop where
  heeds : s.Heeds exits []
  raises : s.Raises fun a => exits a ∧ ¬ own

section

variable {own : Prop} {first exits : α → Prop} {last : β → Prop} {s : Strand α}

theorem passesExit_done {result : Except Error α} (h : ∀ a, result = .ok a → exits a → own) :
    PassesExit own exits (done result) :=
  ⟨rfl, fun a ha hexits => hexits.2 (h a ha hexits.1)⟩

theorem passesExit_fail (e : Error) : PassesExit own exits (fail e : Strand α) :=
  passesExit_done nofun

theorem passesExit_pure {a : α} (h : exits a → own) : PassesExit own exits (pure a : Strand α) :=
  passesExit_done fun b hb hexits => by
    obtain rfl := Except.ok.inj hb
    exact h hexits

theorem passesExit_endless : PassesExit own exits (endless : Strand α) :=
  ⟨trivial, trivial⟩

theorem Unwinds.passesExit (h : s.Unwinds exits []) (hown : own) : PassesExit own exits s :=
  ⟨h.heeds, raises_of_forall_not fun _ hexits => hexits.2 hown⟩

theorem unwinds_pure {a : α} (h : exits a) : (pure a : Strand α).Unwinds exits [] :=
  ⟨rfl, a, rfl, h⟩

/-- A plain strand comes to no signal. -/
theorem Plain.passesExit {R : Store → Store → Prop} (h : s.Plain R) :
    PassesExit own (fun _ => False) s := by
  refine ⟨?_, raises_of_forall_not fun _ hexits => hexits.1⟩
  induction s with
  | done result => rfl
  | update change next ih => exact fun store => ih store (h.2 store)
  | command call next ih => exact fun execution => ih execution (h execution)
  | confirm label failure next ih => exact fun reply => ih reply (h reply)
  | report text next ih => exact ih h
  | launch unit next ih => exact ih h
  | endless | ask | note | await => exact h.elim

/-- A signal that the first strand comes to has to be passed on by the second. -/
theorem passesExit_continueWith {k : Except Error α → Strand β} (h : PassesExit own first s)
    (hk : ∀ result, (∀ a, result = .ok a → ¬ first a) → PassesExit own last (k result))
    (hexit : ∀ a, first a → (k (.ok a)).Unwinds last []) :
    PassesExit own last (s.continueWith k) := by
  have hheeds : ∀ result, (k result).Heeds last [] := by
    intro result
    by_cases hresult : ∃ a, result = .ok a ∧ first a
    · obtain ⟨a, rfl, ha⟩ := hresult
      exact (hexit a ha).heeds
    · exact (hk result fun a ha hfirst => hresult ⟨a, ha, hfirst⟩).heeds
  refine ⟨h.heeds.continueWith hheeds hexit, h.raises.continueWith fun result hresult => ?_⟩
  by_cases hown : own
  · exact raises_of_forall_not fun _ hlast => hlast.2 hown
  · exact (hk result fun a ha hfirst => hresult a ha ⟨hfirst, hown⟩).raises

theorem passesExit_bind {k : α → Strand β} (h : PassesExit own first s)
    (hk : ∀ a, ¬ first a → PassesExit own last (k a))
    (hexit : ∀ a, first a → (k a).Unwinds last []) : PassesExit own last (s >>= k) := by
  refine passesExit_continueWith h (fun result hresult => ?_) hexit
  cases result with
  | ok a => exact hk a (hresult a rfl)
  | error e => exact passesExit_fail e

/-- A plain strand does not matter to the signal. -/
theorem Plain.passesExit_bind {R : Store → Store → Prop} {k : α → Strand β} (h : s.Plain R)
    (hk : ∀ a, PassesExit own last (k a)) : PassesExit own last (s >>= k) :=
  Strand.passesExit_bind h.passesExit (fun a _ => hk a) fun _ => False.elim

/-- Nor does a change of the store or a look into it. -/
theorem passesExit_update {change : Store → Store} {look : Store → α} {k : α → Strand β}
    (hk : ∀ a, PassesExit own last (k a)) :
    PassesExit own last ((update change fun store => pure (look store)) >>= k) :=
  ⟨fun store => (hk (look store)).heeds, fun store => (hk (look store)).raises⟩

/-- A signal is kept while loops are left, which neither raises nor awaits one. -/
theorem passesExit_always {cleanup : Strand Unit} (h : PassesExit own exits s)
    (hcleanup : cleanup.Unwinds (fun _ => True) []) :
    PassesExit own exits (s.always cleanup) := by
  have hplain : PassesExit own (fun _ => False) cleanup :=
    ⟨hcleanup.heeds_of_nil, raises_of_forall_not fun _ hexits => hexits.1⟩
  refine passesExit_continueWith h (fun result hresult => ?_) fun a ha => ?_
  · refine passesExit_continueWith hplain (fun _ _ => ?_) fun _ => False.elim
    exact passesExit_done fun a ha hexits => absurd hexits (hresult a ha)
  · exact hcleanup.continueWith fun _ _ => unwinds_pure ha

theorem PassesExit.mono {own' : Prop} (h : PassesExit own exits s) (hown : own → own') :
    PassesExit own' exits s :=
  ⟨h.heeds, h.raises.mono fun _ hexits => ⟨hexits.1, fun howned => hexits.2 (hown howned)⟩⟩

/-- An operation returns the signal if something inside it or, unless it is skipped, its own flag
raises it. -/
theorem passesExit_noted {op : Operation} (room : Nat) {body : Strand (Option Signal)}
    (h : PassesExit (op.exitsRecipe = true) (· = some .exit) body)
    (hflag : body.Gives fun result => ∀ signal, result = .ok (some signal) →
      op.exitsRecipe = true → signal = .exit) :
    PassesExit False (· = .exit) (noted op room body) := by
  refine ⟨h.heeds.continueWith_of_gives hflag (fun result hresult => ?_) fun a ha => ?_,
    .inr (h.raises.continueWith fun result hresult => ?_)⟩
  · match result with
    | .ok none => exact ⟨[], rfl, rfl⟩
    | .ok (some signal) =>
      refine ⟨hresult signal rfl, [], rfl, rfl, fun hexit => ⟨rfl, signal, rfl, ?_⟩⟩
      exact Except.ok.inj hexit
    | .error e => exact ⟨trivial, [], rfl, rfl, nofun⟩
  · obtain rfl := ha
    exact ⟨rfl, [], rfl, rfl, .exit, rfl, rfl⟩
  · match result with
    | .ok none => exact .inr fun a ha hexits => by cases ha.trans (congrArg _ hexits.1)
    | .ok (some signal) =>
      by_cases hraised : signal = .exit ∧ op.exitsRecipe = true
      · obtain ⟨rfl, hown⟩ := hraised
        exact .inl hown
      · refine .inr fun a ha hexits => ?_
        obtain rfl := Except.ok.inj ha
        obtain ⟨rfl, -⟩ := hexits
        exact hresult (some .exit) rfl ⟨rfl, fun hown => hraised ⟨rfl, hown⟩⟩
    | .error e => exact .inr nofun

end

end Strand

end RecipeRunner

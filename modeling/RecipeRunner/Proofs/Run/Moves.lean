import RecipeRunner.Run.Strand
/-!
# Moves of strands

What a strand can do, seen apart from any schedule: the events of its steps, whatever the replies
are, and what others do to the store between its steps.  A strand that goes on behind another one
first moves as that one does.

* `Moves.of_continueWith`: moves of two strands in a row are moves of the first, and of the second
  once the first has ended.
-/

namespace RecipeRunner

/-- What a strand does besides changing the store, with the reply that it gets. -/
inductive Event where
  | command (call : Call) (execution : Execution)
  | asked (spec : PromptSpec) (answer : Except Error Answer)
  | confirmed (label failure : String) (reply : Except Error Bool)
  | reported (text : Streams)
  | launched (unit : Launch)
  | noted (told : Note)

/-- What a strand tells of an operation at its end. -/
def Note.ending (op : Operation) : Except Error (Option Signal) → Note
  | .ok none => .skipped op
  | .ok (some signal) => .returned op (.ok signal)
  | .error e => .returned op (.error e)

namespace Strand

variable {α β : Type}

theorem noted_eq (op : Operation) (room : Nat) (body : Strand (Option Signal)) :
    noted op room body = note (.started op room) (body.continueWith fun result =>
      note (.ending op result) (done (result.map (·.getD .next)))) := by
  rw [noted]
  congr 2
  funext result
  match result with
  | .ok none => rfl
  | .ok (some signal) => rfl
  | .error e => rfl

/-- What comes behind two strands in a row comes behind the second one, or behind the first one if
that fails. -/
theorem bind_continueWith {γ : Type} (s : Strand α) (k : α → Strand β)
    (l : Except Error β → Strand γ) :
    (s >>= k).continueWith l = s.continueWith fun
      | .ok a => (k a).continueWith l
      | .error e => l (.error e) := by
  refine (continueWith_assoc s _ l).trans (congrArg s.continueWith (funext fun result => ?_))
  cases result <;> rfl

/-- One step of a strand and of the store, with the events of the step. -/
inductive Move : Strand α → Store → List Event → Strand α → Store → Prop
  | update (change : Store → Store) (next : Store → Strand α) (store : Store) :
    Move (update change next) store [] (next store) (change store)
  | command (call : Call) (next : Execution → Strand α) (store : Store) (execution : Execution) :
    Move (command call next) store [.command call execution] (next execution) store
  | ask (spec : PromptSpec) (next : Except Error Answer → Strand α) (store : Store)
      (answer : Except Error Answer) :
    Move (ask spec next) store [.asked spec answer] (next answer) store
  | confirm (label failure : String) (next : Except Error Bool → Strand α) (store : Store)
      (reply : Except Error Bool) :
    Move (confirm label failure next) store [.confirmed label failure reply] (next reply) store
  | report (text : Streams) (next : Strand α) (store : Store) :
    Move (report text next) store [.reported text] next store
  | launch (unit : Launch) (next : Strand α) (store : Store) :
    Move (launch unit next) store [.launched unit] next store
  | note (told : Note) (next : Strand α) (store : Store) :
    Move (note told next) store [.noted told] next store
  | await (next : Strand α) {store : Store} : store.inFlight = 0 →
    Move (await next) store [] next store

/-- What a strand does in some steps, between which others change the store as `others` says. -/
inductive Moves (others : Store → Store → Prop) :
    Strand α → Store → List Event → Strand α → Store → Prop
  | refl (s : Strand α) (store : Store) : Moves others s store [] s store
  | own {s t u : Strand α} {store mid last : Store} {new events : List Event} :
    Move s store new t mid → Moves others t mid events u last →
      Moves others s store (new ++ events) u last
  | other {s t : Strand α} {store mid last : Store} {events : List Event} :
    others store mid → Moves others s mid events t last → Moves others s store events t last

/-- A step has at most one event. -/
theorem Move.events_eq {s t : Strand α} {store mid : Store} {new : List Event}
    (h : Move s store new t mid) : new = [] ∨ ∃ e, new = [e] := by
  cases h with
  | update | await => exact .inl rfl
  | _ => exact .inr ⟨_, rfl⟩

theorem Move.continueWith {s t : Strand α} {store mid : Store} {new : List Event}
    (h : Move s store new t mid) (k : Except Error α → Strand β) :
    Move (s.continueWith k) store new (t.continueWith k) mid := by
  cases h with
  | update change next => exact .update change _ _
  | command call next _ execution => exact .command call _ _ execution
  | ask spec next _ answer => exact .ask spec _ _ answer
  | confirm label failure next _ reply => exact .confirm label failure _ _ reply
  | report text next => exact .report text _ _
  | launch unit next => exact .launch unit _ _
  | note told next => exact .note told _ _
  | await next hstore => exact .await _ hstore

/-- A step of two strands in a row is one of the first, or one of the second if the first has
ended. -/
theorem Move.of_continueWith {s : Strand α} {k : Except Error α → Strand β} {t : Strand β}
    {store mid : Store} {new : List Event} (h : Move (s.continueWith k) store new t mid) :
    (∃ result, s = done result ∧ Move (k result) store new t mid) ∨
      ∃ next, t = next.continueWith k ∧ Move s store new next mid := by
  cases s with
  | done result => exact .inl ⟨result, rfl, h⟩
  | endless => cases h
  | update change next =>
    cases h
    exact .inr ⟨_, rfl, .update change next _⟩
  | command call next =>
    cases h
    exact .inr ⟨_, rfl, .command call next _ _⟩
  | ask spec next =>
    cases h
    exact .inr ⟨_, rfl, .ask spec next _ _⟩
  | confirm label failure next =>
    cases h
    exact .inr ⟨_, rfl, .confirm label failure next _ _⟩
  | report text next =>
    cases h
    exact .inr ⟨_, rfl, .report text next _⟩
  | launch unit next =>
    cases h
    exact .inr ⟨_, rfl, .launch unit next _⟩
  | note told next =>
    cases h
    exact .inr ⟨_, rfl, .note told next _⟩
  | await next =>
    cases h with
    | await _ hstore => exact .inr ⟨_, rfl, .await next hstore⟩

namespace Moves

variable {others : Store → Store → Prop}

theorem trans {s t u : Strand α} {store mid last : Store} {events more : List Event}
    (h : Moves others s store events t mid) (h' : Moves others t mid more u last) :
    Moves others s store (events ++ more) u last := by
  induction h with
  | refl => exact h'
  | own hmove _ ih =>
    rw [List.append_assoc]
    exact .own hmove (ih h')
  | other hother _ ih => exact .other hother (ih h')

theorem continueWith {s t : Strand α} {store last : Store} {events : List Event}
    (h : Moves others s store events t last) (k : Except Error α → Strand β) :
    Moves others (s.continueWith k) store events (t.continueWith k) last := by
  induction h with
  | refl => exact .refl _ _
  | own hmove _ ih => exact .own (hmove.continueWith k) ih
  | other hother _ ih => exact .other hother ih

/-- Moves of two strands in a row are moves of the first, and of the second once the first has
ended. -/
theorem of_continueWith {s : Strand α} {k : Except Error α → Strand β} {t : Strand β}
    {store last : Store} {events : List Event}
    (h : Moves others (s.continueWith k) store events t last) :
    (∃ next, t = next.continueWith k ∧ Moves others s store events next last) ∨
      ∃ before result mid after, events = before ++ after ∧
        Moves others s store before (done result) mid ∧
          Moves others (k result) mid after t last := by
  generalize hwhole : s.continueWith k = whole at h
  induction h generalizing s with
  | refl store => exact .inl ⟨s, hwhole.symm, .refl _ _⟩
  | @own _ _ _ store mid last new events hmove hmoves ih =>
    subst hwhole
    rcases hmove.of_continueWith with ⟨result, rfl, hsecond⟩ | ⟨next, rfl, hfirst⟩
    · exact .inr ⟨[], result, store, new ++ events, rfl, .refl _ _, .own hsecond hmoves⟩
    · rcases ih rfl with
        ⟨later, ht, hlater⟩ | ⟨before, result, between, after, rfl, hlater, hsecond⟩
      · exact .inl ⟨later, ht, .own hfirst hlater⟩
      · exact .inr ⟨new ++ before, result, between, after, by rw [List.append_assoc],
          .own hfirst hlater, hsecond⟩
  | other hother _ ih =>
    rcases ih hwhole with
      ⟨later, ht, hlater⟩ | ⟨before, result, between, after, rfl, hfirst, hsecond⟩
    · exact .inl ⟨later, ht, .other hother hlater⟩
    · exact .inr ⟨before, result, between, after, rfl, .other hother hfirst, hsecond⟩

end Moves

end Strand

end RecipeRunner

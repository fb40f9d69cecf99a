import RecipeRunner.Proofs.Run.Moves
import Mathlib.Order.Defs.Unbundled
/-!
# Strands that run alone

What holds at the end of a strand between whose steps nobody else changes the store.  The rules
follow the nodes of a strand, and `ends_continueWith` is the rule for two strands in a row.

* `Ends`: what a strand, run alone from a store, comes to if it comes to an end.
* `ComesTo`: the only end that a strand, run alone from a store, comes to.
* `Keeps`: a preorder of stores that a strand stays in, from whichever store it is run.
* `Plain`: strands without prompts, notes and waits, whose every change stays in a relation.
-/

namespace RecipeRunner.Strand

variable {α β : Type}

/-- Nobody changes the store. -/
def nobody (_ _ : Store) : Prop := False

/-- Whenever the strand, run alone from the store, comes to an end, its events, its result and the
store at its end satisfy `post`. -/
def Ends (s : Strand α) (store : Store) (post : List Event → Except Error α → Store → Prop) :
    Prop :=
  ∀ events result last, Moves nobody s store events (done result) last → post events result last

section

variable {store last : Store} {post : List Event → Except Error α → Store → Prop}

theorem Ends.mono {s : Strand α} {post' : List Event → Except Error α → Store → Prop}
    (h : s.Ends store post) (hpost : ∀ events result last, post events result last →
      post' events result last) : s.Ends store post' :=
  fun events result last hmoves => hpost events result last (h events result last hmoves)

theorem ends_done (result : Except Error α) :
    (done result).Ends store post ↔ post [] result store := by
  refine ⟨fun h => h _ _ _ (.refl _ _), fun h events result' last hmoves => ?_⟩
  cases hmoves with
  | refl => exact h
  | own hmove => cases hmove
  | other hother => exact hother.elim

/-- A strand that has not ended comes to its end by a first step. -/
theorem ends_iff_of_ne_done {s : Strand α} (hs : ∀ result, s ≠ done result) :
    s.Ends store post ↔ ∀ new next mid, Move s store new next mid →
      next.Ends mid fun events => post (new ++ events) := by
  constructor
  · intro h new next mid hmove events result last hmoves
    exact h _ _ _ (.own hmove hmoves)
  · intro h events result last hmoves
    cases hmoves with
    | refl => exact absurd rfl (hs result)
    | own hmove hmoves => exact h _ _ _ hmove _ _ _ hmoves
    | other hother => exact hother.elim

theorem ends_endless : (endless : Strand α).Ends store post := by
  rw [ends_iff_of_ne_done (by simp)]
  intro new next mid hmove
  cases hmove

theorem ends_update (change : Store → Store) (next : Store → Strand α) :
    (update change next).Ends store post ↔ (next store).Ends (change store) post := by
  rw [ends_iff_of_ne_done (by simp)]
  refine ⟨fun h => h _ _ _ (.update change next store), fun h new next mid hmove => ?_⟩
  cases hmove
  exact h

theorem ends_command (call : Call) (next : Execution → Strand α) :
    (command call next).Ends store post ↔ ∀ execution, (next execution).Ends store
      fun events => post (.command call execution :: events) := by
  rw [ends_iff_of_ne_done (by simp)]
  refine ⟨fun h execution => h _ _ _ (.command call next store execution),
    fun h new next mid hmove => ?_⟩
  cases hmove
  exact h _

theorem ends_ask (spec : PromptSpec) (next : Except Error Answer → Strand α) :
    (ask spec next).Ends store post ↔ ∀ answer, (next answer).Ends store
      fun events => post (.asked spec answer :: events) := by
  rw [ends_iff_of_ne_done (by simp)]
  refine ⟨fun h answer => h _ _ _ (.ask spec next store answer), fun h new next mid hmove => ?_⟩
  cases hmove
  exact h _

theorem ends_confirm (label failure : String) (next : Except Error Bool → Strand α) :
    (confirm label failure next).Ends store post ↔ ∀ reply, (next reply).Ends store
      fun events => post (.confirmed label failure reply :: events) := by
  rw [ends_iff_of_ne_done (by simp)]
  refine ⟨fun h reply => h _ _ _ (.confirm label failure next store reply),
    fun h new next mid hmove => ?_⟩
  cases hmove
  exact h _

theorem ends_report (text : Streams) (next : Strand α) :
    (report text next).Ends store post ↔
      next.Ends store fun events => post (.reported text :: events) := by
  rw [ends_iff_of_ne_done (by simp)]
  refine ⟨fun h => h _ _ _ (.report text next store), fun h new next mid hmove => ?_⟩
  cases hmove
  exact h

theorem ends_launch (unit : Launch) (next : Strand α) :
    (launch unit next).Ends store post ↔
      next.Ends store fun events => post (.launched unit :: events) := by
  rw [ends_iff_of_ne_done (by simp)]
  refine ⟨fun h => h _ _ _ (.launch unit next store), fun h new next mid hmove => ?_⟩
  cases hmove
  exact h

theorem ends_note (told : Note) (next : Strand α) :
    (note told next).Ends store post ↔
      next.Ends store fun events => post (.noted told :: events) := by
  rw [ends_iff_of_ne_done (by simp)]
  refine ⟨fun h => h _ _ _ (.note told next store), fun h new next mid hmove => ?_⟩
  cases hmove
  exact h

/-- The second of two strands in a row is run from where the first ended. -/
theorem ends_continueWith (s : Strand α) (k : Except Error α → Strand β)
    {post : List Event → Except Error β → Store → Prop} :
    (s.continueWith k).Ends store post ↔ s.Ends store fun before result mid =>
      (k result).Ends mid fun after => post (before ++ after) := by
  constructor
  · intro h before result mid hfirst after result' last hsecond
    exact h _ _ _ ((hfirst.continueWith k).trans hsecond)
  · intro h events result' last hmoves
    rcases hmoves.of_continueWith with ⟨next, hnext, hfirst⟩ | ⟨before, result, mid, after, rfl,
      hfirst, hsecond⟩
    · -- The first strand has just ended and the second has not moved.
      cases next with
      | done result =>
        have hresult : Moves nobody (k result) last [] (done result') last := by
          rw [show k result = done result' from hnext.symm]
          exact .refl _ _
        have hlast : post (events ++ []) result' last := h _ _ _ hfirst _ _ _ hresult
        rwa [List.append_nil] at hlast
      | _ => simp [Strand.continueWith] at hnext
    · exact h _ _ _ hfirst _ _ _ hsecond

end

theorem ends_pure (a : α) {store : Store} {post : List Event → Except Error α → Store → Prop} :
    (pure a : Strand α).Ends store post ↔ post [] (.ok a) store :=
  ends_done _

theorem ends_bind (s : Strand α) (k : α → Strand β) {store : Store}
    {post : List Event → Except Error β → Store → Prop} :
    (s >>= k).Ends store post ↔ s.Ends store fun before result mid =>
      match result with
      | .ok a => (k a).Ends mid fun after => post (before ++ after)
      | .error e => post before (.error e) mid := by
  have hresult : ∀ before (result : Except Error α) mid,
      ((match result with
        | .ok a => k a
        | .error e => fail e : Strand β).Ends mid fun after => post (before ++ after)) ↔
      match result with
      | .ok a => (k a).Ends mid fun after => post (before ++ after)
      | .error e => post before (.error e) mid := by
    intro before result mid
    cases result with
    | ok a => rfl
    | error e => simp only [fail, ends_done, List.append_nil]
  refine (ends_continueWith s _).trans ⟨fun h => h.mono ?_, fun h => h.mono ?_⟩
  · exact fun before result mid => (hresult before result mid).1
  · exact fun before result mid => (hresult before result mid).2

theorem ends_always (s : Strand α) (cleanup : Strand Unit) {store : Store}
    {post : List Event → Except Error α → Store → Prop} :
    (s.always cleanup).Ends store post ↔ s.Ends store fun before result mid =>
      cleanup.Ends mid fun after _ last => post (before ++ after) result last := by
  have hcleanup : ∀ before (result : Except Error α) mid,
      ((cleanup.continueWith fun _ => done result).Ends mid fun after => post (before ++ after)) ↔
      cleanup.Ends mid fun after _ last => post (before ++ after) result last := by
    intro before result mid
    rw [ends_continueWith]
    simp only [ends_done, List.append_nil]
  refine (ends_continueWith s _).trans ⟨fun h => h.mono ?_, fun h => h.mono ?_⟩
  · exact fun before result mid => (hcleanup before result mid).1
  · exact fun before result mid => (hcleanup before result mid).2

/-! ## Strands that come to one end -/

/-- Run alone from the store, the strand comes to this end and to no other. -/
structure ComesTo (s : Strand α) (store : Store) (events : List Event) (result : Except Error α)
    (last : Store) : Prop where
  moves : Moves nobody s store events (done result) last
  only : s.Ends store fun events' result' last' =>
    events' = events ∧ result' = result ∧ last' = last

section

variable {store mid last : Store} {events after : List Event} {result : Except Error α}

theorem comesTo_done (result : Except Error α) (store : Store) :
    (done result).ComesTo store [] result store :=
  ⟨.refl _ _, (ends_done result).2 ⟨rfl, rfl, rfl⟩⟩

theorem ComesTo.update {change : Store → Store} {next : Store → Strand α}
    (h : (next store).ComesTo (change store) events result last) :
    (update change next).ComesTo store events result last :=
  ⟨.own (.update change next store) h.moves, (ends_update change next).2 h.only⟩

theorem ComesTo.note {next : Strand α} (h : next.ComesTo store events result last) (told : Note) :
    (note told next).ComesTo store (.noted told :: events) result last := by
  refine ⟨.own (.note told next store) h.moves, (ends_note told next).2 (h.only.mono ?_)⟩
  rintro _ _ _ ⟨rfl, rfl, rfl⟩
  exact ⟨rfl, rfl, rfl⟩

theorem ComesTo.continueWith {s : Strand α} {k : Except Error α → Strand β}
    {result' : Except Error β} (h : s.ComesTo store events result mid)
    (h' : (k result).ComesTo mid after result' last) :
    (s.continueWith k).ComesTo store (events ++ after) result' last := by
  refine ⟨(h.moves.continueWith k).trans h'.moves, (ends_continueWith s k).2 (h.only.mono ?_)⟩
  rintro _ _ _ ⟨rfl, rfl, rfl⟩
  refine h'.only.mono ?_
  rintro _ _ _ ⟨rfl, rfl, rfl⟩
  exact ⟨rfl, rfl, rfl⟩

theorem ComesTo.bind {s : Strand α} {k : α → Strand β} {a : α} {result' : Except Error β}
    (h : s.ComesTo store events (.ok a) mid) (h' : (k a).ComesTo mid after result' last) :
    (s >>= k).ComesTo store (events ++ after) result' last :=
  h.continueWith h'

theorem ComesTo.bind_error {s : Strand α} {e : Error} (h : s.ComesTo store events (.error e) mid)
    (k : α → Strand β) : (s >>= k).ComesTo store events (.error e) mid := by
  have hend : (fail e : Strand β).ComesTo mid [] (.error e) mid := comesTo_done _ mid
  have hwhole : (s >>= k).ComesTo store (events ++ []) (.error e) mid := h.continueWith hend
  rwa [List.append_nil] at hwhole

theorem ComesTo.noted {body : Strand (Option Signal)} {result : Except Error (Option Signal)}
    (h : body.ComesTo store events result last) (op : Operation) (room : Nat) :
    (noted op room body).ComesTo store
      (.noted (.started op room) :: (events ++ [.noted (.ending op result)]))
      (result.map (·.getD .next)) last := by
  rw [noted_eq]
  exact (h.continueWith ((comesTo_done _ last).note _)).note _

end

/-! ## Strands that keep a preorder -/

/-- From whichever store the strand is run alone, the store at its end is related to that one. -/
def Keeps (R : Store → Store → Prop) (s : Strand α) : Prop :=
  ∀ store, s.Ends store fun _ _ last => R store last

section

variable {R : Store → Store → Prop}

theorem keeps_endless : Keeps R (endless : Strand α) :=
  fun _ => ends_endless

theorem keeps_command {call : Call} {next : Execution → Strand α}
    (h : ∀ execution, Keeps R (next execution)) : Keeps R (command call next) :=
  fun store => (ends_command call next).2 fun execution => h execution store

theorem keeps_ask {spec : PromptSpec} {next : Except Error Answer → Strand α}
    (h : ∀ answer, Keeps R (next answer)) : Keeps R (ask spec next) :=
  fun store => (ends_ask spec next).2 fun answer => h answer store

theorem keeps_confirm {label failure : String} {next : Except Error Bool → Strand α}
    (h : ∀ reply, Keeps R (next reply)) : Keeps R (confirm label failure next) :=
  fun store => (ends_confirm label failure next).2 fun reply => h reply store

theorem keeps_report {text : Streams} {next : Strand α} (h : Keeps R next) :
    Keeps R (report text next) :=
  fun store => (ends_report text next).2 (h store)

theorem keeps_launch {unit : Launch} {next : Strand α} (h : Keeps R next) :
    Keeps R (launch unit next) :=
  fun store => (ends_launch unit next).2 (h store)

theorem keeps_note {told : Note} {next : Strand α} (h : Keeps R next) :
    Keeps R (note told next) :=
  fun store => (ends_note told next).2 (h store)

variable [IsPreorder Store R]

theorem keeps_done (result : Except Error α) : Keeps R (done result) :=
  fun store => (ends_done result).2 (refl store)

theorem keeps_update {change : Store → Store} {next : Store → Strand α}
    (hchange : ∀ store, R store (change store)) (h : ∀ store, Keeps R (next store)) :
    Keeps R (update change next) := by
  intro store
  rw [ends_update]
  exact (h store _).mono fun _ _ _ hlast => IsTrans.trans _ _ _ (hchange store) hlast

theorem keeps_continueWith {s : Strand α} {k : Except Error α → Strand β} (hs : Keeps R s)
    (hk : ∀ result, Keeps R (k result)) : Keeps R (s.continueWith k) := by
  intro store
  rw [ends_continueWith]
  refine (hs store).mono fun _ result mid hmid => ?_
  exact (hk result mid).mono fun _ _ _ hlast => IsTrans.trans _ _ _ hmid hlast

theorem keeps_fail (e : Error) : Keeps R (fail e : Strand α) :=
  keeps_done _

theorem keeps_pure (a : α) : Keeps R (pure a : Strand α) :=
  keeps_done _

theorem keeps_bind {s : Strand α} {k : α → Strand β} (hs : Keeps R s)
    (hk : ∀ a, Keeps R (k a)) : Keeps R (s >>= k) :=
  keeps_continueWith hs fun result => by
    cases result with
    | ok a => exact hk a
    | error e => exact keeps_fail e

end

/-! ## Plain strands -/

/-- The strand comes to an end without prompts, notes and waits, and each of its steps changes the
store as `R` says. -/
def Plain (R : Store → Store → Prop) : Strand α → Prop
  | done _ => True
  | endless => False
  | update change next => (∀ store, R store (change store)) ∧ ∀ store, (next store).Plain R
  | command _ next => ∀ execution, (next execution).Plain R
  | ask _ _ => False
  | confirm _ _ next => ∀ reply, (next reply).Plain R
  | report _ next => next.Plain R
  | launch _ next => next.Plain R
  | note _ _ => False
  | await _ => False

section

variable {R : Store → Store → Prop}

theorem plain_continueWith {s : Strand α} {k : Except Error α → Strand β} (hs : s.Plain R)
    (hk : ∀ result, (k result).Plain R) : (s.continueWith k).Plain R := by
  induction s with
  | done result => exact hk result
  | update change next ih => exact ⟨hs.1, fun store => ih store (hs.2 store)⟩
  | command call next ih => exact fun execution => ih execution (hs execution)
  | confirm label failure next ih => exact fun reply => ih reply (hs reply)
  | report text next ih => exact ih hs
  | launch unit next ih => exact ih hs
  | endless | ask | note | await => exact hs.elim

theorem plain_pure (a : α) : (pure a : Strand α).Plain R :=
  trivial

theorem plain_fail (e : Error) : (fail e : Strand α).Plain R :=
  trivial

theorem plain_ofExcept (result : Except Error α) : (ofExcept result).Plain R :=
  trivial

theorem plain_bind {s : Strand α} {k : α → Strand β} (hs : s.Plain R)
    (hk : ∀ a, (k a).Plain R) : (s >>= k).Plain R :=
  plain_continueWith hs fun result => by
    cases result with
    | ok a => exact hk a
    | error e => exact plain_fail e

theorem Plain.keeps [IsPreorder Store R] {s : Strand α} (h : s.Plain R) : Keeps R s := by
  induction s with
  | done result => exact keeps_done result
  | update change next ih => exact keeps_update h.1 fun store => ih store (h.2 store)
  | command call next ih => exact keeps_command fun execution => ih execution (h execution)
  | confirm label failure next ih => exact keeps_confirm fun reply => ih reply (h reply)
  | report text next ih => exact keeps_report (ih h)
  | launch unit next ih => exact keeps_launch (ih h)
  | endless | ask | note | await => exact h.elim

end

end RecipeRunner.Strand

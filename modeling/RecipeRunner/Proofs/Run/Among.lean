import RecipeRunner.Proofs.Run.Moves
import Mathlib.Order.Defs.Unbundled
/-!
# Strands among others

What holds at the end of a strand between whose steps others change the store, in ways that a
preorder allows.  The rules follow the nodes of a strand; where the strand reads or changes the
store, others may have changed it since the step before.

* `EndsAmong`: what a strand comes to among others, if it comes to an end.
* `Does`: the events and the changes of the store that any step of a strand can bring.
* `Does.moves`: what the steps of a strand can bring, its moves bring.
-/

namespace RecipeRunner.Strand

variable {α β : Type} {R : Store → Store → Prop}

/-- Whenever the strand, while others change the store as `R` says, comes to an end, its events, its
result and the store at its end satisfy `post`. -/
def EndsAmong (R : Store → Store → Prop) (s : Strand α) (store : Store)
    (post : List Event → Except Error α → Store → Prop) : Prop :=
  ∀ events result last, Moves R s store events (done result) last → post events result last

theorem Moves.mono {R' : Store → Store → Prop} {s t : Strand α} {store last : Store}
    {events : List Event} (h : Moves R s store events t last)
    (hR : ∀ store mid, R store mid → R' store mid) : Moves R' s store events t last := by
  induction h with
  | refl => exact .refl _ _
  | own hmove _ ih => exact .own hmove ih
  | other hother _ ih => exact .other (hR _ _ hother) ih

section

variable {store mid : Store} {post : List Event → Except Error α → Store → Prop}

theorem EndsAmong.mono {s : Strand α} {post' : List Event → Except Error α → Store → Prop}
    (h : s.EndsAmong R store post) (hpost : ∀ events result last, post events result last →
      post' events result last) : s.EndsAmong R store post' :=
  fun events result last hmoves => hpost events result last (h events result last hmoves)

theorem EndsAmong.and {s : Strand α} {post' : List Event → Except Error α → Store → Prop}
    (h : s.EndsAmong R store post) (h' : s.EndsAmong R store post') :
    s.EndsAmong R store fun events result last =>
      post events result last ∧ post' events result last :=
  fun _ _ _ hmoves => ⟨h _ _ _ hmoves, h' _ _ _ hmoves⟩

/-- What others do before the first step does not matter. -/
theorem EndsAmong.other {s : Strand α} (h : s.EndsAmong R store post) (hother : R store mid) :
    s.EndsAmong R mid post :=
  fun _ _ _ hmoves => h _ _ _ (.other hother hmoves)

/-- Moves that have come to an end are still at it after others have changed the store again. -/
theorem Moves.later {s : Strand α} {result : Except Error α} {last : Store} {events : List Event}
    (h : Moves R s store events (done result) mid) (hlast : R mid last) :
    Moves R s store events (done result) last := by
  have hend : Moves R s store (events ++ []) (done result) last :=
    h.trans (.other hlast (.refl _ _))
  rwa [List.append_nil] at hend

/-- What holds at the end of a strand still holds after others have changed the store again. -/
theorem EndsAmong.later {s : Strand α} (h : s.EndsAmong R store post) :
    s.EndsAmong R store fun events result mid => ∀ last, R mid last → post events result last :=
  fun _ _ _ hmoves _ hlast => h _ _ _ (hmoves.later hlast)

theorem endsAmong_self (s : Strand α) (store : Store) :
    s.EndsAmong R store fun events result last => Moves R s store events (done result) last :=
  fun _ _ _ hmoves => hmoves

/-- Of two strands in a row the second goes on where the first has ended. -/
theorem endsAmong_continueWith {s : Strand α} {k : Except Error α → Strand β}
    {post : List Event → Except Error β → Store → Prop}
    (h : s.EndsAmong R store fun before result mid =>
      (k result).EndsAmong R mid fun after => post (before ++ after)) :
    (s.continueWith k).EndsAmong R store post := by
  intro events result' last hmoves
  rcases hmoves.of_continueWith with ⟨next, hnext, hfirst⟩ | ⟨before, result, mid, after, rfl,
    hfirst, hsecond⟩
  · -- The first strand has just ended and the second has not moved.
    cases next with
    | done result =>
      have hresult : Moves R (k result) last [] (done result') last := by
        rw [show k result = done result' from hnext.symm]
        exact .refl _ _
      have hlast : post (events ++ []) result' last := h _ _ _ hfirst _ _ _ hresult
      rwa [List.append_nil] at hlast
    | _ => simp [Strand.continueWith] at hnext
  · exact h _ _ _ hfirst _ _ _ hsecond

variable [IsPreorder Store R]

theorem endsAmong_done {result : Except Error α} (h : ∀ last, R store last → post [] result last) :
    (done result).EndsAmong R store post := by
  intro events result' last hmoves
  generalize hs : (done result : Strand α) = s at hmoves
  generalize ht : (done result' : Strand α) = t at hmoves
  induction hmoves with
  | refl =>
    obtain rfl := done.inj (hs.trans ht.symm)
    exact h _ (refl _)
  | own hmove =>
    subst hs
    cases hmove
  | other hother _ ih =>
    exact ih (fun last hlast => h last (IsTrans.trans _ _ _ hother hlast)) hs ht

/-- A strand that has not ended takes a first step, before which others may change the store. -/
theorem endsAmong_of_ne_done {s : Strand α} (hs : ∀ result, s ≠ done result)
    (h : ∀ mid, R store mid → ∀ new next after, Move s mid new next after →
      next.EndsAmong R after fun events => post (new ++ events)) : s.EndsAmong R store post := by
  intro events result last hmoves
  generalize ht : (done result : Strand α) = t at hmoves
  induction hmoves with
  | refl s => exact absurd ht.symm (hs result)
  | own hmove hmoves _ =>
    subst ht
    exact h _ (refl _) _ _ _ hmove _ _ _ hmoves
  | other hother _ ih =>
    exact ih hs (fun mid hmid => h mid (IsTrans.trans _ _ _ hother hmid)) ht

theorem endsAmong_update {change : Store → Store} {next : Store → Strand α}
    (h : ∀ mid, R store mid → (next mid).EndsAmong R (change mid) post) :
    (update change next).EndsAmong R store post := by
  refine endsAmong_of_ne_done (by simp) fun mid hmid new next after hmove => ?_
  cases hmove
  exact h mid hmid

theorem endsAmong_command {call : Call} {next : Execution → Strand α}
    (h : ∀ execution, (next execution).EndsAmong R store fun events =>
      post (.command call execution :: events)) :
    (command call next).EndsAmong R store post := by
  refine endsAmong_of_ne_done (by simp) fun mid hmid new next after hmove => ?_
  cases hmove
  exact (h _).other hmid

theorem endsAmong_report {text : Streams} {next : Strand α}
    (h : next.EndsAmong R store fun events => post (.reported text :: events)) :
    (report text next).EndsAmong R store post := by
  refine endsAmong_of_ne_done (by simp) fun mid hmid new next after hmove => ?_
  cases hmove
  exact h.other hmid

theorem endsAmong_note {told : Note} {next : Strand α}
    (h : next.EndsAmong R store fun events => post (.noted told :: events)) :
    (note told next).EndsAmong R store post := by
  refine endsAmong_of_ne_done (by simp) fun mid hmid new next after hmove => ?_
  cases hmove
  exact h.other hmid

theorem endsAmong_pure {a : α} (h : ∀ last, R store last → post [] (.ok a) last) :
    (pure a : Strand α).EndsAmong R store post :=
  endsAmong_done h

theorem endsAmong_bind {s : Strand α} {k : α → Strand β}
    {post : List Event → Except Error β → Store → Prop}
    (h : s.EndsAmong R store fun before result mid =>
      match result with
      | .ok a => (k a).EndsAmong R mid fun after => post (before ++ after)
      | .error e => post before (.error e) mid) :
    (s >>= k).EndsAmong R store post := by
  refine endsAmong_continueWith ?_
  intro before result mid hmoves
  cases result with
  | ok a => exact h _ _ _ hmoves
  | error e =>
    refine endsAmong_done fun last hlast => ?_
    rw [List.append_nil]
    exact h _ _ _ (hmoves.later hlast)

/-- The cleanup behind a strand does not change what the strand has come to. -/
theorem endsAmong_always {s : Strand α} {cleanup : Strand Unit}
    (h : s.EndsAmong R store fun before result mid =>
      cleanup.EndsAmong R mid fun after _ => post (before ++ after) result) :
    (s.always cleanup).EndsAmong R store post := by
  refine endsAmong_continueWith (h.mono fun before result mid hcleanup => ?_)
  refine endsAmong_continueWith (hcleanup.later.mono fun after _ last hlast => ?_)
  refine endsAmong_done fun last' hlast' => ?_
  rw [List.append_nil]
  exact hlast last' hlast'

theorem endsAmong_modify_bind {change : Store → Store} {k : Unit → Strand β}
    {post : List Event → Except Error β → Store → Prop}
    (h : ∀ mid, R store mid → (k ()).EndsAmong R (change mid) post) :
    (modify change >>= k).EndsAmong R store post :=
  endsAmong_update h

end

/-! ## What steps can bring -/

/-- Every step of the strand has an event that `E` allows, if it has one, and changes the store as
`R` says. -/
def Does (E : Event → Prop) (R : Store → Store → Prop) : Strand α → Prop
  | done _ | endless => True
  | update change next => (∀ store, R store (change store)) ∧ ∀ store, (next store).Does E R
  | command call next => ∀ execution, E (.command call execution) ∧ (next execution).Does E R
  | ask spec next => ∀ answer, E (.asked spec answer) ∧ (next answer).Does E R
  | confirm label failure next =>
    ∀ reply, E (.confirmed label failure reply) ∧ (next reply).Does E R
  | report text next => E (.reported text) ∧ next.Does E R
  | launch unit next => E (.launched unit) ∧ next.Does E R
  | note told next => E (.noted told) ∧ next.Does E R
  | await next => next.Does E R

section

variable {E : Event → Prop}

theorem Does.mono {E' : Event → Prop} {R' : Store → Store → Prop} {s : Strand α} (h : s.Does E R)
    (hE : ∀ event, E event → E' event) (hR : ∀ store mid, R store mid → R' store mid) :
    s.Does E' R' := by
  induction s with
  | done | endless => trivial
  | update change next ih =>
    exact ⟨fun store => hR _ _ (h.1 store), fun store => ih store (h.2 store)⟩
  | command call next ih => exact fun execution => ⟨hE _ (h execution).1, ih _ (h execution).2⟩
  | ask spec next ih => exact fun answer => ⟨hE _ (h answer).1, ih _ (h answer).2⟩
  | confirm label failure next ih => exact fun reply => ⟨hE _ (h reply).1, ih _ (h reply).2⟩
  | report text next ih => exact ⟨hE _ h.1, ih h.2⟩
  | launch unit next ih => exact ⟨hE _ h.1, ih h.2⟩
  | note told next ih => exact ⟨hE _ h.1, ih h.2⟩
  | await next ih => exact ih h

theorem does_continueWith {s : Strand α} {k : Except Error α → Strand β} (hs : s.Does E R)
    (hk : ∀ result, (k result).Does E R) : (s.continueWith k).Does E R := by
  induction s with
  | done result => exact hk result
  | endless => trivial
  | update change next ih => exact ⟨hs.1, fun store => ih store (hs.2 store)⟩
  | command call next ih => exact fun execution => ⟨(hs execution).1, ih _ (hs execution).2⟩
  | ask spec next ih => exact fun answer => ⟨(hs answer).1, ih _ (hs answer).2⟩
  | confirm label failure next ih => exact fun reply => ⟨(hs reply).1, ih _ (hs reply).2⟩
  | report text next ih => exact ⟨hs.1, ih hs.2⟩
  | launch unit next ih => exact ⟨hs.1, ih hs.2⟩
  | note told next ih => exact ⟨hs.1, ih hs.2⟩
  | await next ih => exact ih hs

theorem does_pure (a : α) : (pure a : Strand α).Does E R :=
  trivial

theorem does_endless : (endless : Strand α).Does E R :=
  trivial

theorem does_fail (e : Error) : (fail e : Strand α).Does E R :=
  trivial

theorem does_ofExcept (result : Except Error α) : (ofExcept result).Does E R :=
  trivial

theorem does_bind {s : Strand α} {k : α → Strand β} (hs : s.Does E R)
    (hk : ∀ a, (k a).Does E R) : (s >>= k).Does E R :=
  does_continueWith hs fun result => by
    cases result with
    | ok a => exact hk a
    | error e => exact does_fail e

theorem does_always {s : Strand α} {cleanup : Strand Unit} (hs : s.Does E R)
    (hcleanup : cleanup.Does E R) : (s.always cleanup).Does E R :=
  does_continueWith hs fun _ => does_continueWith hcleanup fun _ => trivial

theorem does_modify {change : Store → Store} (h : ∀ store, R store (change store)) :
    (modify change).Does E R :=
  ⟨h, fun _ => trivial⟩

theorem does_write {text : Streams} (h : E (.reported text)) : (write text).Does E R :=
  ⟨h, trivial⟩

theorem Does.move {s t : Strand α} {store mid : Store} {new : List Event} (h : s.Does E R)
    (hrefl : R store store) (hmove : Move s store new t mid) :
    (∀ event ∈ new, E event) ∧ R store mid ∧ t.Does E R := by
  cases hmove with
  | update change next => exact ⟨by simp, h.1 _, h.2 _⟩
  | command call next _ execution => exact ⟨by simpa using (h execution).1, hrefl, (h execution).2⟩
  | ask spec next _ answer => exact ⟨by simpa using (h answer).1, hrefl, (h answer).2⟩
  | confirm label failure next _ reply =>
    exact ⟨by simpa using (h reply).1, hrefl, (h reply).2⟩
  | report text next => exact ⟨by simpa using h.1, hrefl, h.2⟩
  | launch unit next => exact ⟨by simpa using h.1, hrefl, h.2⟩
  | note told next => exact ⟨by simpa using h.1, hrefl, h.2⟩
  | await next _ => exact ⟨by simp, hrefl, h⟩

variable [IsPreorder Store R] {others : Store → Store → Prop}

/-- What the steps of a strand can bring, its moves bring, if others bring nothing else. -/
theorem Does.moves {s t : Strand α} {store last : Store} {events : List Event} (h : s.Does E R)
    (hothers : ∀ store mid, others store mid → R store mid)
    (hmoves : Moves others s store events t last) :
    (∀ event ∈ events, E event) ∧ R store last ∧ t.Does E R := by
  induction hmoves with
  | refl => exact ⟨by simp, refl _, h⟩
  | own hmove _ ih =>
    obtain ⟨hnew, hmid, hnext⟩ := h.move (refl _) hmove
    obtain ⟨hevents, hlast, hend⟩ := ih hnext
    refine ⟨fun event hevent => ?_, IsTrans.trans _ _ _ hmid hlast, hend⟩
    exact (List.mem_append.1 hevent).elim (hnew event) (hevents event)
  | other hother _ ih =>
    obtain ⟨hevents, hlast, hend⟩ := ih h
    exact ⟨hevents, IsTrans.trans _ _ _ (hothers _ _ hother) hlast, hend⟩

theorem Does.endsAmong {s : Strand α} (h : s.Does E R)
    (hothers : ∀ store mid, others store mid → R store mid) (store : Store) :
    s.EndsAmong others store fun events _ last => (∀ event ∈ events, E event) ∧ R store last :=
  fun _ _ _ hmoves => ⟨(h.moves hothers hmoves).1, (h.moves hothers hmoves).2.1⟩

/-- A strand without events only changes the store. -/
theorem Does.endsAmong_quiet {s : Strand α} (h : s.Does (fun _ => False) R) (store : Store) :
    s.EndsAmong R store fun events _ last => events = [] ∧ R store last :=
  (h.endsAmong (fun _ _ => id) store).mono fun _ _ _ hlast =>
    ⟨List.eq_nil_iff_forall_not_mem.2 hlast.1, hlast.2⟩

end

end RecipeRunner.Strand

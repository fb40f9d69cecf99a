import RecipeRunner.Proofs.Run.Strict
/-!
# Monitors

A monitor goes from state to state with the events of a strand, and an event that it has no step for
must not happen; nor must a strand wait, or go on without end, in a state where the monitor does not
let it.  That a monitor lets a strand do all that it does is a property of the strand as a tree,
which passes to strands in a row.

* `Path`: what a monitor makes of some events.
* `Strand.Obeys`: strands that a monitor lets do all that they do.
* `Strand.Obeys.course`: in all that such a strand does the monitor keeps up with it.
* `Strand.Obeys.simulate`: what obeys one monitor obeys those that allow as much.
* `Strand.strict_obeys`: where a monitor takes notice of errors it is enough to look at commands.
-/

namespace RecipeRunner

/-- What strands may do, told by states. -/
structure Monitor (S : Type) where
  step : S → Event → S → Prop
  /-- Where a strand may wait for background units. -/
  waits : S → Prop
  /-- Where a strand may go on without end. -/
  loops : S → Prop

section

variable {S : Type} {step : S → Event → S → Prop} {st last : S}

/-- A monitor goes through events, one after the other. -/
inductive Path (step : S → Event → S → Prop) : S → List Event → S → Prop
  | nil (st : S) : Path step st [] st
  | cons {st mid last : S} {event : Event} {rest : List Event} :
    step st event mid → Path step mid rest last → Path step st (event :: rest) last

namespace Path

theorem append {mid : S} {front back : List Event} (h : Path step st front mid)
    (h' : Path step mid back last) : Path step st (front ++ back) last := by
  induction h with
  | nil => exact h'
  | cons hstep _ ih => exact .cons hstep (ih h')

theorem exists_of_append {front back : List Event} (h : Path step st (front ++ back) last) :
    ∃ mid, Path step st front mid ∧ Path step mid back last := by
  induction front generalizing st with
  | nil => exact ⟨st, .nil st, h⟩
  | cons event front ih =>
    cases h with
    | cons hstep hrest =>
      obtain ⟨mid, hfront, hback⟩ := ih hrest
      exact ⟨mid, .cons hstep hfront, hback⟩

/-- Around an event a monitor takes the step that it has for it. -/
theorem exists_of_append_cons {front back : List Event} {event : Event}
    (h : Path step st (front ++ event :: back) last) :
    ∃ before behind, Path step st front before ∧ step before event behind ∧
      Path step behind back last := by
  obtain ⟨before, hfront, hrest⟩ := h.exists_of_append
  cases hrest with
  | cons hstep hback => exact ⟨before, _, hfront, hstep, hback⟩

end Path

end

namespace Strand

variable {α β S S' : Type} {m : Monitor S} {m' : Monitor S'}

/-- From a state on, the monitor lets the strand do what it does, and `final` holds of what the
strand comes to and the state of the monitor then. -/
def Obeys (m : Monitor S) (final : Except Error α → S → Prop) : Strand α → S → Prop
  | done result, st => final result st
  | endless, st => m.loops st
  | update _ next, st => ∀ store, (next store).Obeys m final st
  | command call next, st => ∀ execution,
    ∃ mid, m.step st (.command call execution) mid ∧ (next execution).Obeys m final mid
  | ask spec next, st => ∀ answer,
    ∃ mid, m.step st (.asked spec answer) mid ∧ (next answer).Obeys m final mid
  | confirm label failure next, st => ∀ reply,
    ∃ mid, m.step st (.confirmed label failure reply) mid ∧ (next reply).Obeys m final mid
  | report text next, st => ∃ mid, m.step st (.reported text) mid ∧ next.Obeys m final mid
  | launch unit next, st => ∃ mid, m.step st (.launched unit) mid ∧ next.Obeys m final mid
  | note told next, st => ∃ mid, m.step st (.noted told) mid ∧ next.Obeys m final mid
  | await next, st => m.waits st ∧ next.Obeys m final st

/-- A second monitor allows as much as a first one, in states that belong together. -/
structure Simulates (m : Monitor S) (m' : Monitor S') (R : S → S' → Prop) : Prop where
  step : ∀ {st mid st' event}, R st st' → m.step st event mid →
    ∃ mid', m'.step st' event mid' ∧ R mid mid'
  waits : ∀ {st st'}, R st st' → m.waits st → m'.waits st'
  loops : ∀ {st st'}, R st st' → m.loops st → m'.loops st'

section

variable {s t : Strand α} {st : S} {final : Except Error α → S → Prop}

theorem Obeys.continueWith {last : Except Error β → S → Prop} {k : Except Error α → Strand β}
    (h : s.Obeys m final st)
    (hk : ∀ result mid, final result mid → (k result).Obeys m last mid) :
    (s.continueWith k).Obeys m last st := by
  induction s generalizing st with
  | done result => exact hk result st h
  | endless => exact h
  | update change next ih => exact fun store => ih store (h store)
  | command call next ih =>
    intro execution
    obtain ⟨mid, hstep, hnext⟩ := h execution
    exact ⟨mid, hstep, ih execution hnext⟩
  | ask spec next ih =>
    intro answer
    obtain ⟨mid, hstep, hnext⟩ := h answer
    exact ⟨mid, hstep, ih answer hnext⟩
  | confirm label failure next ih =>
    intro reply
    obtain ⟨mid, hstep, hnext⟩ := h reply
    exact ⟨mid, hstep, ih reply hnext⟩
  | report text next ih | launch unit next ih | note told next ih =>
    obtain ⟨mid, hstep, hnext⟩ := h
    exact ⟨mid, hstep, ih hnext⟩
  | await next ih => exact ⟨h.1, ih h.2⟩

theorem Obeys.mono {last : Except Error α → S → Prop} (h : s.Obeys m final st)
    (hfinal : ∀ result mid, final result mid → last result mid) : s.Obeys m last st := by
  have hrow := h.continueWith (k := done) hfinal
  rwa [continueWith_done] at hrow

/-- What obeys one monitor obeys those that allow as much. -/
theorem Obeys.simulate {final' : Except Error α → S' → Prop} {R : S → S' → Prop} {st' : S'}
    (hR : Simulates m m' R)
    (hfinal : ∀ {result st st'}, R st st' → final result st → final' result st')
    (h : s.Obeys m final st) (hst : R st st') : s.Obeys m' final' st' := by
  induction s generalizing st st' with
  | done result => exact hfinal hst h
  | endless => exact hR.loops hst h
  | update change next ih => exact fun store => ih store (h store) hst
  | command call next ih =>
    intro execution
    obtain ⟨mid, hmid, hnext⟩ := h execution
    obtain ⟨mid', hmid', hst'⟩ := hR.step hst hmid
    exact ⟨mid', hmid', ih execution hnext hst'⟩
  | ask spec next ih =>
    intro answer
    obtain ⟨mid, hmid, hnext⟩ := h answer
    obtain ⟨mid', hmid', hst'⟩ := hR.step hst hmid
    exact ⟨mid', hmid', ih answer hnext hst'⟩
  | confirm label failure next ih =>
    intro reply
    obtain ⟨mid, hmid, hnext⟩ := h reply
    obtain ⟨mid', hmid', hst'⟩ := hR.step hst hmid
    exact ⟨mid', hmid', ih reply hnext hst'⟩
  | report text next ih | launch unit next ih | note told next ih =>
    obtain ⟨mid, hmid, hnext⟩ := h
    obtain ⟨mid', hmid', hst'⟩ := hR.step hst hmid
    exact ⟨mid', hmid', ih hnext hst'⟩
  | await next ih => exact ⟨hR.waits hst h.1, ih h.2 hst⟩

theorem Obeys.move {store last : Store} {new : List Event} (h : s.Obeys m final st)
    (hmove : Move s store new t last) : ∃ mid, Path m.step st new mid ∧ t.Obeys m final mid := by
  cases hmove with
  | update => exact ⟨st, .nil st, h _⟩
  | await => exact ⟨st, .nil st, h.2⟩
  | command | ask | confirm =>
    obtain ⟨mid, hstep, hnext⟩ := h _
    exact ⟨mid, .cons hstep (.nil mid), hnext⟩
  | report | launch | note =>
    obtain ⟨mid, hstep, hnext⟩ := h
    exact ⟨mid, .cons hstep (.nil mid), hnext⟩

/-- The monitor keeps up with what the strand does. -/
theorem Obeys.course {acts : List Act} (h : s.Obeys m final st) (hcourse : Course s acts t) :
    ∃ mid, Path m.step st (acts.flatMap (·.events)) mid ∧ t.Obeys m final mid := by
  induction hcourse generalizing st with
  | refl => exact ⟨st, .nil st, h⟩
  | step hmove _ ih =>
    obtain ⟨mid, hnew, hnext⟩ := h.move hmove
    obtain ⟨last, hrest, hlast⟩ := ih hnext
    rw [List.flatMap_cons]
    exact ⟨last, hnew.append hrest, hlast⟩

/-- A monitor that stays in a state whatever happens lets any strand do anything. -/
theorem obeys_of_forall (h : ∀ event, m.step st event st) (hwaits : m.waits st)
    (hloops : m.loops st) (hfinal : ∀ result, final result st) : s.Obeys m final st := by
  induction s with
  | done result => exact hfinal result
  | endless => exact hloops
  | update _ _ ih => exact ih
  | command _ _ ih => exact fun execution => ⟨st, h _, ih execution⟩
  | ask _ _ ih => exact fun answer => ⟨st, h _, ih answer⟩
  | confirm _ _ _ ih => exact fun reply => ⟨st, h _, ih reply⟩
  | report _ _ ih | launch _ _ ih | note _ _ ih => exact ⟨st, h _, ih⟩
  | await _ ih => exact ⟨hwaits, ih⟩

end

/-- What unwinds with no operation running does nothing but report. -/
theorem Unwinds.obeys_continueWith {exits : α → Prop} {s : Strand α} {st : S}
    {final : Except Error β → S → Prop} {k : Except Error α → Strand β} (h : s.Unwinds exits [])
    (hreport : ∀ text, m.step st (.reported text) st) (hwaits : m.waits st)
    (hk : ∀ a, (k (.ok a)).Obeys m final st) : (s.continueWith k).Obeys m final st := by
  induction s with
  | done result =>
    obtain ⟨-, a, rfl, -⟩ := h
    exact hk a
  | update change next ih => exact fun store => ih store (h store)
  | report text next ih => exact ⟨st, hreport text, ih h⟩
  | await next ih => exact ⟨hwaits, ih h⟩
  | note told next ih =>
    cases told with
    | started op room => exact h.elim
    | skipped op => exact h.elim
    | returned op result =>
      obtain ⟨-, rest, hstack, -⟩ := h
      cases hstack
  | endless | command | ask | confirm | launch => exact h.elim

/-! ## Errors -/

/-- The monitor is in its base state, or it has taken notice of the error that the strand has come
to. -/
def Noticed (base : S) (broken : Error → S) (result : Except Error α) (st : S) : Prop :=
  st = base ∨ ∃ e, result = .error e ∧ st = broken e

theorem noticed_base (base : S) (broken : Error → S) (result : Except Error α) :
    Noticed base broken result base :=
  .inl rfl

theorem Noticed.error {base : S} {broken : Error → S} {e : Error} {st : S}
    (h : Noticed base broken (.error e : Except Error α) st) :
    Noticed base broken (.error e : Except Error β) st :=
  h.imp_right fun ⟨e', he', hst⟩ => ⟨e', congrArg _ (Except.error.inj he'), hst⟩

theorem Noticed.eq_of_ok {base : S} {broken : Error → S} {a : α} {st : S}
    (h : Noticed base broken (.ok a) st) : st = base := by
  rcases h with rfl | ⟨e, he, -⟩
  · rfl
  · cases he

/-- A monitor that lets a strand ask, report, wait and loop, and report and wait behind an error,
has only to look at commands, launches and what is told of operations. -/
theorem strict_obeys {base : S} {broken : Error → S}
    (hask : ∀ spec answer, m.step base (.asked spec answer) base)
    (hreport : ∀ text, m.step base (.reported text) base) (hwaits : m.waits base)
    (hloops : m.loops base) (hreport' : ∀ e text, m.step (broken e) (.reported text) (broken e))
    (hwaits' : ∀ e, m.waits (broken e)) :
    Strict fun _ s => s.Obeys m (Noticed base broken) base where
  done _ := noticed_base base broken _
  endless := hloops
  update h := h
  prompt spec answer := ⟨base, hask spec answer, noticed_base base broken _⟩
  report h := ⟨base, hreport _, h⟩
  bind h hk := by
    refine h.continueWith fun result mid hmid => ?_
    cases result with
    | ok a =>
      rw [hmid.eq_of_ok]
      exact hk a
    | error e => exact hmid.error
  always {_ s cleanup} h hcleanup := by
    refine h.continueWith fun result mid hmid => ?_
    -- the cleanup asks for nothing, so the monitor stays where the strand has left it
    rcases hmid with rfl | ⟨e, rfl, rfl⟩
    · exact hcleanup.obeys_continueWith hreport hwaits fun _ => noticed_base _ broken _
    · exact hcleanup.obeys_continueWith (hreport' e) (hwaits' e) fun _ => .inr ⟨e, rfl, rfl⟩

end Strand

end RecipeRunner

import Mathlib.Logic.Relation
import RecipeRunner.Proofs.Run.Turn
/-!
# The passes of a loop

A loop sets its variables, runs its body and goes on to the next pass, if the body signals to go
on.  Others may change the store at any time, and nothing is known of the body.  So a run of the
loop is taken apart into the runs of its body, one for each pass that has begun, and into what the
loop does between them; this holds of a run that has not come to its end, too.

* `Strand.Inside`: a run that is, but for reports and for changes of the store around it, a run of a
  strand inside.
* `Run.inside_loop`: a run of a loop is one of what the loop repeats.
* `Run.Rounds`: what a loop does from pass to pass.
* `Run.progress_turn`: behind a pass that signals to go on the loop goes on, behind any other one it
  ends.
-/

namespace RecipeRunner

namespace Event

instance : DecidablePred IsReported
  | reported _ => isTrue trivial
  | command .. | asked .. | confirmed .. | launched _ | noted _ => isFalse id

/-- The events apart from reports. -/
def unreported (events : List Event) : List Event :=
  events.filter fun event => ¬ event.IsReported

@[simp] theorem unreported_append (events more : List Event) :
    unreported (events ++ more) = unreported events ++ unreported more :=
  List.filter_append _ _

end Event

namespace Strand

open Event (unreported)
open Relation (ReflTransGen)

variable {α β γ : Type} {others : Store → Store → Prop} {store last : Store}
  {events : List Event}

/-! ## First steps -/

/-- The strand has not come to its end, but it can take no step from the store. -/
def Stuck (s : Strand α) (store : Store) : Prop :=
  (∀ result, s ≠ done result) ∧ ∀ new next mid, ¬ Move s store new next mid

theorem not_stuck_done (result : Except Error α) : ¬ (done result).Stuck store :=
  fun h => h.1 result rfl

theorem not_stuck_update (change : Store → Store) (next : Store → Strand α) :
    ¬ (update change next).Stuck store :=
  fun h => h.2 _ _ _ (.update change next store)

theorem not_stuck_report (text : Streams) (next : Strand α) : ¬ (report text next).Stuck store :=
  fun h => h.2 _ _ _ (.report text next store)

/-- Of two strands in a row the first is stuck if it has not ended. -/
theorem Stuck.of_continueWith {s : Strand α} {k : Except Error α → Strand β}
    (h : (s.continueWith k).Stuck store) (hs : ∀ result, s ≠ done result) : s.Stuck store :=
  ⟨hs, fun _ _ _ hmove => h.2 _ _ _ (hmove.continueWith k)⟩

theorem Moves.of_done {result : Except Error α} {t : Strand α}
    (h : Moves others (done result) store events t last) :
    t = done result ∧ events = [] ∧ ReflTransGen others store last := by
  generalize hs : done result = s at h
  induction h with
  | refl =>
    subst hs
    exact ⟨rfl, rfl, .refl⟩
  | own hmove =>
    subst hs
    cases hmove
  | other hother _ ih =>
    obtain ⟨ht, hevents, hlast⟩ := ih hs
    exact ⟨ht, hevents, .head hother hlast⟩

theorem Moves.of_endless {t : Strand α} (h : Moves others endless store events t last) :
    t = endless ∧ events = [] := by
  generalize hs : (endless : Strand α) = s at h
  induction h with
  | refl =>
    subst hs
    exact ⟨rfl, rfl⟩
  | own hmove =>
    subst hs
    cases hmove
  | other _ _ ih => exact ih hs

theorem Moves.of_update {change : Store → Store} {next : Store → Strand α} {t : Strand α}
    (h : Moves others (update change next) store events t last) :
    (t = update change next ∧ events = []) ∨
      ∃ mid, ReflTransGen others store mid ∧
        Moves others (next mid) (change mid) events t last := by
  generalize hs : update change next = s at h
  induction h with
  | refl =>
    subst hs
    exact .inl ⟨rfl, rfl⟩
  | own hmove hmoves =>
    subst hs
    cases hmove
    exact .inr ⟨_, .refl, hmoves⟩
  | other hother _ ih =>
    rcases ih hs with hstart | ⟨mid, hmid, hmoves⟩
    · exact .inl hstart
    · exact .inr ⟨mid, .head hother hmid, hmoves⟩

/-- A run of two strands in a row is still in the first, or the first has ended. -/
theorem Moves.cases_continueWith {s : Strand α} {k : Except Error α → Strand β} {t : Strand β}
    (h : Moves others (s.continueWith k) store events t last) :
    (∃ next, (∀ result, next ≠ done result) ∧ t = next.continueWith k ∧
      Moves others s store events next last) ∨
      ∃ before result mid after, events = before ++ after ∧
        Moves others s store before (done result) mid ∧
          Moves others (k result) mid after t last := by
  rcases h.of_continueWith with ⟨next, rfl, hfirst⟩ | hsecond
  · by_cases hnext : ∀ result, next ≠ done result
    · exact .inl ⟨next, hnext, rfl, hfirst⟩
    · push Not at hnext
      obtain ⟨result, rfl⟩ := hnext
      exact .inr ⟨events, result, last, [], (List.append_nil events).symm, hfirst, .refl _ _⟩
  · exact .inr hsecond

theorem continueWith_ne_done {s : Strand α} {k : Except Error α → Strand β}
    (h : ∀ result, s ≠ done result) (result : Except Error β) : s.continueWith k ≠ done result := by
  cases s with
  | done last => exact absurd rfl (h last)
  | _ => nofun

/-! ## Strands that only settle things -/

/-- The strand changes the store as `R` says, it reports, and it comes to the result. -/
def Settles (R : Store → Store → Prop) (result : Except Error α) : Strand α → Prop
  | done last => last = result
  | update change next => ∀ store, R store (change store) ∧ (next store).Settles R result
  | report _ next => next.Settles R result
  | endless | command .. | ask .. | confirm .. | launch .. | note .. | await _ => False

theorem Settles.not_stuck {R : Store → Store → Prop} {s : Strand α} {result : Except Error α}
    (h : s.Settles R result) : ¬ s.Stuck store := by
  cases s with
  | done last => exact not_stuck_done last
  | update change next => exact not_stuck_update change next
  | report text next => exact not_stuck_report text next
  | endless | command | ask | confirm | launch | note | await => exact h.elim

theorem Settles.moves {R : Store → Store → Prop} [IsPreorder Store R] {s t : Strand α}
    {result : Except Error α} (h : s.Settles R result)
    (hothers : ∀ store mid, others store mid → R store mid)
    (hmoves : Moves others s store events t last) :
    unreported events = [] ∧ R store last ∧ t.Settles R result := by
  induction hmoves with
  | refl => exact ⟨rfl, refl _, h⟩
  | own hmove _ ih =>
    cases hmove with
    | update change next =>
      obtain ⟨hevents, hlast, ht⟩ := ih (h _).2
      exact ⟨hevents, IsTrans.trans _ _ _ (h _).1 hlast, ht⟩
    | report text next =>
      obtain ⟨hevents, hlast, ht⟩ := ih h
      exact ⟨hevents, hlast, ht⟩
    | command | ask | confirm | launch | note | await => exact h.elim
  | other hother _ ih =>
    obtain ⟨hevents, hlast, ht⟩ := ih h
    exact ⟨hevents, IsTrans.trans _ _ _ (hothers _ _ hother) hlast, ht⟩

theorem Settles.continueWith {R : Store → Store → Prop} {s : Strand α}
    {k : Except Error α → Strand β} {first : Except Error α} {result : Except Error β}
    (h : s.Settles R first) (hk : (k first).Settles R result) :
    (s.continueWith k).Settles R result := by
  induction s with
  | done last =>
    obtain rfl : last = first := h
    exact hk
  | update change next ih => exact fun store => ⟨(h store).1, ih store (h store).2⟩
  | report text next ih => exact ih h
  | endless | command | ask | confirm | launch | note | await => exact h.elim

/-! ## Runs inside runs -/

/-- The run that has come from somewhere to `t` is, but for reports and for changes of the store
around it, a run of `s` from `entered`; what that comes to, it makes `f` of. -/
def Inside (others : Store → Store → Prop) (f : Except Error α → Except Error β) (s : Strand α)
    (entered : Store) (events : List Event) (t : Strand β) (last : Store) : Prop :=
  ∃ own inner mid, Moves others s entered own inner mid ∧ unreported events = unreported own ∧
    (∀ result, t = done result → ∃ outcome, inner = done outcome ∧ f outcome = result) ∧
      (t.Stuck last → inner.Stuck mid)

theorem inside_self {s t : Strand α} (h : Moves others s store events t last) :
    Inside others id s store events t last :=
  ⟨events, t, last, h, rfl, fun result ht => ⟨result, ht, rfl⟩, id⟩

/-- What runs inside of what runs inside, runs inside. -/
theorem Inside.comp {f : Except Error β → Except Error γ} {g : Except Error α → Except Error β}
    {s : Strand α} {t : Strand γ} {entered : Store} {own : List Event} {inner : Strand β}
    {mid : Store} (h : Inside others g s entered own inner mid)
    (hown : unreported events = unreported own)
    (hresult : ∀ result, t = done result → ∃ outcome, inner = done outcome ∧ f outcome = result)
    (hstuck : t.Stuck last → inner.Stuck mid) : Inside others (f ∘ g) s entered events t last := by
  obtain ⟨own', inner', mid', hmoves', hown', hresult', hstuck'⟩ := h
  refine ⟨own', inner', mid', hmoves', hown.trans hown', fun result ht => ?_,
    fun ht => hstuck' (hstuck ht)⟩
  obtain ⟨outcome, hinner, hf⟩ := hresult result ht
  obtain ⟨outcome', hinner', hg⟩ := hresult' outcome hinner
  exact ⟨outcome', hinner', (congrArg f hg).trans hf⟩

/-- What runs inside of a strand runs inside behind the first change of the store. -/
theorem Inside.update {f : Except Error α → Except Error β} {change : Store → Store}
    {next : Store → Strand α} {t : Strand β}
    (h : Inside others f (update change next) store events t last) :
    ∃ mid, ReflTransGen others store mid ∧
      Inside others f (next mid) (change mid) events t last := by
  obtain ⟨own, inner, mid, hmoves, hown, hresult, hstuck⟩ := h
  rcases hmoves.of_update with ⟨rfl, rfl⟩ | ⟨first, hfirst, hmoves⟩
  · -- nothing has happened yet, and the rest can still run from here
    refine ⟨store, .refl, [], next store, change store, .refl _ _, hown, fun result ht => ?_,
      fun ht => absurd (hstuck ht) (not_stuck_update change next)⟩
    obtain ⟨outcome, hinner, -⟩ := hresult result ht
    cases hinner
  · exact ⟨first, hfirst, (inside_self hmoves).comp hown hresult hstuck⟩

/-- What only settles things behind a strand leaves the run of the strand inside. -/
theorem inside_continueWith {s : Strand α} {k : Except Error α → Strand β} {t : Strand β}
    {f : Except Error α → Except Error β} (h : Moves others (s.continueWith k) store events t last)
    (hk : ∀ outcome, (k outcome).Settles (fun _ _ => True) (f outcome)) :
    Inside others f s store events t last := by
  have : IsPreorder Store fun _ _ => True := { refl _ := trivial, trans _ _ _ _ _ := trivial }
  rcases h.cases_continueWith with ⟨next, hnext, rfl, hfirst⟩ | ⟨before, outcome, mid, after, rfl,
    hfirst, hsecond⟩
  · exact ⟨events, next, last, hfirst, rfl,
      fun result ht => absurd ht (continueWith_ne_done hnext result),
      fun hstuck => hstuck.of_continueWith hnext⟩
  · obtain ⟨hafter, -, ht⟩ := (hk outcome).moves (fun _ _ _ => trivial) hsecond
    refine ⟨before, done outcome, mid, hfirst, ?_, ?_, fun hstuck => absurd hstuck ht.not_stuck⟩
    · rw [Event.unreported_append, hafter, List.append_nil]
    · rintro result rfl
      exact ⟨outcome, rfl, Eq.symm ht⟩

theorem Inside.continueWith {f : Except Error β → Except Error γ}
    {g : Except Error α → Except Error β} {s : Strand α} {k : Except Error α → Strand β}
    {t : Strand γ} (h : Inside others f (s.continueWith k) store events t last)
    (hk : ∀ outcome, (k outcome).Settles (fun _ _ => True) (g outcome)) :
    Inside others (f ∘ g) s store events t last := by
  obtain ⟨own, inner, mid, hmoves, hown, hresult, hstuck⟩ := h
  exact (inside_continueWith hmoves hk).comp hown hresult hstuck

end Strand

namespace Run

open Event (unreported)
open Relation (ReflTransGen)
open Strand (Inside Moves done)

variable {α : Type} {others : Store → Store → Prop} {store last : Store} {events : List Event}

/-! ## What a loop does around its passes -/

/-- What an operation that is a loop comes to, by what its passes have come to. -/
def loopResult (op : Operation) : Except Error Signal → Except Error Signal
  | .ok .exit => .ok .exit
  | .ok _ => .ok (.ofOperation op)
  | .error e => .error e

theorem inside_condensed (r : Run) (on : Bool) {s t : Strand α}
    (h : Moves others (r.condensed on s) store events t last) :
    ∃ mid, ReflTransGen others store mid ∧
      Inside others id s (if on then mid.setProgress true else mid) events t last := by
  cases on with
  | false => exact ⟨store, .refl, Strand.inside_self h⟩
  | true =>
    obtain ⟨mid, hmid, hinside⟩ := (Strand.inside_self h).update
    refine ⟨mid, hmid, hinside.continueWith (g := id) fun outcome => ?_⟩
    refine fun _ => ⟨trivial, ?_⟩
    cases mid.progress with
    | true => exact rfl
    | false => exact rfl

theorem inside_inLoop {f : Except Error α → Except Error α} {kind : String} {depth : Nat}
    {names : List String} {s t : Strand α}
    (h : Inside others f (inLoop kind depth names s) store events t last) :
    ∃ first second, ReflTransGen others store first ∧
      ReflTransGen others (first.pushLoop kind depth) second ∧
        Inside others f s second events t last := by
  obtain ⟨first, hfirst, hinside⟩ := h.update
  obtain ⟨second, hsecond, hinside⟩ := Inside.update hinside
  exact ⟨first, second, hfirst, hsecond,
    hinside.continueWith (g := id) fun outcome => fun _ => ⟨trivial, fun _ => ⟨trivial, rfl⟩⟩⟩

/-- A run of a loop is one of what it repeats. -/
theorem inside_loop {r : Run} {flow : ControlFlow} {op : Operation} {id : String} {depth : Nat}
    {body t : Strand Signal} (h : Moves others (r.loop flow op id depth body) store events t last) :
    ∃ mid, ReflTransGen others store mid ∧
      Inside others (loopResult op) (r.repeated flow depth body)
        (if flow.progress then mid.setProgress true else mid) events t last := by
  obtain ⟨mid, hmid, hinside⟩ := inside_condensed r _ h
  refine ⟨mid, hmid, hinside.continueWith (g := loopResult op) fun outcome => ?_⟩
  have hown : (setResult id true >>= fun _ => pure (Signal.ofOperation op)).Settles
      (fun _ _ => True) (.ok (.ofOperation op)) := by
    unfold setResult
    split
    · exact rfl
    · exact fun _ => ⟨trivial, rfl⟩
  match outcome with
  | .ok .exit => exact rfl
  | .ok .next => exact hown
  | .ok .stop => exact hown
  | .error e => exact rfl

/-! ## Passes -/

/-- The run of a body in one pass: where it has started, and how far it has come. -/
structure Pass where
  start : Store
  events : List Event
  state : Strand Signal
  last : Store

namespace Pass

/-- The pass is a run of the body. -/
def Runs (others : Store → Store → Prop) (body : Strand Signal) (p : Pass) : Prop :=
  Moves others body p.start p.events p.state p.last

/-- The pass has come to its end and signals to go on. -/
def GoesOn (p : Pass) : Prop :=
  p.state = done (.ok .next)

/-- The store that passes have left, which is `entered` if there are none. -/
def leftBy (entered : Store) (ps : List Pass) : Store :=
  ps.foldl (fun _ p => p.last) entered

/-- What passes have done, apart from reports. -/
def unreported (ps : List Pass) : List Event :=
  ps.flatMap fun p => Event.unreported p.events

end Pass

/-- A loop makes passes from a number and a store on, and it has come to a result if there is one:
`begins` says how a pass begins, and `stops` how the loop ends before a pass. -/
inductive Rounds (others : Store → Store → Prop) (body : Strand Signal)
    (begins : Nat → Store → Store → Prop) (stops : Nat → Store → Except Error Signal → Prop) :
    Nat → Store → List Pass → Option (Except Error Signal) → Prop
  | between (number : Nat) (s : Store) : Rounds others body begins stops number s [] none
  | stopped {number : Nat} {s : Store} {result : Except Error Signal} :
    stops number s result → Rounds others body begins stops number s [] (some result)
  | inside {number : Nat} {s : Store} {p : Pass} :
    begins number s p.start → p.Runs others body →
      Rounds others body begins stops number s [p] none
  | ended {number : Nat} {s : Store} {p : Pass} {result : Except Error Signal} :
    begins number s p.start → p.Runs others body → p.state = done result → result ≠ .ok .next →
      Rounds others body begins stops number s [p] (some result)
  | next {number : Nat} {s : Store} {p : Pass} {ps : List Pass}
    {result? : Option (Except Error Signal)} :
    begins number s p.start → p.Runs others body → p.GoesOn →
      Rounds others body begins stops (number + 1) p.last ps result? →
        Rounds others body begins stops number s (p :: ps) result?

section

variable {body : Strand Signal} {begins : Nat → Store → Store → Prop}
  {stops : Nat → Store → Except Error Signal → Prop} {unlimited : Prop}

/-- Each pass is a run of the body that begins where the one before it has left the store, and all
but the last one have signalled to go on. -/
theorem Rounds.pass {number : Nat} {s : Store} {ps : List Pass}
    {result? : Option (Except Error Signal)}
    (h : Rounds others body begins stops number s ps result?) {j : Nat} {p : Pass}
    (hp : ps[j]? = some p) : p.Runs others body ∧
      begins (number + j) (Pass.leftBy s (ps.take j)) p.start ∧ (j + 1 < ps.length → p.GoesOn) := by
  induction h generalizing j with
  | between | stopped => cases hp
  | inside hbegins hruns | ended hbegins hruns =>
    cases j with
    | zero =>
      obtain rfl := Option.some.inj hp
      exact ⟨hruns, hbegins, fun hlt => absurd hlt (Nat.lt_irrefl 1)⟩
    | succ j => cases hp
  | @next number s q ps _ hbegins hruns hgoes _ ih =>
    cases j with
    | zero =>
      obtain rfl := Option.some.inj hp
      exact ⟨hruns, hbegins, fun _ => hgoes⟩
    | succ j =>
      obtain ⟨hruns', hbegins', hgoes'⟩ := ih hp
      rw [Nat.add_right_comm] at hbegins'
      exact ⟨hruns', hbegins', fun hlt => hgoes' (Nat.lt_of_succ_lt_succ hlt)⟩

/-- A loop that has come to a result has stopped behind passes that signalled to go on, or its last
pass has come to the result. -/
theorem Rounds.result {number : Nat} {s : Store} {ps : List Pass} {result : Except Error Signal}
    (h : Rounds others body begins stops number s ps (some result)) :
    ((∀ p ∈ ps, p.GoesOn) ∧ stops (number + ps.length) (Pass.leftBy s ps) result) ∨
      ∃ p, ps.getLast? = some p ∧ p.state = done result ∧ result ≠ .ok .next := by
  generalize hresult : some result = result? at h
  induction h with
  | between | inside => cases hresult
  | stopped hstops =>
    obtain rfl := Option.some.inj hresult
    exact .inl ⟨List.forall_mem_nil _, hstops⟩
  | ended _ _ hstate hne =>
    obtain rfl := Option.some.inj hresult
    exact .inr ⟨_, rfl, hstate, hne⟩
  | @next number s q ps _ _ _ hgoes _ ih =>
    rcases ih hresult with ⟨hps, hstops⟩ | ⟨p, hlast, hstate, hne⟩
    · rw [Nat.add_right_comm] at hstops
      exact .inl ⟨List.forall_mem_cons.2 ⟨hgoes, hps⟩, hstops⟩
    · refine .inr ⟨p, ?_, hstate, hne⟩
      rw [List.getLast?_cons, hlast]
      rfl

/-- How far a run of a loop has come from a number and a store on: some passes have begun, and where
it is stuck, the last one is, unless it has given up a loop without limit. -/
def Progress (others : Store → Store → Prop) (body : Strand Signal)
    (begins : Nat → Store → Store → Prop) (stops : Nat → Store → Except Error Signal → Prop)
    (unlimited : Prop) (number : Nat) (s : Store) (events : List Event) (t : Strand Signal)
    (last : Store) : Prop :=
  ∃ ps result?, Rounds others body begins stops number s ps result? ∧
    unreported events = Pass.unreported ps ∧ (∀ result, t = done result → result? = some result) ∧
      (t.Stuck last → unlimited ∨ ∃ p, ps.getLast? = some p ∧ p.state.Stuck p.last)

theorem progress_between {number : Nat} {s : Store} {t : Strand Signal}
    (ht : ∀ result, t ≠ done result) (hstuck : t.Stuck last → unlimited) :
    Progress others body begins stops unlimited number s [] t last :=
  ⟨[], none, .between number s, rfl, fun result hdone => absurd hdone (ht result),
    fun h => .inl (hstuck h)⟩

theorem progress_update {number : Nat} {s : Store} (change : Store → Store)
    (next : Store → Strand Signal) :
    Progress others body begins stops unlimited number s [] (.update change next) last :=
  progress_between nofun fun h => absurd h (Strand.not_stuck_update change next)

theorem progress_stopped {number : Nat} {s : Store} {result : Except Error Signal}
    (h : stops number s result) :
    Progress others body begins stops unlimited number s [] (done result) last :=
  ⟨[], some result, .stopped h, rfl, fun _ hdone => congrArg some (Strand.done.inj hdone),
    fun h => absurd h (Strand.not_stuck_done result)⟩

/-- The run of a pass, with what the loop does behind the body. -/
theorem exists_pass {start : Store} {next : Strand Signal}
    {close : Except Error Signal → Strand Signal}
    (hclose : ∀ outcome, (close outcome).Settles (ReflTransGen others) outcome)
    (h : Moves others (body.continueWith close) start events next last) :
    ∃ p : Pass, p.start = start ∧ p.Runs others body ∧
      unreported events = unreported p.events ∧
      (∀ outcome, next = done outcome → p.state = done outcome ∧ ReflTransGen others p.last last) ∧
        (next.Stuck last → p.state.Stuck p.last) := by
  rcases h.cases_continueWith with ⟨inner, hinner, rfl, hbody⟩ | ⟨before, outcome, mid, after, rfl,
    hbody, hafter⟩
  · exact ⟨⟨start, events, inner, last⟩, rfl, hbody, rfl,
      fun outcome hdone => absurd hdone (Strand.continueWith_ne_done hinner outcome),
      fun hstuck => hstuck.of_continueWith hinner⟩
  · have : IsPreorder Store (ReflTransGen others) :=
      { refl _ := .refl, trans _ _ _ h h' := h.trans h' }
    obtain ⟨hreports, hlast, hnext⟩ := (hclose outcome).moves (fun _ _ => .single) hafter
    refine ⟨⟨start, before, done outcome, mid⟩, rfl, hbody, ?_, ?_,
      fun hstuck => absurd hstuck hnext.not_stuck⟩
    · rw [Event.unreported_append, hreports, List.append_nil]
    · rintro _ rfl
      exact ⟨congrArg done (Eq.symm hnext), hlast⟩

variable (hbegins : ∀ number store mid start, ReflTransGen others store mid →
    begins number mid start → begins number store start)
  (hstops : ∀ number store mid result, ReflTransGen others store mid →
    stops number mid result → stops number store result)

include hbegins hstops

/-- What others do before a loop goes on may count as done before. -/
theorem Rounds.earlier {number : Nat} {s mid : Store} {ps : List Pass}
    {result? : Option (Except Error Signal)} (hmid : ReflTransGen others s mid)
    (h : Rounds others body begins stops number mid ps result?) :
    Rounds others body begins stops number s ps result? := by
  cases h with
  | between => exact .between number s
  | stopped h => exact .stopped (hstops _ _ _ _ hmid h)
  | inside h hruns => exact .inside (hbegins _ _ _ _ hmid h) hruns
  | ended h hruns hstate hne => exact .ended (hbegins _ _ _ _ hmid h) hruns hstate hne
  | next h hruns hgoes hps => exact .next (hbegins _ _ _ _ hmid h) hruns hgoes hps

/-- Behind a pass that signals to go on the loop goes on, behind any other one it ends. -/
theorem progress_turn {number : Nat} {s start : Store} {rest t : Strand Signal}
    {close : Except Error Signal → Strand Signal} (hstart : begins number s start)
    (hclose : ∀ outcome, (close outcome).Settles (ReflTransGen others) outcome)
    (hrest : ∀ mid more, Moves others rest mid more t last →
      Progress others body begins stops unlimited (number + 1) mid more t last)
    (h : Moves others (do
      match ← body.continueWith close with
      | .next => rest
      | signal => pure signal) start events t last) :
    Progress others body begins stops unlimited number s events t last := by
  rcases h.cases_continueWith with ⟨next, hnext, rfl, hturn⟩ | ⟨before, outcome, mid, after, rfl,
    hturn, hafter⟩
  · obtain ⟨p, rfl, hruns, hevents, -, hstuck⟩ := exists_pass hclose hturn
    refine ⟨[p], none, .inside hstart hruns, ?_, fun result hdone =>
      absurd hdone (Strand.continueWith_ne_done hnext result),
      fun h => .inr ⟨p, rfl, hstuck (h.of_continueWith hnext)⟩⟩
    rw [hevents, Pass.unreported, List.flatMap_singleton]
  · obtain ⟨p, rfl, hruns, hevents, hdone, -⟩ := exists_pass hclose hturn
    obtain ⟨hstate, hmid⟩ := hdone outcome rfl
    -- the pass has ended, so its signal says whether there is a further one
    have hlast : outcome ≠ .ok .next → Moves others (done outcome) mid after t last →
        Progress others body begins stops unlimited number s (before ++ after) t last := by
      intro hne hmoves
      obtain ⟨rfl, rfl, -⟩ := hmoves.of_done
      refine ⟨[p], some outcome, .ended hstart hruns hstate hne, ?_,
        fun _ ht => congrArg some (Strand.done.inj ht),
        fun h => absurd h (Strand.not_stuck_done outcome)⟩
      rw [List.append_nil, hevents, Pass.unreported, List.flatMap_singleton]
    match outcome with
    | .ok .next =>
      obtain ⟨ps, result?, hps, hmore, hresult, hstuck⟩ := hrest mid after hafter
      refine ⟨p :: ps, result?, .next hstart hruns hstate (Rounds.earlier hbegins hstops hmid hps),
        ?_, hresult, fun h => ?_⟩
      · rw [Event.unreported_append, hevents, hmore, Pass.unreported, Pass.unreported,
          List.flatMap_cons]
      · refine (hstuck h).imp id fun ⟨q, hlast, hq⟩ => ⟨q, ?_, hq⟩
        rw [List.getLast?_cons, hlast]
        rfl
    | .ok .stop => exact hlast nofun hafter
    | .ok .exit => exact hlast nofun hafter
    | .error e => exact hlast nofun hafter

end

end Run

end RecipeRunner

import RecipeRunner.Proofs.Run.Interleaving
/-!
# Strands that do alike

Two strands do alike if they run the same commands, ask the same prompts and change the store in the
same way, whatever each of them reports and whether or not it condenses its output meanwhile.

* `Strand.Alike`: the relation, node by node.
* `Strand.Alike.continueWith`: it passes to strands in a row.
* `Strand.Alike.exists_solo`: what one of two such strands does by itself the other does as well.
* `Strand.Solo.unique`: a strand by itself has one end.
-/

namespace RecipeRunner

/-- Stores that differ only in whether output is condensed. -/
def Store.Alike (s t : Store) : Prop :=
  ∃ on, t = s.setProgress on

namespace Store.Alike

variable {s t u : Store}

theorem refl (s : Store) : s.Alike s :=
  ⟨s.progress, rfl⟩

theorem symm (h : s.Alike t) : t.Alike s := by
  obtain ⟨on, rfl⟩ := h
  exact ⟨s.progress, rfl⟩

theorem trans (h : s.Alike t) (h' : t.Alike u) : s.Alike u := by
  obtain ⟨on, rfl⟩ := h
  obtain ⟨on', rfl⟩ := h'
  exact ⟨on', rfl⟩

end Store.Alike

namespace Strand

variable {α β : Type}

/-- Strands that differ only in what they report, in what they tell of operations, and in whether
they condense output. -/
inductive Alike {α : Type} : Strand α → Strand α → Prop
  | done (result : Except Error α) : Alike (done result) (done result)
  | endless : Alike endless endless
  | update {change : Store → Store} {next next' : Store → Strand α} :
    (∀ s on, change (s.setProgress on) = (change s).setProgress on) →
      (∀ s on, Alike (next s) (next' (s.setProgress on))) →
        Alike (update change next) (update change next')
  | command (call : Call) {next next' : Execution → Strand α} :
    (∀ execution, Alike (next execution) (next' execution)) →
      Alike (command call next) (command call next')
  | ask (spec : PromptSpec) {next next' : Except Error Answer → Strand α} :
    (∀ answer, Alike (next answer) (next' answer)) → Alike (ask spec next) (ask spec next')
  | confirm (label failure : String) {next next' : Except Error Bool → Strand α} :
    (∀ reply, Alike (next reply) (next' reply)) →
      Alike (confirm label failure next) (confirm label failure next')
  | note (told told' : Note) {next next' : Strand α} :
    Alike next next' → Alike (note told next) (note told' next')
  | await {next next' : Strand α} : Alike next next' → Alike (await next) (await next')
  | reportLeft (text : Streams) {next t : Strand α} : Alike next t → Alike (report text next) t
  | reportRight (text : Streams) {s next : Strand α} : Alike s next → Alike s (report text next)
  | updateLeft {change : Store → Store} {next : Store → Strand α} {t : Strand α} :
    (∀ s : Store, s.Alike (change s)) → (∀ s, Alike (next s) t) → Alike (update change next) t
  | updateRight {change : Store → Store} {next : Store → Strand α} {s : Strand α} :
    (∀ s : Store, s.Alike (change s)) → (∀ t, Alike s (next t)) → Alike s (update change next)

namespace Alike

variable {s t : Strand α}

theorem continueWith {k l : Except Error α → Strand β} (h : Alike s t)
    (hk : ∀ result, Alike (k result) (l result)) :
    Alike (s.continueWith k) (t.continueWith l) := by
  induction h with
  | done result => exact hk result
  | endless => exact .endless
  | update hchange _ ih => exact .update hchange ih
  | command call _ ih => exact .command call ih
  | ask spec _ ih => exact .ask spec ih
  | confirm label failure _ ih => exact .confirm label failure ih
  | note told told' _ ih => exact .note told told' ih
  | await _ ih => exact .await ih
  | reportLeft text _ ih => exact .reportLeft text ih
  | reportRight text _ ih => exact .reportRight text ih
  | updateLeft hchange _ ih => exact .updateLeft hchange ih
  | updateRight hchange _ ih => exact .updateRight hchange ih

theorem bind {k l : α → Strand β} (h : Alike s t) (hk : ∀ a, Alike (k a) (l a)) :
    Alike (s >>= k) (t >>= l) := by
  refine h.continueWith fun result => ?_
  cases result with
  | ok a => exact hk a
  | error e => exact .done _

theorem symm (h : Alike s t) : Alike t s := by
  induction h with
  | done result => exact .done result
  | endless => exact .endless
  | @update change next next' hchange _ ih =>
    refine .update hchange fun s on => ?_
    have := ih (s.setProgress on) s.progress
    exact this
  | command call _ ih => exact .command call ih
  | ask spec _ ih => exact .ask spec ih
  | confirm label failure _ ih => exact .confirm label failure ih
  | note told told' _ ih => exact .note told' told ih
  | await _ ih => exact .await ih
  | reportLeft text _ ih => exact .reportRight text ih
  | reportRight text _ ih => exact .reportLeft text ih
  | updateLeft hchange _ ih => exact .updateRight hchange ih
  | updateRight hchange _ ih => exact .updateLeft hchange ih

end Alike

/-! ## Strands that only report -/

/-- Strands that do nothing but report and condense output. -/
inductive Silent : Strand Unit → Prop
  | done : Silent (done (.ok ()))
  | report (text : Streams) {next : Strand Unit} : Silent next → Silent (report text next)
  | update {change : Store → Store} {next : Store → Strand Unit} :
    (∀ s : Store, s.Alike (change s)) → (∀ s, Silent (next s)) → Silent (update change next)

theorem silent_write (text : Streams) : Silent (write text) :=
  .report text .done

namespace Silent

variable {s t : Strand Unit}

theorem alike_left {k : Except Error Unit → Strand β} {u : Strand β} (h : Silent s)
    (hk : Alike (k (.ok ())) u) : Alike (s.continueWith k) u := by
  induction h with
  | done => exact hk
  | report text _ ih => exact .reportLeft text ih
  | update hchange _ ih => exact .updateLeft hchange ih

theorem alike (hs : Silent s) (ht : Silent t) : Alike s t := by
  rw [← continueWith_done s, ← continueWith_done t]
  exact hs.alike_left (ht.alike_left (.done _)).symm

theorem bind {k : Unit → Strand Unit} (h : Silent s) (hk : Silent (k ())) : Silent (s >>= k) := by
  induction h with
  | done => exact hk
  | report text _ ih => exact .report text ih
  | update hchange _ ih => exact .update hchange ih

end Silent

/-! ## Strands by themselves -/

section

variable {σ : Type} {w : Surroundings σ} {s t u : Strand α} {scene scene' mid last : Scene σ}
  {events more : List Event}

/-- What a strand does by itself in some steps, without launching anything. -/
inductive Solo (w : Surroundings σ) :
    Strand α → Scene σ → List Event → Strand α → Scene σ → Prop
  | refl (s : Strand α) (scene : Scene σ) : Solo w s scene [] s scene
  | step {s t : Strand α} {scene last : Scene σ} {step : Step σ α} {events : List Event} :
    s.step? w scene = some step → step.started = none →
      Solo w step.strand step.scene events t last →
        Solo w s scene (s.events w scene ++ events) t last

theorem Solo.trans (h : Solo w s scene events t mid) (h' : Solo w t mid more u last) :
    Solo w s scene (events ++ more) u last := by
  induction h with
  | refl => exact h'
  | step hstep hstarted _ ih =>
    rw [List.append_assoc]
    exact .step hstep hstarted (ih h')

theorem Solo.single {step : Step σ α} (h : s.step? w scene = some step)
    (hstarted : step.started = none) :
    Solo w s scene (s.events w scene) step.strand step.scene := by
  have hsolo := Solo.step h hstarted (.refl _ _)
  rwa [List.append_nil] at hsolo

/-- By itself a strand comes to one end. -/
theorem Solo.unique {result result' : Except Error α} {last' : Scene σ} {events' : List Event}
    (h : Solo w s scene events (done result) last)
    (h' : Solo w s scene events' (done result') last') :
    events' = events ∧ result' = result ∧ last' = last := by
  generalize hend : done result = t at h
  induction h generalizing events' with
  | refl =>
    subst hend
    cases h' with
    | refl => exact ⟨rfl, rfl, rfl⟩
    | step hstep => cases hstep
  | step hstep _ _ ih =>
    cases h' with
    | refl => cases hstep
    | step hstep' _ hrest' =>
      obtain rfl := Option.some.inj (hstep.symm.trans hstep')
      obtain ⟨rfl, rfl, rfl⟩ := ih hrest' hend
      exact ⟨rfl, rfl, rfl⟩

end

end Strand

/-! ## Scenes that differ in what was written -/

/-- What is asked of the surroundings, and what they reply. -/
def Event.isRequest : Event → Bool
  | command .. | asked .. | confirmed .. => true
  | reported _ | launched _ | noted _ => false

/-- The commands that are run and the prompts that are asked, with their replies, in their order. -/
def Event.requests (events : List Event) : List Event :=
  events.filter Event.isRequest

theorem Event.requests_append (events more : List Event) :
    requests (events ++ more) = requests events ++ requests more :=
  List.filter_append ..

/-- Scenes that differ only in what was written and in whether output is condensed. -/
structure Scene.Alike {σ : Type} (scene scene' : Scene σ) : Prop where
  store : scene.store.Alike scene'.store
  outside : scene'.outside = scene.outside

namespace Strand

open Event (requests)

variable {α σ : Type} {w : Surroundings σ} {s t : Strand α} {scene scene' last : Scene σ}
  {events : List Event}

/-- A step of one of two strands that do alike is some steps of the other one, or none if it only
reports. -/
theorem Alike.exists_solo_of_step (h : Alike s t) (hscene : scene.Alike scene')
    {step : Step σ α} (hstep : s.step? w scene = some step) : step.started = none ∧
      ∃ events t' last, Solo w t scene' events t' last ∧
        requests events = requests (s.events w scene) ∧ Alike step.strand t' ∧
          step.scene.Alike last := by
  induction h generalizing scene' with
  | done | endless => cases hstep
  | update hchange hnext =>
    obtain ⟨⟨on, hstore⟩, houtside⟩ := hscene
    obtain rfl := Option.some.inj hstep
    refine ⟨rfl, _, _, _, .single rfl rfl, rfl, ?_, ⟨on, ?_⟩, houtside⟩
    · rw [hstore]
      exact hnext _ _
    · simp only [hstore]
      exact hchange _ _
  | command call hnext =>
    obtain ⟨hstore, houtside⟩ := hscene
    obtain rfl := Option.some.inj hstep
    refine ⟨rfl, _, _, _, .single rfl rfl, ?_, ?_, hstore, ?_⟩
    · simp only [Strand.events, houtside]
    · simp only [houtside]
      exact hnext _
    · simp only [Scene.after, houtside]
  | ask spec hnext =>
    obtain ⟨hstore, houtside⟩ := hscene
    obtain rfl := Option.some.inj hstep
    refine ⟨rfl, _, _, _, .single rfl rfl, ?_, ?_, hstore, ?_⟩
    · simp only [Strand.events, houtside]
    · simp only [houtside]
      exact hnext _
    · simp only [Scene.after, houtside]
  | confirm label failure hnext =>
    obtain ⟨hstore, houtside⟩ := hscene
    obtain rfl := Option.some.inj hstep
    refine ⟨rfl, _, _, _, .single rfl rfl, ?_, ?_, hstore, ?_⟩
    · simp only [Strand.events, houtside]
    · simp only [houtside]
      exact hnext _
    · simp only [Scene.after, houtside]
  | note told told' hnext =>
    obtain rfl := Option.some.inj hstep
    exact ⟨rfl, _, _, _, .single rfl rfl, rfl, hnext, hscene⟩
  | await hnext =>
    simp only [step?] at hstep
    split at hstep
    · next hinFlight =>
      obtain rfl := Option.some.inj hstep
      have hinFlight' : scene'.store.inFlight = 0 := by
        obtain ⟨on, hstore⟩ := hscene.store
        rw [hstore]
        exact hinFlight
      exact ⟨rfl, _, _, _, .single (if_pos hinFlight') rfl, rfl, hnext, hscene⟩
    · cases hstep
  | reportLeft text hnext =>
    obtain rfl := Option.some.inj hstep
    exact ⟨rfl, _, _, _, .refl _ _, rfl, hnext, hscene.store, hscene.outside⟩
  | updateLeft hchange hnext =>
    obtain rfl := Option.some.inj hstep
    have hstore := (hchange scene.store).symm.trans hscene.store
    exact ⟨rfl, _, _, _, .refl _ _, rfl, hnext _, hstore, hscene.outside⟩
  | reportRight text _ ih =>
    have hwritten : scene.Alike { scene' with written := scene'.written ++ text } :=
      ⟨hscene.store, hscene.outside⟩
    obtain ⟨hstarted, events, t', last, hsolo, hrest⟩ := ih hwritten hstep
    exact ⟨hstarted, _, t', last, (Solo.single rfl rfl).trans hsolo, hrest⟩
  | @updateRight change next s hchange _ ih =>
    have hchanged : scene.Alike { scene' with store := change scene'.store } :=
      ⟨hscene.store.trans (hchange scene'.store), hscene.outside⟩
    obtain ⟨hstarted, events, t', last, hsolo, hrest⟩ := ih scene'.store hchanged hstep
    exact ⟨hstarted, _, t', last, (Solo.single rfl rfl).trans hsolo, hrest⟩

/-- What does like a strand that has come to its end comes to the same end. -/
theorem Alike.exists_solo_done {result : Except Error α} (h : Alike (.done result) t)
    (scene : Scene σ) : ∃ events last, Solo w t scene events (.done result) last ∧
      requests events = [] ∧ scene.Alike last := by
  generalize hs : Strand.done result = s at h
  induction h generalizing scene with
  | done =>
    cases hs
    exact ⟨[], scene, .refl _ _, rfl, .refl _, rfl⟩
  | reportRight text _ ih =>
    obtain ⟨events, last, hsolo, hrequests, hlast⟩ :=
      ih { scene with written := scene.written ++ text } hs
    exact ⟨_, last, (Solo.single rfl rfl).trans hsolo, hrequests, hlast.store, hlast.outside⟩
  | @updateRight change next s hchange _ ih =>
    obtain ⟨events, last, hsolo, hrequests, hlast⟩ :=
      ih scene.store { scene with store := change scene.store } hs
    exact ⟨_, last, (Solo.single rfl rfl).trans hsolo, hrequests,
      (hchange scene.store).trans hlast.store, hlast.outside⟩
  | _ => cases hs

/-- What one of two strands that do alike does by itself, the other one does as well. -/
theorem Alike.exists_solo (h : Alike s t) (hscene : scene.Alike scene') {s' : Strand α}
    (hsolo : Solo w s scene events s' last) : ∃ events' t' last',
      Solo w t scene' events' t' last' ∧ requests events' = requests events ∧ Alike s' t' ∧
        last.Alike last' := by
  induction hsolo generalizing t scene' with
  | refl s scene => exact ⟨[], t, scene', .refl _ _, rfl, h, hscene⟩
  | step hstep _ _ ih =>
    obtain ⟨-, first, t', mid, hfirst, hrequests, hnext, hmid⟩ :=
      h.exists_solo_of_step hscene hstep
    obtain ⟨rest, u, last, hrest, hrequests', hend, hlast⟩ := ih hnext hmid
    refine ⟨first ++ rest, u, last, hfirst.trans hrest, ?_, hend, hlast⟩
    rw [Event.requests_append, Event.requests_append, hrequests, hrequests']

end Strand

/-! ## Runs without units -/

namespace Schedule

open Strand (Solo)

variable {σ : Type} {r : Run} {w : Surroundings σ} {s t : Schedule σ} {events : List Event}

/-- A run in which only the main strand takes steps. -/
theorem exists_runs_of_solo {main : Strand Bool} {last : Scene σ} (hunits : s.units = [])
    (h : Solo w s.main.strand s.scene events main last) : ∃ t, Runs r w s events t ∧
      t.main.strand = main ∧ t.scene = last := by
  generalize hstrand : s.main.strand = strand at h
  generalize hscene : s.scene = scene at h
  induction h generalizing s with
  | refl => exact ⟨s, .refl s, hstrand, hscene⟩
  | @step _ _ _ _ step _ hstep hstarted _ ih =>
    subst hstrand hscene
    have hmain : s.stepMain? r w 0 = some
        { scene := step.scene, main := ⟨step.strand, 0 + step.duration⟩, units := [] } := by
      rw [stepMain?, hstep, Option.map_some, hstarted, hunits]
      rfl
    obtain ⟨t, hruns, hend⟩ := ih (s := ⟨step.scene, ⟨step.strand, 0 + step.duration⟩, []⟩)
      rfl rfl rfl
    exact ⟨t, .main 0 hmain hruns, hend⟩

/-- If the main strand does like another one, it launches nothing, so only it takes steps. -/
theorem Runs.solo (h : Runs r w s events t) (hunits : s.units = []) {other : Strand Bool}
    (halike : s.main.strand.Alike other) :
    Solo w s.main.strand s.scene events t.main.strand t.scene := by
  induction h generalizing other with
  | refl => exact .refl _ _
  | @main s u t time events hstep _ ih =>
    obtain ⟨step, hstrand, rfl⟩ := Option.map_eq_some_iff.1 hstep
    obtain ⟨hstarted, -, other', -, -, -, hnext, -⟩ :=
      halike.exists_solo_of_step ⟨.refl s.scene.store, rfl⟩ hstrand
    refine .step hstrand hstarted (ih ?_ hnext)
    rw [hstarted, hunits]
    rfl
  | unit before hmem _ _ =>
    rw [hunits] at hmem
    exact absurd hmem (by simp)

end Schedule

end RecipeRunner

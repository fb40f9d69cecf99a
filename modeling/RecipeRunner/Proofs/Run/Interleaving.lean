import RecipeRunner.Proofs.Run.Moves
import RecipeRunner.Run.Schedule
/-!
# Interleavings

The runs of a schedule in which any strand that can take a step may take the next one, with the
events of the main strand.  What the program does is one of them.  Seen from the main strand, the
background units are others that change the store between its steps.

* `Runs.moves`: in every interleaving the main strand moves as a strand can.
* `runs_of_runWithin`: the schedule that is run is an interleaving.
* `exists_runs_superseded`: in others a superseded run publishes its output behind the latest one.
-/

namespace RecipeRunner

variable {σ α : Type}

namespace Strand

/-- Anyone may change the store to anything. -/
def anyone (_ _ : Store) : Prop := True

/-- The events of the next step of a strand. -/
def events (w : Surroundings σ) (scene : Scene σ) : Strand α → List Event
  | command call _ => [.command call (w.command call scene.outside).1.reply]
  | ask spec _ => [.asked spec (w.ask spec scene.outside).1.reply]
  | confirm label failure _ =>
    [.confirmed label failure (w.confirm label failure scene.outside).1.reply]
  | report text _ => [.reported text]
  | launch unit _ => [.launched unit]
  | note told _ => [.noted told]
  | _ => []

theorem move_of_step? {w : Surroundings σ} {scene : Scene σ} {s : Strand α} {step : Step σ α}
    (h : s.step? w scene = some step) :
    Move s scene.store (s.events w scene) step.strand step.scene.store := by
  cases s with
  | done => simp [step?] at h
  | endless => simp [step?] at h
  | await next =>
    simp only [step?] at h
    split at h
    · next hstore =>
      obtain rfl := Option.some.inj h
      exact .await next hstore
    · simp at h
  | update change next =>
    obtain rfl := Option.some.inj h
    exact .update change next _
  | command call next =>
    obtain rfl := Option.some.inj h
    exact .command call next _ _
  | ask spec next =>
    obtain rfl := Option.some.inj h
    exact .ask spec next _ _
  | confirm label failure next =>
    obtain rfl := Option.some.inj h
    exact .confirm label failure next _ _
  | report text next =>
    obtain rfl := Option.some.inj h
    exact .report text next _
  | launch unit next =>
    obtain rfl := Option.some.inj h
    exact .launch unit next _
  | note told next =>
    obtain rfl := Option.some.inj h
    exact .note told next _

end Strand

namespace Schedule

/-- What a run does in some steps, each of any strand that can take one, with the events of the
main strand. -/
inductive Runs (r : Run) (w : Surroundings σ) : Schedule σ → List Event → Schedule σ → Prop
  | refl (s : Schedule σ) : Runs r w s [] s
  | main {s t u : Schedule σ} (time : Nat) {events : List Event} :
    s.stepMain? r w time = some t → Runs r w t events u →
      Runs r w s (s.main.strand.events w s.scene ++ events) u
  | unit {s t u : Schedule σ} (before : List (Ready Unit)) {unit : Ready Unit}
      {behind : List (Ready Unit)} {events : List Event} :
    s.units = before ++ unit :: behind → s.stepUnit? r w before unit behind = some t →
      Runs r w t events u → Runs r w s events u

variable {r : Run} {w : Surroundings σ}

theorem move_of_stepMain? {s t : Schedule σ} {time : Nat} (h : s.stepMain? r w time = some t) :
    Strand.Move s.main.strand s.scene.store (s.main.strand.events w s.scene) t.main.strand
      t.scene.store := by
  obtain ⟨step, hstep, rfl⟩ := Option.map_eq_some_iff.1 h
  exact Strand.move_of_step? hstep

theorem main_of_stepUnit? {s t : Schedule σ} {before behind : List (Ready Unit)}
    {unit : Ready Unit} (h : s.stepUnit? r w before unit behind = some t) : t.main = s.main := by
  obtain ⟨step, _, rfl⟩ := Option.map_eq_some_iff.1 h
  rfl

/-- The main strand moves as it can among others. -/
theorem Runs.moves {s t : Schedule σ} {events : List Event} (h : Runs r w s events t) :
    Strand.Moves Strand.anyone s.main.strand s.scene.store events t.main.strand t.scene.store := by
  induction h with
  | refl => exact .refl _ _
  | main _ hstep _ ih => exact .own (move_of_stepMain? hstep) ih
  | unit _ _ hstep _ ih =>
    rw [main_of_stepUnit? hstep] at ih
    exact .other trivial ih

/-! ## The schedule that is run -/

theorem eq_nil_of_first? {units : List (Ready Unit)} (h : first? units = none) : units = [] := by
  cases units with
  | nil => rfl
  | cons unit rest =>
    simp only [first?] at h
    split at h
    · split at h <;> simp at h
    · simp at h

theorem units_of_first? {units before behind : List (Ready Unit)} {unit : Ready Unit}
    (h : first? units = some (before, unit, behind)) : units = before ++ unit :: behind := by
  induction units generalizing before unit behind with
  | nil => simp [first?] at h
  | cons head rest ih =>
    simp only [first?] at h
    split at h
    · next earlier other later hfirst =>
      split at h
      · obtain ⟨rfl, rfl, rfl⟩ := by simpa using h
        rw [ih hfirst, List.cons_append]
      · obtain ⟨rfl, rfl, rfl⟩ := by simpa using h
        rfl
    · next hfirst =>
      obtain ⟨rfl, rfl, rfl⟩ := by simpa using h
      rw [eq_nil_of_first? hfirst, List.nil_append]

/-- The next step is one of the main strand or of a unit. -/
theorem next?_cases {s t : Schedule σ} (h : s.next? r w = some t) :
    (∃ time, s.stepMain? r w time = some t) ∨
      ∃ before unit behind, s.units = before ++ unit :: behind ∧
        s.stepUnit? r w before unit behind = some t := by
  unfold next? at h
  split at h
  · exact .inl ⟨_, h⟩
  · next before unit behind hfirst =>
    have hunits := units_of_first? hfirst
    rcases Option.or_eq_some_iff.1 h with hearly | ⟨_, hlate⟩
    · split at hearly
      · exact .inl ⟨_, hearly⟩
      · simp at hearly
    · rcases Option.or_eq_some_iff.1 hlate with hunit | ⟨_, hmain⟩
      · exact .inr ⟨before, unit, behind, hunits, hunit⟩
      · exact .inl ⟨_, hmain⟩

/-- The schedule that is run is one of the interleavings. -/
theorem runs_of_runWithin {fuel : Nat} {s : Schedule σ} {result : Except Error Bool}
    {scene : Scene σ} (h : runWithin r w fuel s = some (result, scene)) :
    ∃ events t, Runs r w s events t ∧ t.main.strand = .done result ∧ t.scene = scene := by
  induction fuel generalizing s with
  | zero => simp [runWithin] at h
  | succ fuel ih =>
    simp only [runWithin] at h
    split at h
    · next result' hmain =>
      obtain ⟨rfl, rfl⟩ := by simpa using h
      exact ⟨[], s, .refl s, hmain, rfl⟩
    · obtain ⟨t, hnext, hrest⟩ := Option.bind_eq_some_iff.1 h
      obtain ⟨events, u, hruns, hend⟩ := ih hrest
      rcases next?_cases hnext with ⟨time, hstep⟩ | ⟨before, unit, behind, hunits, hstep⟩
      · exact ⟨_, u, .main time hstep hruns, hend⟩
      · exact ⟨events, u, .unit before hunits hstep hruns, hend⟩

/-! ## Superseded runs -/

/-- Commands put out what they are. -/
def echoing : Surroundings Unit where
  command call _ := (⟨⟨.exited 0, call.command, ""⟩, {}, 0⟩, ())
  ask _ _ := (⟨.ok .exit, {}, 0⟩, ())
  confirm _ _ _ := (⟨.ok true, {}, 0⟩, ())

/-- A command and another one that is launched under its id. -/
def relaunched : List Operation :=
  [{ id := "job", command := "first", mode := .background, isSilent := true },
    { id := "job", command := "second", mode := .background, isSilent := true }]

/-- A run is recorded and published in two steps.  Where a whole later launch under its id comes
between the two, the task table has the output of the later run, and what is published in the end
is the output of the earlier one. -/
theorem exists_runs_superseded :
    ∃ events s, Runs ⟨1, 0, 0, .empty, "", {}⟩ echoing
        (start ⟨1, 0, 0, .empty, "", {}⟩ relaunched {} ()) events s ∧
      s.main.strand = .done (.ok false) ∧ s.units = [] ∧
      (s.scene.store.tasks.get? "job").map (fun task => (task.status, task.output)) =
        some (.complete, "second") ∧
      s.scene.store.outputs.get? "job" = some "first" :=
  ⟨_, _,
    -- the first launch, whose unit runs its command and records the outcome
    .main 0 rfl <| .main 0 rfl <| .main 0 rfl <| .main 0 rfl <| .main 0 rfl <| .main 0 rfl <|
    .main 0 rfl <| .main 0 rfl <| .unit [] rfl rfl <| .unit [] rfl rfl <|
    -- the second launch, whose unit runs to its end
    .main 0 rfl <| .main 0 rfl <| .main 0 rfl <| .main 0 rfl <| .main 0 rfl <| .main 0 rfl <|
    .main 0 rfl <| .main 0 rfl <| .main 0 rfl <|
    .unit [_] rfl rfl <| .unit [_] rfl rfl <| .unit [_] rfl rfl <| .unit [_] rfl rfl <|
    -- the first unit publishes, and the recipe ends
    .unit [] rfl rfl <| .unit [] rfl rfl <| .main 0 rfl <| .main 0 rfl <| .refl _,
    rfl, rfl, by decide, by decide⟩

end Schedule

end RecipeRunner

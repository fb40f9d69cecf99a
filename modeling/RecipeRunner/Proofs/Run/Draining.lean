import RecipeRunner.Proofs.Run.Standing
import RecipeRunner.Proofs.Task.Table
import RecipeRunner.Run.Outcome
import Mathlib.Algebra.GroupWithZero.Nat
import Mathlib.Algebra.Order.BigOperators.Group.List
import Mathlib.Algebra.Order.Group.Nat
/-!
# The end of background work

The count of units and the task table are changed in different steps, by different strands.  What
ties them together is who is in charge of a launch: every pending task is owed by the strand that
launches it or by a live unit, and every live unit is counted.  So when the main strand has waited
for the count to be zero, no unit is live and no task is pending.

* `Crew.Steady`: what ties the table and the count to the strands.
* `Crew.Steady.step`, `Crew.History.steady`: every step keeps it, and so does every run.
* `Schedule.drained`: what this says of interleavings.
-/

namespace RecipeRunner

/-- The units that are counted for the strand of a unit: itself, and one that it is about to
start. -/
def Strand.load (s : Strand Unit) : Nat :=
  (if s.isLive then 1 else 0) + s.startsUnit

namespace Phase

variable {bound : Nat} {phase phase' : Phase} {s t : Store} {events : List Event} {r : Run}

theorem launched_eq_nil (h : ∀ event ∈ events, event.Within bound) :
    Crew.launched r events = [] := by
  refine List.filterMap_eq_nil_iff.2 fun event hevent => ?_
  have hwithin := h event hevent
  cases event with
  | launched unit => exact hwithin.elim
  | _ => rfl

theorem Step.inFlight_eq (h : phase.Step bound s events phase' t) (r : Run) :
    t.inFlight + phase.weight =
      s.inFlight + phase'.weight + ((Crew.launched r events).map (·.2.load)).sum := by
  cases h with
  | aside _ haside hevents => simp [launched_eq_nil hevents, haside.inFlight]
  | record => rfl
  | count => rfl
  | start => rfl
  | settle => rfl

theorem Step.nodup_ids (h : phase.Step bound s events phase' t) (hs : s.tasks.ids.Nodup) :
    t.tasks.ids.Nodup := by
  cases h with
  | aside _ haside =>
    rw [haside.tasks]
    exact hs
  | record => exact TaskTable.nodup_ids_insert hs _
  | count => exact hs
  | start => exact hs
  | settle =>
    rw [Store.recordOutcome, TaskTable.ids_finish]
    exact hs

/-- A pending task is one for which the strand or a unit that it has started is in charge, or it was
pending before and the strand was not in charge of it. -/
theorem Step.pending_cases (h : phase.Step bound s events phase' t) (hs : s.tasks.ids.Nodup)
    {task : Task} (hmem : task ∈ t.tasks.tasks) (hpending : task.isFinished = false) :
    phase'.Owes task.id task.run ∨
      (∃ u, .launched u ∈ events ∧ u.id = task.id ∧ u.run = task.run) ∨
      (task ∈ s.tasks.tasks ∧ ¬ phase.Owes task.id task.run) := by
  by_cases howes : phase.Owes task.id task.run
  · cases h with
    | aside => exact .inl howes
    | record => exact howes.elim
    | count => exact .inl howes
    | start unit => exact .inr (.inl ⟨unit, List.mem_singleton_self _, howes⟩)
    | settle =>
      obtain ⟨hold, hother⟩ := TaskTable.pending_of_mem_finish hs hmem hpending
      exact absurd howes hother
  · cases h with
    | aside _ haside =>
      rw [haside.tasks] at hmem
      exact .inr (.inr ⟨hmem, howes⟩)
    | record =>
      rcases List.mem_append.1 hmem with hold | hnew
      · exact .inr (.inr ⟨(List.mem_filter.1 hold).1, howes⟩)
      · obtain rfl := List.mem_singleton.1 hnew
        exact .inl ⟨rfl, rfl⟩
    | count => exact .inr (.inr ⟨hmem, howes⟩)
    | start => exact .inr (.inr ⟨hmem, howes⟩)
    | settle =>
      exact .inr (.inr ⟨(TaskTable.pending_of_mem_finish hs hmem hpending).1, howes⟩)

end Phase

/-! ## Crews -/

namespace Crew

open Strand (Move Stands Closing)
open Run (lastOfMain lastOfUnit closing_lastOfMain closing_lastOfUnit)

variable {r : Run} {c d : Crew} {who : Option Nat} {act : Act}

/-- A strand is in charge of a launch. -/
def Owed (c : Crew) (id : String) (run : Nat) : Prop :=
  (∃ phase, c.main.Stands lastOfMain phase ∧ phase.Owes id run) ∨
    ∃ entry ∈ c.units, ∃ phase, entry.2.Stands lastOfUnit phase ∧ phase.Owes id run

/-- The units that are counted. -/
def load (c : Crew) : Nat :=
  c.main.startsUnit + (c.units.map (·.2.load)).sum

/-- The count is that of the live units, every pending task is owed, and the main strand has not
ended before the units. -/
structure Steady (c : Crew) : Prop where
  standing : c.Standing
  inFlight : c.store.inFlight = c.load
  nodup : c.store.tasks.ids.Nodup
  owed : ∀ task ∈ c.store.tasks.tasks, task.isFinished = false → c.Owed task.id task.run
  waited : ∀ result, c.main = .done result → ∀ entry ∈ c.units, entry.2.isLive = false

/-- A task that is pending behind a step is owed by the strand that has moved or by a unit that it
has started, or it was pending before and owed by none of them. -/
theorem owes_cases {α : Type} {finish : Except Error α → Strand α} {s t : Strand α} {phase : Phase}
    (h : s.Stands finish phase) (hfinish : Closing finish) {store mid : Store} {new : List Event}
    (hmove : Move s store new t mid) (hnodup : store.tasks.ids.Nodup) {task : Task}
    (hmem : task ∈ mid.tasks.tasks) (hpending : task.isFinished = false) :
    (∃ phase', t.Stands finish phase' ∧ phase'.Owes task.id task.run) ∨
      (∃ u, .launched u ∈ new ∧ u.id = task.id ∧ u.run = task.run) ∨
      (task ∈ store.tasks.tasks ∧ ∀ phase, s.Stands finish phase →
        ¬ phase.Owes task.id task.run) := by
  by_cases howed : ∃ phase, s.Stands finish phase ∧ phase.Owes task.id task.run
  · obtain ⟨phase, hphase, howes⟩ := howed
    rcases hphase.move hfinish hmove with ⟨bound, phase', hstep, ht, -⟩ | ⟨result, rfl, -⟩
    · rcases hstep.pending_cases hnodup hmem hpending with hlater | hstarted | ⟨-, hnot⟩
      · exact .inl ⟨phase', ht, hlater⟩
      · exact .inr (.inl hstarted)
      · exact absurd howes hnot
    · exact howes.elim
  · have hnone : ∀ phase, s.Stands finish phase → ¬ phase.Owes task.id task.run :=
      fun phase hphase howes => howed ⟨phase, hphase, howes⟩
    rcases h.move hfinish hmove with ⟨bound, phase', hstep, ht, -⟩ | ⟨result, -, rfl⟩
    · rcases hstep.pending_cases hnodup hmem hpending with hlater | hstarted | ⟨hold, -⟩
      · exact .inl ⟨phase', ht, hlater⟩
      · exact .inr (.inl hstarted)
      · exact .inr (.inr ⟨hold, hnone⟩)
    · obtain ⟨-, -, htasks, -⟩ := hfinish.move hmove
      rw [htasks] at hmem
      exact .inr (.inr ⟨hmem, hnone⟩)

/-! ## Steps of the main strand -/

theorem Steady.owed_main (h : c.Steady) {t : Strand Bool} {mid : Store} {new : List Event}
    (hmove : Move c.main c.store new t mid) {task : Task} (hmem : task ∈ mid.tasks.tasks)
    (hpending : task.isFinished = false) :
    Owed ⟨mid, t, c.units ++ launched r new⟩ task.id task.run := by
  obtain ⟨phase, hphase, -⟩ := h.standing.main
  rcases owes_cases hphase closing_lastOfMain hmove h.nodup hmem hpending with
    howes | ⟨u, hu, hsame⟩ | ⟨hold, hnone⟩
  · exact .inl howes
  · exact .inr ⟨_, List.mem_append_right _ (mem_launched hu), _, stands_launched (mem_launched hu),
      hsame⟩
  · rcases h.owed task hold hpending with ⟨phase, hphase, howes⟩ | ⟨entry, hentry, howes⟩
    · exact absurd howes (hnone phase hphase)
    · exact .inr ⟨entry, List.mem_append_left _ hentry, howes⟩

theorem Steady.main_step (h : c.Steady) {t : Strand Bool} {mid : Store} {new : List Event}
    (hmove : Move c.main c.store new t mid) :
    Steady ⟨mid, t, c.units ++ launched r new⟩ := by
  obtain ⟨phase, hphase, -⟩ := h.standing.main
  have hstanding := (h.standing.step (.main (r := r) hmove)).1
  have hload := h.inFlight
  rw [load, hphase.startsUnit_eq closing_lastOfMain] at hload
  rcases hphase.move closing_lastOfMain hmove with ⟨bound, phase', hstep, ht, hlive⟩ |
    ⟨result, rfl, hfinish⟩
  · refine ⟨hstanding, ?_, hstep.nodup_ids h.nodup, fun task hmem => h.owed_main hmove hmem, ?_⟩
    · have hcount := hstep.inFlight_eq r
      rw [load, ht.startsUnit_eq closing_lastOfMain, List.map_append, List.sum_append]
      dsimp only
      omega
    · rintro result (rfl : t = _)
      cases hlive
  · have howed := fun (task : Task) (hmem : task ∈ mid.tasks.tasks) =>
      h.owed_main (r := r) hmove hmem
    rw [hfinish] at hmove
    cases hmove with
    | await _ hzero =>
      -- the wait ends at a count of zero, so no unit is live
      have hweight : Phase.idle.weight = 0 := rfl
      have hsum : (c.units.map (·.2.load)).sum = 0 := by omega
      refine ⟨hstanding, ?_, h.nodup, howed, fun _ _ entry hentry => ?_⟩
      · rw [load, hzero]
        simp [launched, hsum, Strand.startsUnit]
      · simp only [launched, List.filterMap_nil, List.append_nil] at hentry
        have hentryLoad := List.sum_eq_zero_iff.1 hsum _ (List.mem_map_of_mem hentry)
        rw [Strand.load] at hentryLoad
        cases hlive : entry.2.isLive with
        | false => rfl
        | true => simp [hlive] at hentryLoad

/-! ## Steps of units -/

section

variable {before behind : List (Launch × Strand Unit)} {u : Launch} {s t : Strand Unit}
  {mid : Store} {new : List Event}

theorem Steady.owed_unit (h : c.Steady) (hunits : c.units = before ++ (u, s) :: behind)
    (hmove : Move s c.store new t mid) {task : Task} (hmem : task ∈ mid.tasks.tasks)
    (hpending : task.isFinished = false) :
    Owed ⟨mid, c.main, before ++ (u, t) :: behind ++ launched r new⟩ task.id task.run := by
  obtain ⟨-, phase, hphase, -⟩ := h.standing.units (u, s) (by simp [hunits])
  rcases owes_cases hphase closing_lastOfUnit hmove h.nodup hmem hpending with
    howes | ⟨unit, hunit, hsame⟩ | ⟨hold, hnone⟩
  · exact .inr ⟨(u, t), by simp, howes⟩
  · exact .inr ⟨_, List.mem_append_right _ (mem_launched hunit), _,
      stands_launched (mem_launched hunit), hsame⟩
  · rcases h.owed task hold hpending with howes | ⟨entry, hentry, phase, hphase, howes⟩
    · exact .inl howes
    · rw [hunits] at hentry
      rcases List.mem_append.1 hentry with hentry | hentry
      · exact .inr ⟨entry, by simp [hentry], phase, hphase, howes⟩
      · rcases List.mem_cons.1 hentry with rfl | hentry
        · exact absurd howes (hnone phase hphase)
        · exact .inr ⟨entry, by simp [hentry], phase, hphase, howes⟩

theorem Steady.unit_step (h : c.Steady) (hunits : c.units = before ++ (u, s) :: behind)
    (hmove : Move s c.store new t mid) :
    Steady ⟨mid, c.main, before ++ (u, t) :: behind ++ launched r new⟩ := by
  obtain ⟨-, phase, hphase, -⟩ := h.standing.units (u, s) (by simp [hunits])
  have hstanding := (h.standing.step (.unit (r := r) hunits hmove)).1
  have hwaited : ∀ result, c.main = .done result → False := by
    intro result hmain
    have hended := h.waited result hmain (u, s) (by simp [hunits])
    rw [hmove.isLive] at hended
    cases hended
  have howed := fun (task : Task) (hmem : task ∈ mid.tasks.tasks) =>
    h.owed_unit (r := r) hunits hmove hmem
  have hload := h.inFlight
  rw [load, hunits, List.map_append, List.map_cons, List.sum_append, List.sum_cons, Strand.load,
    hmove.isLive, if_pos rfl, hphase.startsUnit_eq closing_lastOfUnit] at hload
  rcases hphase.move closing_lastOfUnit hmove with ⟨bound, phase', hstep, ht, hlive⟩ |
    ⟨result, rfl, rfl⟩
  · refine ⟨hstanding, ?_, hstep.nodup_ids h.nodup, howed,
      fun result hmain => (hwaited result hmain).elim⟩
    have hcount := hstep.inFlight_eq r
    rw [load, List.map_append, List.map_append, List.map_cons, List.sum_append, List.sum_append,
      List.sum_cons, Strand.load, hlive, if_pos rfl, ht.startsUnit_eq closing_lastOfUnit]
    dsimp only at hload ⊢
    omega
  · cases hmove with
    | update =>
      refine ⟨hstanding, ?_, h.nodup, howed, fun result hmain => (hwaited result hmain).elim⟩
      have hended : Strand.load (.done result) = 0 := rfl
      have hnone : launched r [] = [] := rfl
      have hidle : Phase.idle.weight = 0 := rfl
      rw [load, Store.endUnit, hnone, List.append_nil, List.map_append, List.map_cons,
        List.sum_append, List.sum_cons, hended]
      dsimp only at hload ⊢
      omega

end

theorem Steady.step (h : c.Steady) {who : Option Nat} {act : Act} (hstep : Step r c who act d) :
    d.Steady := by
  cases hstep with
  | main hmove => exact h.main_step hmove
  | unit hunits hmove => exact h.unit_step hunits hmove

theorem History.steady {acts : List (Option Nat × Act)} (h : History r c acts d) (hc : c.Steady) :
    d.Steady := by
  induction h with
  | nil => exact hc
  | snoc _ hstep ih => exact ih.step hstep

theorem steady_start (r : Run) (ops : List Operation) {store : Store}
    (hinFlight : store.inFlight = 0) (htasks : store.tasks.tasks = []) :
    (start r ops store).Steady where
  standing := standing_start r ops store
  inFlight := by
    have hmain := (Run.stands_mainStrand r ops).startsUnit_eq closing_lastOfMain
    change store.inFlight = (r.mainStrand ops).startsUnit + 0
    rw [hmain, hinFlight]
    rfl
  nodup := by
    rw [TaskTable.ids]
    simp [start, htasks]
  owed := by
    intro task hmem
    simp [start, htasks] at hmem
  waited := nofun

end Crew

/-! ## Interleavings -/

namespace Schedule

variable {σ : Type} {r : Run} {w : Surroundings σ}

/-- The live units and those that a strand has counted and is about to start. -/
def counted (s : Schedule σ) : Nat :=
  s.units.length + (s.main.strand.startsUnit + (s.units.map (·.strand.startsUnit)).sum)

/-- Every unit that a strand has counted is started. -/
def AllStarted (s : Schedule σ) : Prop :=
  s.main.strand.startsUnit = 0 ∧ ∀ unit ∈ s.units, unit.strand.startsUnit = 0

theorem counted_of_allStarted {s : Schedule σ} (h : s.AllStarted) :
    s.counted = s.units.length := by
  have hunits : (s.units.map (·.strand.startsUnit)).sum = 0 := by
    simpa [List.sum_eq_zero_iff] using h.2
  rw [counted, h.1, hunits]
  rfl

theorem load_units (units : List (Launch × Strand Unit)) :
    (units.map (·.2.load)).sum =
      (Crew.live units).length + ((Crew.live units).map Strand.startsUnit).sum := by
  induction units with
  | nil => rfl
  | cons entry rest ih =>
    rw [List.map_cons, List.sum_cons, ih, Strand.load, Crew.live, Crew.live]
    cases hlive : entry.2.isLive with
    | true =>
      simp only [List.filter_cons, hlive, List.map_cons, List.length_cons, List.sum_cons, if_true]
      omega
    | false =>
      have hnone : entry.2.startsUnit = 0 := by
        cases hentry : entry.2 with
        | done => rfl
        | _ => simp [hentry, Strand.isLive] at hlive
      rw [List.filter_cons_of_neg (by simp [hlive]), hnone]
      simp

theorem Shows.counted_eq {s : Schedule σ} {c : Crew} (h : s.Shows c) : s.counted = c.load := by
  have hlength := congrArg List.length h.units
  have hstarts := congrArg (fun strands => (strands.map Strand.startsUnit).sum) h.units
  rw [List.length_map] at hlength
  simp only [List.map_map] at hstarts
  rw [counted, Crew.load, load_units, hlength, hstarts, h.main]
  exact Nat.add_left_comm ..

theorem Shows.isFinished_of_done {s : Schedule σ} {c : Crew} (h : s.Shows c) (hc : c.Steady)
    {result : Except Error Bool} (hmain : s.main.strand = .done result) :
    s.units = [] ∧ ∀ task ∈ s.scene.store.tasks.tasks, task.isFinished = true := by
  have hwaited := hc.waited result (h.main.trans hmain)
  have hlive : Crew.live c.units = [] := by
    rw [Crew.live, List.map_eq_nil_iff, List.filter_eq_nil_iff]
    intro entry hentry
    simp [hwaited entry hentry]
  refine ⟨List.map_eq_nil_iff.1 (h.units.symm.trans hlive), fun task hmem => ?_⟩
  cases hpending : task.isFinished with
  | true => rfl
  | false =>
    exfalso
    rw [← h.store] at hmem
    rcases hc.owed task hmem hpending with ⟨phase, hphase, howes⟩ |
      ⟨entry, hentry, phase, hphase, howes⟩
    · have hended : c.main.isLive = false := by rw [h.main, hmain]; rfl
      rw [hphase.eq_idle Run.closing_lastOfMain hended] at howes
      exact howes
    · rw [hphase.eq_idle Run.closing_lastOfUnit (hwaited entry hentry)] at howes
      exact howes

theorem Runs.exists_steady {ops : List Operation} {store : Store} {outside : σ}
    {events : List Event} {t : Schedule σ} (h : Runs r w (start r ops store outside) events t)
    (hinFlight : store.inFlight = 0) (htasks : store.tasks.tasks = []) :
    ∃ c : Crew, t.Shows c ∧ c.Steady := by
  obtain ⟨acts, c, hacts, hshows, -⟩ := h.exists_history (shows_start ops store outside)
  exact ⟨c, hshows, hacts.steady (Crew.steady_start r ops hinFlight htasks)⟩

/-- In every interleaving of a run the count is that of the units that are live or about to be
started, because a unit is counted right before it is started.  So it is that of the live units
where no launch is halfway, and the main strand comes to its end only when no unit is live and no
task is pending. -/
theorem drained {ops : List Operation} {store : Store} {outside : σ} {events : List Event}
    {t : Schedule σ} (hinFlight : store.inFlight = 0) (htasks : store.tasks.tasks = [])
    (h : Runs r w (start r ops store outside) events t) :
    t.scene.store.inFlight = t.counted ∧
      (t.AllStarted → t.scene.store.inFlight = t.units.length) ∧
      ∀ result, t.main.strand = .done result →
        t.units = [] ∧ ∀ task ∈ t.scene.store.tasks.tasks, task.isFinished = true := by
  obtain ⟨c, hshows, hc⟩ := h.exists_steady hinFlight htasks
  have hcounted : t.scene.store.inFlight = t.counted := by
    rw [← hshows.store, hc.inFlight, hshows.counted_eq]
  exact ⟨hcounted, fun hstarted => hcounted.trans (counted_of_allStarted hstarted),
    fun result hmain => hshows.isFinished_of_done hc hmain⟩

/-- A command whose handler is another one that runs in the background. -/
def handedOn : Operation :=
  { id := "job", command := "first", mode := .background, isSilent := true, onSuccess := "more" }

/-- What the handler of the command refers to. -/
def handingOn : Run where
  maxDepth := 1
  maxRepeats := 0
  patience := 0
  handlers :=
    ⟨[("more", { id := "more", command := "second", mode := .background, isSilent := true })]⟩
  input := ""
  console := {}

/-- The handler launches a unit while the main strand waits. -/
theorem drained_handedOn :
    ∃ events t, Runs handingOn echoing (start handingOn [handedOn] {} ()) events t ∧
      t.main.strand = .done (.ok false) ∧ t.scene.store.inFlight = t.counted ∧ t.units = [] ∧
      ∀ task ∈ t.scene.store.tasks.tasks, task.isFinished = true := by
  obtain ⟨events, t, hruns, hmain⟩ : ∃ events t,
      Runs handingOn echoing (start handingOn [handedOn] {} ()) events t ∧
        t.main.strand = .done (.ok false) :=
    ⟨_, _,
      -- the recipe launches the command and waits
      .main 0 rfl <| .main 0 rfl <| .main 0 rfl <| .main 0 rfl <| .main 0 rfl <| .main 0 rfl <|
      .main 0 rfl <| .main 0 rfl <| .main 0 rfl <|
      -- its unit publishes and launches another one in its handler
      .unit [] rfl rfl <| .unit [] rfl rfl <| .unit [] rfl rfl <| .unit [] rfl rfl <|
      .unit [] rfl rfl <| .unit [] rfl rfl <| .unit [] rfl rfl <| .unit [] rfl rfl <|
      .unit [] rfl rfl <| .unit [] rfl rfl <| .unit [] rfl rfl <| .unit [] rfl rfl <|
      .unit [] rfl rfl <|
      -- the other unit runs to its end, and the wait is over
      .unit [] rfl rfl <| .unit [] rfl rfl <| .unit [] rfl rfl <| .unit [] rfl rfl <|
      .main 0 rfl <| .refl _, rfl⟩
  obtain ⟨hcount, -, hdrained⟩ := drained rfl rfl hruns
  exact ⟨events, t, hruns, hmain, hcount, hdrained _ hmain⟩

end Schedule

/-! ## Runs of recipes -/

/-- When a recipe has been run, nothing is in flight and no task is pending. -/
theorem Recipe.isFinished_of_run {recipe : Recipe} {o : Order} {outcome : Outcome}
    {written : Streams} (h : recipe.run o = some (.ok outcome, written)) :
    outcome.store.inFlight = 0 ∧ ∀ task ∈ outcome.store.tasks.tasks, task.isFinished = true := by
  unfold run at h
  split at h
  · cases h
  · next ops hops =>
    obtain ⟨⟨result, scene⟩, hwithin, heq⟩ := Option.map_eq_some_iff.1 h
    obtain ⟨hresult, -⟩ := Prod.mk.inj heq
    obtain ⟨events, t, hruns, hmain, rfl⟩ := Schedule.runs_of_runWithin hwithin
    obtain ⟨c, hshows, hc⟩ := hruns.exists_steady rfl rfl
    obtain ⟨hunits, hfinished⟩ := hshows.isFinished_of_done hc hmain
    have hinFlight : t.scene.store.inFlight = 0 := by
      rw [← hshows.store, hc.inFlight, ← hshows.counted_eq, Schedule.counted, hunits, hmain]
      rfl
    cases result with
    | error e => cases hresult
    | ok exited =>
      obtain rfl := Except.ok.inj hresult
      exact ⟨hinFlight, hfinished⟩

end RecipeRunner

import Mathlib.Data.Set.Card
import RecipeRunner.Store
/-!
# Laws of the task table

What is looked up behind a launch or an outcome, and which runs are accepted there.  An id names at
most one task, so a task is the one that its id names.
-/

namespace RecipeRunner.TaskTable

variable {t : TaskTable} {id : String} {run : Nat}

theorem accepts_iff : t.accepts id run = true ↔
    ∃ task, t.get? id = some task ∧ task.run = run ∧ task.isFinished = false := by
  rw [accepts]
  cases t.get? id with
  | none => simp
  | some task => simp

theorem accepts_of_insert {task : Task} (hrun : run ≠ task.run)
    (h : (t.insert task).accepts id run = true) : t.accepts id run = true := by
  by_cases hid : id = task.id
  · obtain ⟨found, hfound, rfl, -⟩ := accepts_iff.1 h
    rw [hid, get?_insert_self] at hfound
    obtain rfl := Option.some.inj hfound
    exact absurd rfl hrun
  · rwa [accepts, get?_insert_of_ne t task hid] at h

/-- The task of an id is ended if it is the one that finishes. -/
theorem get?_finish (outcome : Except String String) (h : t.accepts id run = true)
    (other : String) : (t.finish id run outcome).get? other =
      (t.get? other).map fun task => if other = id then task.finish outcome else task := by
  have hid : (fun task : Task => decide (task.id = other)) ∘
      (fun task : Task => if task.id = id then task.finish outcome else task) =
      fun task => decide (task.id = other) := by
    funext task
    by_cases htask : task.id = id
    · simp [htask]
    · simp [htask]
  rw [finish, if_pos h, get?, get?, List.find?_map, hid]
  refine Option.map_congr fun task htask => ?_
  obtain rfl : task.id = other := by simpa using List.find?_some htask
  rfl

theorem accepts_of_finish {id' : String} {run' : Nat} {outcome : Except String String}
    (h : (t.finish id run outcome).accepts id' run' = true) :
    t.accepts id' run' = true ∧ ¬ (id' = id ∧ run' = run) := by
  by_cases haccepts : t.accepts id run = true
  · obtain ⟨task, hget, rfl, hpending⟩ := accepts_iff.1 h
    rw [get?_finish outcome haccepts] at hget
    obtain ⟨old, hold, rfl⟩ := Option.map_eq_some_iff.1 hget
    split at hpending
    · rw [Task.isFinished_finish] at hpending
      cases hpending
    · next hne =>
      rw [if_neg hne]
      exact ⟨accepts_iff.2 ⟨old, hold, rfl, hpending⟩, fun hsame => hne hsame.1⟩
  · rw [finish, if_neg haccepts] at h
    refine ⟨h, ?_⟩
    rintro ⟨rfl, rfl⟩
    exact haccepts h

/-! ## Ids -/

/-- The ids of the tasks. -/
def ids (t : TaskTable) : List String :=
  t.tasks.map (·.id)

theorem nodup_ids_insert (h : t.ids.Nodup) (task : Task) :
    (t.insert task).ids.Nodup := by
  have hkept : ((t.tasks.filter (·.id ≠ task.id)).map (·.id)).Nodup :=
    h.sublist (List.filter_sublist.map _)
  rw [ids, insert, List.map_append, List.map_singleton, List.nodup_append]
  refine ⟨hkept, by simp, fun id hid id' hid' heq => ?_⟩
  obtain ⟨old, hold, rfl⟩ := List.mem_map.1 hid
  rw [List.mem_singleton] at hid'
  simp [heq.trans hid'] at hold

theorem ids_finish (t : TaskTable) (id : String) (run : Nat) (outcome : Except String String) :
    (t.finish id run outcome).ids = t.ids := by
  unfold finish
  split
  · rw [ids, List.map_map, ids]
    refine List.map_congr_left fun task _ => ?_
    by_cases htask : task.id = id
    · simp [htask]
    · simp [htask]
  · rfl

theorem get?_of_mem (h : t.ids.Nodup) {task : Task} (hmem : task ∈ t.tasks) :
    t.get? task.id = some task := by
  obtain ⟨tasks⟩ := t
  simp only [ids, get?] at h hmem ⊢
  induction tasks with
  | nil => cases hmem
  | cons first rest ih =>
    rw [List.map_cons, List.nodup_cons] at h
    rcases List.mem_cons.1 hmem with rfl | hrest
    · rw [List.find?_cons_of_pos (by simp)]
    · have hne : first.id ≠ task.id := fun heq => h.1 (heq ▸ List.mem_map_of_mem hrest)
      rw [List.find?_cons_of_neg (by simpa using hne), ih h.2 hrest]

/-- The ids for which a run is accepted are as many as there are tasks pending. -/
theorem encard_accepts (h : t.ids.Nodup) :
    {id | ∃ run, t.accepts id run = true}.encard = t.pending := by
  have hset : {id | ∃ run, t.accepts id run = true} =
      ↑((t.tasks.filter (!·.isFinished)).map (·.id)).toFinset := by
    ext id
    rw [Set.mem_ofPred_eq, Finset.mem_coe, List.mem_toFinset, List.mem_map]
    constructor
    · rintro ⟨run, haccepts⟩
      obtain ⟨task, hget, -, hpending⟩ := accepts_iff.1 haccepts
      have hmem : task ∈ t.tasks := List.mem_of_find?_eq_some hget
      exact ⟨task, List.mem_filter.2 ⟨hmem, by simp [hpending]⟩,
        by simpa using List.find?_some hget⟩
    · rintro ⟨task, hmem, rfl⟩
      obtain ⟨hmem, hpending⟩ := List.mem_filter.1 hmem
      exact ⟨task.run, accepts_iff.2 ⟨task, get?_of_mem h hmem, rfl, by simpa using hpending⟩⟩
  have hnodup : ((t.tasks.filter (!·.isFinished)).map (·.id)).Nodup :=
    h.sublist (List.filter_sublist.map _)
  rw [hset, Set.encard_coe_eq_coe_finsetCard, List.toFinset_card_of_nodup hnodup, List.length_map]
  rfl

/-- What is pending when a run has finished was pending before, and is not that run. -/
theorem pending_of_mem_finish (h : t.ids.Nodup) {outcome : Except String String} {task : Task}
    (hmem : task ∈ (t.finish id run outcome).tasks) (hpending : task.isFinished = false) :
    task ∈ t.tasks ∧ ¬ (id = task.id ∧ run = task.run) := by
  unfold finish at hmem
  split at hmem
  · obtain ⟨old, hold, rfl⟩ := List.mem_map.1 hmem
    split at hpending
    · rw [Task.isFinished_finish] at hpending
      cases hpending
    · next hid => exact ⟨by rwa [if_neg hid], fun hsame => hid (by simpa [hid] using hsame.1.symm)⟩
  · next hrefused =>
    refine ⟨hmem, fun ⟨hid, hrun⟩ => hrefused ?_⟩
    subst hid hrun
    rw [accepts, get?_of_mem h hmem]
    simp [hpending]

end RecipeRunner.TaskTable

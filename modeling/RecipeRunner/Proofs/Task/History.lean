import RecipeRunner.Proofs.Task.Table
/-!
# Histories of tasks

The task table, the outputs and the results are changed by different functions.  What they say of an
id is told by the calls that were made alone: by the latest launch of the id and the first outcome
that came in for its run behind it, whatever came in for other runs.

* `TaskCall.Latest`, `TaskCall.outcome?`: the latest launch of an id, and what has come of it.
* `TaskCall.Agrees.snoc`: one more call keeps a store in agreement with the calls.
* `TaskCall.agrees_replay`: so any calls do, in any order.
-/

namespace RecipeRunner

/-- A call that launches a task or brings the outcome of a run. -/
inductive TaskCall where
  | register (id command : String)
  | finish (id : String) (run : Nat) (outcome : Except String String)

namespace TaskCall

/-- The store behind a call. -/
def apply (s : Store) : TaskCall → Store
  | register id command => s.registerTask id command
  | finish id run outcome => s.finishTask id run outcome

/-- The store behind calls, one after the other. -/
def replay (s : Store) (calls : List TaskCall) : Store :=
  calls.foldl apply s

/-- Whether a call is a launch. -/
def isLaunch : TaskCall → Bool
  | register .. => true
  | finish .. => false

/-- The latest launch of an id: the launches are numbered from `first` on, and none behind this one
is under the id. -/
def Latest (first : Nat) (calls : List TaskCall) (id command : String) (run : Nat)
    (behind : List TaskCall) : Prop :=
  ∃ before, calls = before ++ register id command :: behind ∧
    run = first + before.countP isLaunch ∧ ∀ other, register id other ∉ behind

/-- The outcome that a call brings for a run of an id. -/
def outcomeFor? (id : String) (run : Nat) : TaskCall → Option (Except String String)
  | register .. => none
  | finish id' run' outcome => if id' = id ∧ run' = run then some outcome else none

/-- The first outcome that comes in for a run of an id. -/
def outcome? (id : String) (run : Nat) (calls : List TaskCall) : Option (Except String String) :=
  calls.findSome? (outcomeFor? id run)

/-- The run is that of the latest launch of the id, and no outcome has come in for it. -/
def Awaits (first : Nat) (calls : List TaskCall) (id : String) (run : Nat) : Prop :=
  ∃ command behind, Latest first calls id command run behind ∧ outcome? id run behind = none

/-- The last call that brings a failure for a run that is awaited brings this one. -/
def LastFailure (first : Nat) (calls : List TaskCall) (message : String) : Prop :=
  ∃ before id run behind, calls = before ++ finish id run (.error message) :: behind ∧
    Awaits first before id run ∧
    ∀ mid id' run' later rest, behind = mid ++ finish id' run' (.error later) :: rest →
      ¬ Awaits first (before ++ finish id run (.error message) :: mid) id' run'

/-- No call brings a failure for a run that is awaited. -/
def NoFailure (first : Nat) (calls : List TaskCall) : Prop :=
  ∀ before id run message behind, calls = before ++ finish id run (.error message) :: behind →
    ¬ Awaits first before id run

end TaskCall

/-- What the table and the outcomes published under an id say of a launch of which this has come. -/
def Store.Reports (s : Store) (id command : String) (run : Nat) :
    Option (Except String String) → Prop
  | none => s.tasks.get? id = some ⟨id, command, .pending, "", "", run⟩ ∧
      s.outputs.get? id = some "pending" ∧ s.results.get? id = some false
  | some (.ok text) => s.tasks.get? id = some ⟨id, command, .complete, text, "", run⟩ ∧
      s.outputs.get? id = some text ∧ s.results.get? id = some true
  | some (.error message) => s.tasks.get? id = some ⟨id, command, .failed, "", message, run⟩ ∧
      s.outputs.get? id = some "" ∧ s.results.get? id = some false

/-! ## Launches and outcomes -/

section

variable (s : Store) {id other command : String} {run : Nat} {outcome : Except String String}
  {told : Option (Except String String)}

theorem Store.reports_registerTask (id command : String) :
    (s.registerTask id command).Reports id command s.nextKey none :=
  ⟨TaskTable.get?_insert_self .., Table.get?_set_self .., Table.get?_set_self ..⟩

variable {s}

theorem Store.Reports.exists_task (h : s.Reports id command run told) :
    ∃ task, s.tasks.get? id = some task ∧ task.run = run ∧ task.isFinished = told.isSome := by
  match told with
  | none => exact ⟨_, h.1, rfl, rfl⟩
  | some (.ok text) => exact ⟨_, h.1, rfl, rfl⟩
  | some (.error message) => exact ⟨_, h.1, rfl, rfl⟩

theorem Store.Reports.of_eq {t : Store} (h : s.Reports id command run told)
    (htask : t.tasks.get? id = s.tasks.get? id) (houtput : t.outputs.get? id = s.outputs.get? id)
    (hresult : t.results.get? id = s.results.get? id) : t.Reports id command run told := by
  match told with
  | none => rwa [Store.Reports, htask, houtput, hresult]
  | some (.ok text) => rwa [Store.Reports, htask, houtput, hresult]
  | some (.error message) => rwa [Store.Reports, htask, houtput, hresult]

/-- A launch says nothing of other ids. -/
theorem Store.Reports.registerTask (h : s.Reports id command run told) (hne : id ≠ other)
    (launched : String) : (s.registerTask other launched).Reports id command run told :=
  h.of_eq (TaskTable.get?_insert_of_ne _ _ hne)
    ((Table.get?_set ..).trans (if_neg hne)) ((Table.get?_set ..).trans (if_neg hne))

/-- An outcome that is not accepted changes nothing. -/
theorem Store.finishTask_of_not_accepts (h : s.tasks.accepts id run = false) :
    s.finishTask id run outcome = s := by
  rw [Store.finishTask, h, if_neg Bool.false_ne_true]

theorem Store.Reports.accepts_eq (h : s.Reports id command run told) (other : Nat) :
    s.tasks.accepts id other = (run = other && told.isNone) := by
  obtain ⟨task, hget, rfl, hfinished⟩ := h.exists_task
  rw [TaskTable.accepts, hget, Option.any_some, hfinished, Option.not_isSome]

/-- Of the outcomes of a run the first one counts, and those of other runs do not. -/
theorem Store.Reports.finishTask (h : s.Reports id command run told) (other : Nat) :
    (s.finishTask id other outcome).Reports id command run
      (told.or (if other = run then some outcome else none)) := by
  have haccepts := h.accepts_eq other
  by_cases hrun : other = run
  · subst hrun
    rw [if_pos rfl]
    cases told with
    | none =>
      have haccepts : s.tasks.accepts id other = true := by simpa using haccepts
      have htask := TaskTable.get?_finish outcome haccepts id
      rw [h.1, Option.map_some, if_pos rfl] at htask
      rw [Store.finishTask, if_pos haccepts]
      cases outcome with
      | ok text => exact ⟨htask, Table.get?_set_self .., Table.get?_set_self ..⟩
      | error message => exact ⟨htask, Table.get?_set_self .., Table.get?_set_self ..⟩
    | some first =>
      rw [Option.isNone_some, Bool.and_false] at haccepts
      rw [Store.finishTask_of_not_accepts haccepts]
      exact h
  · rw [decide_eq_false (Ne.symm hrun), Bool.false_and] at haccepts
    rw [Store.finishTask_of_not_accepts haccepts, if_neg hrun, Option.or_none]
    exact h

theorem Store.outcomes_finishTask (hne : id ≠ other) :
    (s.finishTask other run outcome).tasks.get? id = s.tasks.get? id ∧
      (s.finishTask other run outcome).outputs.get? id = s.outputs.get? id ∧
      (s.finishTask other run outcome).results.get? id = s.results.get? id := by
  unfold Store.finishTask
  split
  · next haccepts =>
    have htask := TaskTable.get?_finish outcome haccepts id
    simp only [if_neg hne, Option.map_id'] at htask
    cases outcome with
    | ok text =>
      exact ⟨htask, (Table.get?_set ..).trans (if_neg hne), (Table.get?_set ..).trans (if_neg hne)⟩
    | error message =>
      exact ⟨htask, (Table.get?_set ..).trans (if_neg hne), (Table.get?_set ..).trans (if_neg hne)⟩
  · exact ⟨rfl, rfl, rfl⟩

theorem Store.nextKey_finishTask : (s.finishTask id run outcome).nextKey = s.nextKey := by
  unfold Store.finishTask
  split
  · cases outcome <;> rfl
  · rfl

theorem Store.ids_finishTask : (s.finishTask id run outcome).tasks.ids = s.tasks.ids := by
  unfold Store.finishTask
  split
  · cases outcome <;> exact TaskTable.ids_finish ..
  · rfl

end

/-! ## One more call -/

namespace TaskCall

variable {first run run' : Nat} {id id' command launched message : String}
  {calls behind : List TaskCall} {outcome : Except String String}

theorem outcome?_snoc (id : String) (run : Nat) (calls : List TaskCall) (call : TaskCall) :
    outcome? id run (calls ++ [call]) = (outcome? id run calls).or (outcomeFor? id run call) := by
  rw [outcome?, List.findSome?_append, List.findSome?_singleton]
  rfl

theorem latest_register (calls : List TaskCall) (id command : String) :
    Latest first (calls ++ [register id command]) id command (first + calls.countP isLaunch) [] :=
  ⟨calls, rfl, rfl, fun _ => List.not_mem_nil⟩

/-- Behind one more call, the latest launch of an id is that call, or it is the one from before. -/
theorem Latest.of_snoc {call : TaskCall}
    (h : Latest first (calls ++ [call]) id command run behind) :
    call = register id command ∧ behind = [] ∧ run = first + calls.countP isLaunch ∨
      ∃ rest, behind = rest ++ [call] ∧ Latest first calls id command run rest ∧
        ∀ other, call ≠ register id other := by
  obtain ⟨before, hcalls, hrun, hnone⟩ := h
  rcases List.eq_nil_or_concat behind with rfl | ⟨rest, last, rfl⟩
  · obtain ⟨rfl, hlast⟩ := List.append_inj' hcalls rfl
    exact .inl ⟨List.singleton_inj.1 hlast, rfl, hrun⟩
  · rw [List.concat_eq_append, ← List.cons_append, ← List.append_assoc] at hcalls
    obtain ⟨rfl, hlast⟩ := List.append_inj' hcalls rfl
    obtain rfl := List.singleton_inj.1 hlast
    simp only [List.concat_eq_append, List.mem_append, List.mem_singleton, not_or] at hnone ⊢
    exact .inr ⟨rest, rfl, ⟨before, rfl, hrun, fun other => (hnone other).1⟩,
      fun other => Ne.symm (hnone other).2⟩

theorem Latest.snoc {call : TaskCall} (h : Latest first calls id command run behind)
    (hcall : ∀ other, call ≠ register id other) :
    Latest first (calls ++ [call]) id command run (behind ++ [call]) := by
  obtain ⟨before, rfl, hrun, hnone⟩ := h
  refine ⟨before, by simp, hrun, fun other hmem => ?_⟩
  rcases List.mem_append.1 hmem with hmem | hmem
  · exact hnone other hmem
  · exact hcall other (List.mem_singleton.1 hmem).symm

/-- An id that was launched has a latest launch. -/
theorem exists_latest (h : register id command ∈ calls) :
    ∃ command run behind, Latest first calls id command run behind := by
  induction calls using List.reverseRecOn with
  | nil => cases h
  | append_singleton calls call ih =>
    by_cases hcall : ∃ other, call = register id other
    · obtain ⟨other, rfl⟩ := hcall
      exact ⟨other, _, [], latest_register ..⟩
    · have hmem : register id command ∈ calls := by
        rcases List.mem_append.1 h with hmem | hmem
        · exact hmem
        · exact absurd ⟨command, (List.mem_singleton.1 hmem).symm⟩ hcall
      obtain ⟨command, run, behind, hlatest⟩ := ih hmem
      exact ⟨command, run, _, hlatest.snoc fun other hother => hcall ⟨other, hother⟩⟩

/-! ### Failures -/

/-- The call brings no failure for a run that is awaited. -/
def IsHarmless (first : Nat) (calls : List TaskCall) (call : TaskCall) : Prop :=
  ∀ id run message, call = finish id run (.error message) → ¬ Awaits first calls id run

theorem NoFailure.of_snoc {call : TaskCall} (h : NoFailure first (calls ++ [call])) :
    NoFailure first calls ∧ IsHarmless first calls call := by
  refine ⟨fun before id run message behind hcalls => ?_, fun id run message hcall => ?_⟩
  · exact h before id run message (behind ++ [call]) (by simp [hcalls])
  · exact h calls id run message [] (by rw [hcall])

/-- Behind one more call, the last failure is that of the call, or it is the one from before. -/
theorem LastFailure.of_snoc {call : TaskCall} (h : LastFailure first (calls ++ [call]) message) :
    (∃ id run, call = finish id run (.error message) ∧ Awaits first calls id run) ∨
      LastFailure first calls message ∧ IsHarmless first calls call := by
  obtain ⟨before, id, run, behind, hcalls, hawaits, hlast⟩ := h
  rcases List.eq_nil_or_concat behind with rfl | ⟨rest, last, rfl⟩
  · obtain ⟨rfl, hcall⟩ := List.append_inj' hcalls rfl
    exact .inl ⟨id, run, List.singleton_inj.1 hcall, hawaits⟩
  · rw [List.concat_eq_append, ← List.cons_append, ← List.append_assoc] at hcalls
    obtain ⟨rfl, hcall⟩ := List.append_inj' hcalls rfl
    obtain rfl := List.singleton_inj.1 hcall
    simp only [List.concat_eq_append] at hlast
    refine .inr ⟨⟨before, id, run, rest, rfl, hawaits, ?_⟩, ?_⟩
    · intro mid id' run' later more hrest
      exact hlast mid id' run' later (more ++ [call]) (by simp [hrest])
    · rintro id' run' later rfl
      exact hlast rest id' run' later [] rfl

/-! ## Agreement -/

/-- What a store has become since `start`, as the calls tell it. -/
structure Agrees (start : Store) (calls : List TaskCall) (s : Store) : Prop where
  nextKey : s.nextKey = start.nextKey + calls.countP isLaunch
  nodup : s.tasks.ids.Nodup
  launched : ∀ {id command run behind}, Latest start.nextKey calls id command run behind →
    s.Reports id command run (outcome? id run behind)
  unlaunched : ∀ {id}, (∀ command, register id command ∉ calls) → s.tasks.get? id = none
  failed : ∀ {message}, LastFailure start.nextKey calls message →
    s.vars.get? "error" = some (.str message)
  unfailed : NoFailure start.nextKey calls → s.vars = start.vars

section

variable {start s : Store}

theorem agrees_nil (hstart : start.tasks.tasks = []) : Agrees start [] start where
  nextKey := rfl
  nodup := by simp [TaskTable.ids, hstart]
  launched h := by
    obtain ⟨before, hnil, -⟩ := h
    simp at hnil
  unlaunched _ := by simp [TaskTable.get?, hstart]
  failed h := by
    obtain ⟨before, id, run, behind, hnil, -⟩ := h
    simp at hnil
  unfailed _ := rfl

/-- A run is accepted exactly if it is awaited. -/
theorem Agrees.accepts_iff (h : Agrees start calls s) :
    s.tasks.accepts id run = true ↔ Awaits start.nextKey calls id run := by
  rw [TaskTable.accepts_iff]
  constructor
  · rintro ⟨task, hget, rfl, hpending⟩
    by_cases hid : ∃ command, register id command ∈ calls
    · obtain ⟨command, hmem⟩ := hid
      obtain ⟨command, run, behind, hlatest⟩ := exists_latest hmem
      obtain ⟨task', hget', rfl, hfinished⟩ := (h.launched hlatest).exists_task
      obtain rfl := Option.some.inj (hget.symm.trans hget')
      rw [hpending] at hfinished
      exact ⟨command, behind, hlatest, by simpa using hfinished.symm⟩
    · rw [h.unlaunched fun command hmem => hid ⟨command, hmem⟩] at hget
      cases hget
  · rintro ⟨command, behind, hlatest, houtcome⟩
    obtain ⟨task, hget, hrun, hfinished⟩ := (h.launched hlatest).exists_task
    exact ⟨task, hget, hrun, by rw [hfinished, houtcome]; rfl⟩

theorem Agrees.register (h : Agrees start calls s) (id command : String) :
    Agrees start (calls ++ [register id command]) (s.registerTask id command) where
  nextKey := by
    change s.nextKey + 1 = _
    rw [h.nextKey, List.countP_append]
    rfl
  nodup := TaskTable.nodup_ids_insert h.nodup _
  launched {id' command' run behind} hlatest := by
    rcases hlatest.of_snoc with ⟨hcall, rfl, rfl⟩ | ⟨rest, rfl, hlatest, hother⟩
    · obtain ⟨rfl, rfl⟩ := TaskCall.register.inj hcall
      rw [← h.nextKey]
      exact s.reports_registerTask id command
    · have hne : id' ≠ id := fun heq => hother command (by rw [heq])
      rw [outcome?_snoc, outcomeFor?, Option.or_none]
      exact (h.launched hlatest).registerTask hne command
  unlaunched {id'} hnone := by
    simp only [List.mem_append, List.mem_singleton, not_or] at hnone
    have hne : id' ≠ id := fun heq => (hnone command).2 (by rw [heq])
    exact (TaskTable.get?_insert_of_ne _ _ hne).trans (h.unlaunched fun other => (hnone other).1)
  failed hlast := by
    rcases hlast.of_snoc with ⟨_, _, hcall, -⟩ | ⟨hlast, -⟩
    · cases hcall
    · exact h.failed hlast
  unfailed hnone := h.unfailed hnone.of_snoc.1

theorem Agrees.vars_finishTask (h : Agrees start calls s)
    (hharmless : IsHarmless start.nextKey calls (finish id run outcome)) :
    (s.finishTask id run outcome).vars = s.vars := by
  unfold Store.finishTask
  split
  · next haccepts =>
    cases outcome with
    | ok text => rfl
    | error message => exact absurd (h.accepts_iff.1 haccepts) (hharmless id run message rfl)
  · rfl

theorem Agrees.finish (h : Agrees start calls s) (id : String) (run : Nat)
    (outcome : Except String String) :
    Agrees start (calls ++ [finish id run outcome]) (s.finishTask id run outcome) where
  nextKey := by
    rw [Store.nextKey_finishTask, h.nextKey, List.countP_append]
    rfl
  nodup := by
    rw [Store.ids_finishTask]
    exact h.nodup
  launched {id' command' run' behind} hlatest := by
    rcases hlatest.of_snoc with ⟨hcall, -, -⟩ | ⟨rest, rfl, hlatest, -⟩
    · cases hcall
    have hreports := h.launched hlatest
    rw [outcome?_snoc]
    by_cases hid : id' = id
    · subst hid
      simpa only [outcomeFor?, true_and] using hreports.finishTask run
    · obtain ⟨htask, houtput, hresult⟩ :=
        Store.outcomes_finishTask (s := s) hid
      rw [outcomeFor?, if_neg fun hsame => hid hsame.1.symm, Option.or_none]
      exact hreports.of_eq htask houtput hresult
  unlaunched {id'} hnone := by
    have hget := h.unlaunched fun command hmem => hnone command (List.mem_append_left _ hmem)
    by_cases hid : id' = id
    · have hrefused : s.tasks.accepts id run = false := by
        rw [TaskTable.accepts, ← hid, hget]
        rfl
      rw [Store.finishTask_of_not_accepts hrefused, hget]
    · rw [(s.outcomes_finishTask hid).1, hget]
  failed {message} hlast := by
    rcases hlast.of_snoc with ⟨id', run', hcall, hawaits⟩ | ⟨hlast, hharmless⟩
    · obtain ⟨rfl, rfl, rfl⟩ := TaskCall.finish.inj hcall
      rw [Store.finishTask, if_pos (h.accepts_iff.2 hawaits)]
      exact Table.get?_set_self ..
    · rw [h.vars_finishTask hharmless, h.failed hlast]
  unfailed hnone := by
    obtain ⟨hnone, hharmless⟩ := hnone.of_snoc
    rw [h.vars_finishTask hharmless, h.unfailed hnone]

theorem agrees_replay (hstart : start.tasks.tasks = []) (calls : List TaskCall) :
    Agrees start calls (replay start calls) := by
  induction calls using List.reverseRecOn with
  | nil => exact agrees_nil hstart
  | append_singleton calls call ih =>
    rw [replay, List.foldl_concat]
    cases call with
    | register id command => exact ih.register id command
    | finish id run outcome => exact ih.finish id run outcome

/-- After any calls on a store without tasks, a run is accepted exactly if it is that of the latest
launch of its id and no outcome has come in for it; otherwise its outcome changes nothing.  Every id
that was launched has a latest launch, and the table, the outputs and the results say of it what the
first outcome of its run says, or that it is pending.  The tasks that are pending are as many as the
ids whose run is awaited, and the variable `error` holds the last failure that was accepted. -/
theorem replay_reports (start : Store) (hstart : start.tasks.tasks = []) (calls : List TaskCall) :
    (∀ id run, (replay start calls).tasks.accepts id run = true ↔
      Awaits start.nextKey calls id run) ∧
    (∀ id run outcome, ¬ Awaits start.nextKey calls id run →
      (replay start calls).finishTask id run outcome = replay start calls) ∧
    (∀ id command, register id command ∈ calls →
      ∃ command run behind, Latest start.nextKey calls id command run behind) ∧
    (∀ id command run behind, Latest start.nextKey calls id command run behind →
      (replay start calls).Reports id command run (outcome? id run behind)) ∧
    {id | ∃ run, Awaits start.nextKey calls id run}.encard = (replay start calls).tasks.pending ∧
    (∀ message, LastFailure start.nextKey calls message →
      (replay start calls).vars.get? "error" = some (.str message)) ∧
    (NoFailure start.nextKey calls → (replay start calls).vars = start.vars) := by
  have h := agrees_replay hstart calls
  refine ⟨fun id run => h.accepts_iff, fun id run outcome hnot => ?_,
    fun id command => exists_latest, fun id command run behind => h.launched, ?_,
    fun message => h.failed, h.unfailed⟩
  · refine Store.finishTask_of_not_accepts ?_
    rwa [← Bool.not_eq_true, h.accepts_iff]
  · simp only [← h.accepts_iff]
    exact TaskTable.encard_accepts h.nodup

/-- Launches under one id with outcomes that are unknown, late, accepted and repeated, and a launch
that is awaited. -/
def relaunches : List TaskCall :=
  [.register "job" "make", .finish "job" 7 (.ok "unknown"), .register "job" "make again",
    .finish "job" 0 (.ok "late"), .finish "job" 1 (.error "boom"), .finish "job" 1 (.ok "twice"),
    .register "log" "tail"]

theorem replay_reports_relaunches :
    (replay {} relaunches).Reports "job" "make again" 1 (some (.error "boom")) ∧
      (replay {} relaunches).Reports "log" "tail" 2 none ∧
      (replay {} relaunches).tasks.accepts "log" 2 = true ∧
      (replay {} relaunches).vars.get? "error" = some (.str "boom") := by
  obtain ⟨haccepts, -, -, hreports, -, hfailed, -⟩ := replay_reports {} rfl relaunches
  have hjob : Latest 0 relaunches "job" "make again" 1 [.finish "job" 0 (.ok "late"),
      .finish "job" 1 (.error "boom"), .finish "job" 1 (.ok "twice"), .register "log" "tail"] :=
    ⟨[_, _], rfl, rfl, by simp⟩
  have hlog : Latest 0 relaunches "log" "tail" 2 [] := ⟨[_, _, _, _, _, _], rfl, rfl, by simp⟩
  have hawaits : Awaits 0 (relaunches.take 4) "job" 1 :=
    ⟨"make again", [.finish "job" 0 (.ok "late")], ⟨[_, _], rfl, rfl, by simp⟩, rfl⟩
  have hfailure : LastFailure 0 relaunches "boom" := by
    refine ⟨relaunches.take 4, "job", 1, _, rfl, hawaits, fun mid id' run' later rest hrest => ?_⟩
    have hmem : TaskCall.finish id' run' (.error later) ∈
        mid ++ .finish id' run' (.error later) :: rest :=
      List.mem_append_right _ List.mem_cons_self
    rw [← hrest] at hmem
    simp at hmem
  exact ⟨hreports _ _ _ _ hjob, hreports _ _ _ _ hlog, (haccepts _ _).2 ⟨_, _, hlog, rfl⟩,
    hfailed _ hfailure⟩

end

end TaskCall

end RecipeRunner

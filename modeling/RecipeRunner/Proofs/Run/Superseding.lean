import RecipeRunner.Proofs.Run.Settling
import RecipeRunner.Proofs.Task.Table
/-!
# Superseded launches

A launch is known to the task table by its key.  Keys are only taken, so a run that the table does
not accept any more is never accepted again: neither one that has been settled nor one in place of
which a later launch of its id was recorded.

* `Store.Retires`: what no step of a run can bring back.
* `Crew.History.retires`: so it is for all that the strands of a run do.
* `Crew.History.followsOnce`: what this says of the handlers of a launch and of superseded launches.
-/

namespace RecipeRunner

namespace Store

/-- Keys are only taken, and what the table has ceased to accept it does not accept again. -/
structure Retires (s t : Store) : Prop where
  nextKey : s.nextKey ≤ t.nextKey
  accepts : ∀ id run, run < s.nextKey → t.tasks.accepts id run = true →
    s.tasks.accepts id run = true

variable {s t u : Store}

theorem retires_of_eq (htasks : t.tasks = s.tasks) (hnextKey : s.nextKey ≤ t.nextKey) :
    s.Retires t :=
  ⟨hnextKey, fun _ _ _ h => htasks ▸ h⟩

theorem Retires.trans (h : s.Retires t) (h' : t.Retires u) : s.Retires u where
  nextKey := Nat.le_trans h.nextKey h'.nextKey
  accepts id run hrun hu :=
    h.accepts id run hrun (h'.accepts id run (Nat.lt_of_lt_of_le hrun h.nextKey) hu)

theorem retires_recordLaunch (s : Store) (id command : String) :
    s.Retires (s.recordLaunch id command) :=
  ⟨Nat.le_succ _, fun _ _ hrun h => TaskTable.accepts_of_insert (Nat.ne_of_lt hrun) h⟩

theorem retires_recordOutcome (s : Store) (id : String) (run : Nat)
    (outcome : Except String String) : s.Retires (s.recordOutcome id run outcome) :=
  ⟨Nat.le_refl _, fun _ _ _ h => (TaskTable.accepts_of_finish h).1⟩

/-- A launch that was recorded is accepted in place of all earlier ones of its id. -/
theorem not_accepts_recordLaunch (s : Store) (id command : String) {run : Nat}
    (hrun : run < s.nextKey) : (s.recordLaunch id command).tasks.accepts id run ≠ true := by
  intro h
  obtain ⟨task, hget, rfl, -⟩ := TaskTable.accepts_iff.1 h
  rw [recordLaunch, TaskTable.get?_insert_self] at hget
  obtain rfl := Option.some.inj hget
  exact Nat.lt_irrefl _ hrun

/-- A run that has been settled is not accepted again. -/
theorem not_accepts_recordOutcome (s : Store) (id : String) (run : Nat)
    (outcome : Except String String) :
    (s.recordOutcome id run outcome).tasks.accepts id run ≠ true :=
  fun h => (TaskTable.accepts_of_finish h).2 ⟨rfl, rfl⟩

end Store

theorem Phase.Step.retires {bound : Nat} {phase phase' : Phase} {s t : Store} {events : List Event}
    (h : phase.Step bound s events phase' t) : s.Retires t := by
  cases h with
  | aside _ haside => exact Store.retires_of_eq haside.tasks haside.nextKey
  | record id command => exact s.retires_recordLaunch id command
  | settle id run told => exact s.retires_recordOutcome id run told
  | _ => exact Store.retires_of_eq rfl (Nat.le_refl _)

namespace Crew

open Strand (Move Stands Closing)
open Run (closing_lastOfMain closing_lastOfUnit)

variable {r : Run} {c d : Crew} {who : Option Nat} {act : Act} {acts : List (Option Nat × Act)}

theorem retires_of_move {α : Type} {finish : Except Error α → Strand α} {s t : Strand α}
    {phase : Phase} (h : s.Stands finish phase) (hfinish : Closing finish) {store last : Store}
    {new : List Event} (hmove : Move s store new t last) : store.Retires last := by
  rcases h.move hfinish hmove with ⟨bound, phase', hstep, -, -⟩ | ⟨result, -, rfl⟩
  · exact hstep.retires
  · obtain ⟨-, -, htasks, hnextKey⟩ := hfinish.move hmove
    exact Store.retires_of_eq htasks (Nat.le_of_eq hnextKey.symm)

theorem Standing.retires (h : c.Standing) (hstep : Step r c who act d) :
    c.store.Retires d.store := by
  cases hstep with
  | main hmove =>
    obtain ⟨phase, hphase, -⟩ := h.main
    exact retires_of_move hphase closing_lastOfMain hmove
  | @unit before behind u s t mid new hunits hmove =>
    obtain ⟨-, phase, hphase, -⟩ := h.units (u, s) (by simp [hunits])
    exact retires_of_move hphase closing_lastOfUnit hmove

theorem History.retires (h : History r c acts d) (hc : c.Standing) : c.store.Retires d.store := by
  induction h with
  | nil => exact Store.retires_of_eq rfl (Nat.le_refl _)
  | snoc hacts hstep ih => exact ih.trans ((hacts.standing hc).retires hstep)

/-- What the table does not accept behind an act it does not accept before a later one. -/
theorem History.retires_between (h : History r c acts d) (hc : c.Standing)
    {front mid back : List (Option Nat × Act)} {who who' : Option Nat} {first second : Act}
    (hacts : acts = front ++ (who, first) :: (mid ++ (who', second) :: back)) :
    first.after.Retires second.before := by
  obtain ⟨c₁, c₂, hfront, hfirst, hrest⟩ := h.exists_step hacts
  obtain ⟨c₃, c₄, hmid, hsecond, -⟩ := hrest.exists_step rfl
  rw [hfirst.after_eq, hsecond.before_eq]
  exact hmid.retires ((hfront.standing hc).step hfirst).1

/-- While a unit moves its key has been taken. -/
theorem History.run_lt (h : History r c acts d) (hc : c.Standing)
    {front back : List (Option Nat × Act)} {n : Nat} {act : Act}
    (hacts : acts = front ++ (some n, act) :: back) {u : Launch} {s : Strand Unit}
    (hunit : d.units[n]? = some (u, s)) : u.run < act.before.nextKey := by
  obtain ⟨c₁, c₂, hfront, hstep, hback⟩ := h.exists_step hacts
  rw [hstep.before_eq]
  cases hc₁ : c₁.units[n]? with
  | none => exact absurd rfl (hstep.ne_some hc₁)
  | some entry =>
    obtain ⟨v, t⟩ := entry
    obtain ⟨t', ht', -⟩ := hstep.unit_of_some hc₁
    obtain ⟨s', hs', -⟩ := hback.unit_course_of_some ht'
    obtain ⟨rfl, -⟩ := Prod.mk.inj (Option.some.inj (hunit.symm.trans hs'))
    exact ((hfront.standing hc).units _ (List.mem_of_getElem? hc₁)).1

/-- A launch is not settled if a later one of its id was recorded while its task was pending. -/
theorem History.not_records (h : History r c acts d) (hc : c.Standing) {n : Nat} {u : Launch}
    {s : Strand Unit} (hunit : d.units[n]? = some (u, s)) {command : String}
    {front back : List (Option Nat × Act)} {who : Option Nat} {later : Act}
    (hacts : acts = front ++ (who, later) :: back)
    (hlater : later.after = later.before.recordLaunch u.id command)
    (hrun : u.run < later.before.nextKey)
    (hpending : later.before.tasks.accepts u.id u.run = true)
    {earlier behind : List (Option Nat × Act)} {record : Act} {outcome : Except Error String}
    (hown : acts = earlier ++ (some n, record) :: behind) : ¬ u.Records outcome record := by
  intro hrecord
  rcases List.append_eq_append_iff.1 (hacts.symm.trans hown) with ⟨mid, rfl, hmid⟩ |
    ⟨mid, rfl, hmid⟩
  · rcases mid with _ | ⟨first, mid⟩
    · -- one step cannot both record a launch and settle one
      obtain ⟨hsame, -⟩ := List.cons.inj hmid
      obtain ⟨-, rfl⟩ := Prod.mk.inj hsame
      have hkeys := congrArg Store.nextKey (hlater.symm.trans hrecord.after)
      simp [Store.recordLaunch, Store.recordOutcome] at hkeys
    · -- the later launch comes first, and the table refuses the outcome
      obtain ⟨rfl, rfl⟩ := List.cons.inj hmid
      have hretires := h.retires_between hc hacts
      rw [hlater] at hretires
      exact Store.not_accepts_recordLaunch _ _ _ hrun
        (hretires.accepts u.id u.run (Nat.lt_succ_of_lt hrun) hrecord.accepts)
  · rcases mid with _ | ⟨first, mid⟩
    · obtain ⟨hsame, -⟩ := List.cons.inj hmid
      obtain ⟨-, rfl⟩ := Prod.mk.inj hsame
      have hkeys := congrArg Store.nextKey (hlater.symm.trans hrecord.after)
      simp [Store.recordLaunch, Store.recordOutcome] at hkeys
    · -- the outcome is settled first, and the task is no longer pending
      obtain ⟨rfl, rfl⟩ := List.cons.inj hmid
      have hretires := h.retires_between hc hown
      rw [hrecord.after] at hretires
      exact Store.not_accepts_recordOutcome _ _ _ _
        (hretires.accepts u.id u.run (h.run_lt hc hown hunit) hpending)

/-- In every run each launch follows at most one handler, that of its outcome and once this is
settled.  A launch is silent if a later one of its id is recorded while its task is pending. -/
theorem History.followsOnce {ops : List Operation} {store : Store} {n : Nat} {u : Launch}
    {s : Strand Unit} (h : History r (start r ops store) acts d)
    (hunit : d.units[n]? = some (u, s)) :
    u.FollowsOnce r (own (some n) acts) ∧
      ∀ (front back : List (Option Nat × Act)) (who : Option Nat) (later : Act) (command : String),
        acts = front ++ (who, later) :: back →
        later.after = later.before.recordLaunch u.id command →
        u.run < later.before.nextKey → later.before.tasks.accepts u.id u.run = true →
        ∀ act ∈ own (some n) acts, act.Silent := by
  obtain ⟨hcourse, -⟩ := h.unit_course hunit
  have hc := standing_start r ops store
  rcases Launch.course_cases hcourse with hsilent | ⟨hfollows, heard, record, rest, outcome, hown,
    hrecord⟩
  · exact ⟨.inl fun act hact op room => (hsilent act hact).not_starts,
      fun _ _ _ _ _ _ _ _ _ => hsilent⟩
  · refine ⟨hfollows, fun front back who later command hacts hlater hrun hpending => ?_⟩
    obtain ⟨earlier, behind, hsplit, -, -⟩ := exists_of_own_eq hown
    exact absurd hrecord (h.not_records hc hunit hacts hlater hrun hpending hsplit)

/-- A run without handlers and input. -/
def bareRun : Run :=
  ⟨1, 0, 0, .empty, "", {}⟩

open Schedule (relaunched) in
/-- The second launch of the command is recorded before the first one has heard from it. -/
theorem followsOnce_relaunched :
    ∃ acts d u s, History bareRun (start bareRun relaunched {}) acts d ∧
      d.units[0]? = some (u, s) ∧ u.command = "first" ∧
      u.FollowsOnce bareRun (own (some 0) acts) ∧ (own (some 0) acts).length = 3 ∧
      ∀ act ∈ own (some 0) acts, act.Silent := by
  have hsuperseded : ∀ {acts d u s who later},
      History bareRun (start bareRun relaunched {}) acts d → d.units[0]? = some (u, s) →
      acts[13]? = some (who, later) → later.after = later.before.recordLaunch u.id "second" →
      u.run < later.before.nextKey → later.before.tasks.accepts u.id u.run = true →
      u.FollowsOnce bareRun (own (some 0) acts) ∧ ∀ act ∈ own (some 0) acts, act.Silent := by
    intro acts d u s who later h hunit hget hlater hrun hpending
    obtain ⟨hfollows, hsilent⟩ := h.followsOnce hunit
    obtain ⟨hlt, heq⟩ := List.getElem?_eq_some_iff.1 hget
    refine ⟨hfollows, hsilent (acts.take 13) (acts.drop 14) who later "second" ?_ hlater hrun
      hpending⟩
    rw [← heq, List.getElem_cons_drop, List.take_append_drop]
  have h := (History.nil : History bareRun (start bareRun relaunched {}) [] _)
      -- the first launch
      |>.snoc (.main (.note _ _ _)) |>.snoc (.main (.update _ _ _)) |>.snoc (.main (.update _ _ _))
      |>.snoc (.main (.report _ _ _)) |>.snoc (.main (.update _ _ _))
      |>.snoc (.main (.update _ _ _)) |>.snoc (.main (.update _ _ _))
      |>.snoc (.main (.launch _ _ _)) |>.snoc (.main (.note _ _ _))
      -- the second launch, up to its record
      |>.snoc (.main (.note _ _ _)) |>.snoc (.main (.update _ _ _)) |>.snoc (.main (.update _ _ _))
      |>.snoc (.main (.report _ _ _)) |>.snoc (.main (.update _ _ _))
      -- the first unit
      |>.snoc (.unit (rfl : _ = [] ++ _ :: _) (.command _ _ _ ⟨.exited 0, "first", ""⟩))
      |>.snoc (.unit (rfl : _ = [] ++ _ :: _) (.update _ _ _))
      |>.snoc (.unit (rfl : _ = [] ++ _ :: _) (.update _ _ _))
  obtain ⟨hfollows, hsilent⟩ := hsuperseded h rfl rfl rfl (by decide) (by decide)
  exact ⟨_, _, _, _, h, rfl, rfl, hfollows, rfl, hsilent⟩

end Crew

end RecipeRunner

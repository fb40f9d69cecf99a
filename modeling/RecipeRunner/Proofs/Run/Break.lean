import RecipeRunner.Proofs.Run.Placing
/-!
# The end of a loop

The signal to end the nearest loop goes up through the operations that have followed a handler, and
the nearest loop takes it: the loop counts as successful and returns the signal of its own flags, as
if its passes had come to their end.  Outside of loops the recipe just goes on.  An operation that
has followed a handler and is itself to end the recipe makes the signal a stronger one.

* `Resumes.goes_followers`: the signal goes up through the operations that have followed a handler.
* `Resumes.goes_loop`: the nearest loop takes it.
* `Crew.History.break_stops_nearest_loop`: what this says of every run.
-/

namespace RecipeRunner

namespace Run

open Strand (Goes)

variable {r : Run} {left : List Operation} {l : Level} {outer : List Level}
  {K : Except Error Signal → Strand Bool}

theorem stop_combine_ofOperation {op : Operation} (h : op.exitsRecipe = false) :
    Signal.stop.combine (.ofOperation op) = .stop := by
  rw [Signal.ofOperation, if_neg (by simp [h])]
  split <;> rfl

/-- An operation that has followed a handler passes the signal on. -/
theorem Resumes.goes_follower (h : Resumes r ⟨left, l :: outer⟩ K) (hl : l.Follows) :
    ∃ K', Resumes r ⟨left, outer⟩ K' ∧
      (K (.ok .stop)).Goes [.returned l.op (.ok .stop)] [] (K' (.ok .stop)) := by
  cases h with
  | handler hresumes =>
    refine ⟨_, hresumes, ?_⟩
    simp only [Except.map, stop_combine_ofOperation hl.stays]
    exact .note (.refl _)
  | body _ hflow =>
    rw [hl.plain] at hflow
    cases hflow

theorem Resumes.goes_followers {followers : List Level}
    (h : Resumes r ⟨left, followers ++ outer⟩ K) (hfollowers : ∀ l ∈ followers, l.Follows) :
    ∃ K', Resumes r ⟨left, outer⟩ K' ∧
      (K (.ok .stop)).Goes (followers.map fun l => .returned l.op (.ok .stop)) []
        (K' (.ok .stop)) := by
  induction followers generalizing K with
  | nil => exact ⟨K, h, .refl _⟩
  | cons l followers ih =>
    obtain ⟨hl, hrest⟩ := List.forall_mem_cons.1 hfollowers
    obtain ⟨K₁, hresumes, hfirst⟩ := h.goes_follower hl
    obtain ⟨K₂, hresumes', hsecond⟩ := ih hresumes hrest
    exact ⟨K₂, hresumes', hfirst.trans hsecond⟩

/-- A loop whose pass signals to end it publishes that it was successful and returns its own
signal. -/
theorem Resumes.goes_loop (h : Resumes r ⟨left, l :: outer⟩ K) (hl : l.op.controlFlow ≠ none) :
    ∃ id K' changes, l.id? = some (.ok id) ∧ Resumes r ⟨left, outer⟩ K' ∧
      (K (.ok .stop)).Goes [.returned l.op (.ok (.ofOperation l.op))] changes
        (K' (.ok (.ofOperation l.op))) ∧
      (id.isEmpty = false → (fun s : Store => s.setResult id true) ∈ changes) := by
  cases h with
  | handler _ hplain => exact absurd hplain hl
  | @body _ _ _ flow id _ C K' hresumes _ hknown _ hrepeats =>
    obtain ⟨again, finish, -, hfinishes, hbehind⟩ := hrepeats
    obtain ⟨changes, hgoes, hpublished⟩ := hfinishes (.ok .stop)
    exact ⟨id, K', changes, hknown, hresumes, (hbehind (.ok .stop)).trans hgoes,
      hpublished .stop rfl nofun⟩

theorem Resumes.eq_mainStrand (h : Resumes r ⟨left, []⟩ K) : K (.ok .stop) = r.mainStrand left := by
  cases h
  rfl

end Run

namespace Crew

variable {r : Run} {ops left : List Operation} {store : Store} {d : Crew}
  {acts : List (Option Nat × Act)} {front back : List Act} {ret : Act} {op : Operation}

/-- Behind the return of an operation the main strand is resumed as its agenda says. -/
theorem History.exists_resumes (h : History r (start r ops store) acts d)
    (hacts : own none acts = front ++ ret :: back) {result : Except Error Signal}
    (hret : ret.events = [.noted (.returned op result)]) :
    ∃ K c later, Run.Resumes r (.behind ops (front ++ [ret])) K ∧ c.main = K result ∧
      History r c later d ∧ own none later = back := by
  obtain ⟨earlier, later, hall, hfront, hback⟩ := exists_of_own_eq hacts
  obtain ⟨mid, c, hfirst, hstep, hrest⟩ := h.exists_step hall
  rcases hstep.main_cases with ⟨-, hmove⟩ | ⟨hne, -⟩
  · have hplaced := (r.placed_mainStrand ops).course hfirst.main_course
    obtain ⟨K, hresumes, hmain⟩ := (hplaced.move hmove).2 op result hret
    rw [hfront] at hresumes
    refine ⟨K, c, later, ?_, hmain, hrest, hback⟩
    rw [Agenda.behind, List.foldl_append]
    exact hresumes
  · exact absurd rfl hne

/-- Wherever an operation of the main strand returns the signal to end the nearest loop, the
operations that have followed a handler down to it return the signal, too, if none of them is to end
the recipe.  Then, besides reports, the nearest loop publishes that it was successful and returns
the signal of its own flags, without another start in between, and the run is resumed behind the
loop; outside of loops the recipe goes on with what is left of it. -/
theorem History.break_stops_nearest_loop (h : History r (start r ops store) acts d)
    (hacts : own none acts = front ++ ret :: back)
    (hret : ret.events = [.noted (.returned op (.ok .stop))]) {followers levels : List Level}
    (hbehind : Agenda.behind ops (front ++ [ret]) = ⟨left, followers ++ levels⟩)
    (hfollowers : ∀ l ∈ followers, l.Follows) :
    (levels = [] → Gets r d back (followers.map fun l => .returned l.op (.ok .stop)) []
      (r.mainStrand left)) ∧
    ∀ l outer, levels = l :: outer → l.op.controlFlow ≠ none →
      ∃ id K changes, l.id? = some (.ok id) ∧ Run.Resumes r ⟨left, outer⟩ K ∧
        (id.isEmpty = false → (fun s : Store => s.setResult id true) ∈ changes) ∧
        Gets r d back ((followers.map fun l => .returned l.op (.ok .stop)) ++
          [.returned l.op (.ok (.ofOperation l.op))]) changes (K (.ok (.ofOperation l.op))) := by
  obtain ⟨K, c, later, hresumes, hmain, hlater, rfl⟩ := h.exists_resumes hacts hret
  rw [hbehind] at hresumes
  obtain ⟨K', hresumes', hup⟩ := hresumes.goes_followers hfollowers
  refine ⟨?_, ?_⟩
  · rintro rfl
    rw [hresumes'.eq_mainStrand] at hup
    exact hlater.gets_of_goes hup hmain
  · rintro l outer rfl hl
    obtain ⟨id, K'', changes, hknown, hresumes'', hloop, hpublished⟩ := hresumes'.goes_loop hl
    exact ⟨id, K'', changes, hknown, hresumes'', hpublished,
      hlater.gets_of_goes (hup.trans hloop) hmain⟩

/-- A command behind which the nearest loop is to end. -/
def halting : Operation where
  id := "halt"
  command := "true"
  breaksLoop := true

/-- A command that is followed by it. -/
def halted : Operation where
  command := "true"
  onSuccess := "halt"

/-- A loop that runs the command and another operation twice. -/
def haltedLoop : Operation where
  id := "loop"
  controlFlow := some (.counted "2" "i" false false)
  operations := [halted, {}]

/-- A run in which the handler can be referred to. -/
def haltingRun : Run :=
  ⟨2, 0, 0, ⟨[("halt", halting)]⟩, "", {}⟩

/-- The handler ends the loop in its first pass, and the recipe goes on behind the loop. -/
theorem break_stops_nearest_loop_haltedLoop :
    ∃ acts d K changes, History haltingRun (start haltingRun [haltedLoop, {}] {}) acts d ∧
      Run.Resumes haltingRun ⟨[{}], []⟩ K ∧ (fun s : Store => s.setResult "loop" true) ∈ changes ∧
      Gets haltingRun d [] [.returned halted (.ok .stop), .returned haltedLoop (.ok .next)] changes
        (K (.ok .next)) := by
  have h := (History.nil : History haltingRun (start haltingRun [haltedLoop, {}] {}) [] _)
      -- up to the first pass
      |>.snoc (.main (.note _ _ _)) |>.snoc (.main (.update _ _ _)) |>.snoc (.main (.update _ _ _))
      |>.snoc (.main (.update _ _ _)) |>.snoc (.main (.update _ _ _))
      |>.snoc (.main (.update _ _ _)) |>.snoc (.main (.update _ _ _))
      -- the command is successful
      |>.snoc (.main (.note _ _ _)) |>.snoc (.main (.update _ _ _)) |>.snoc (.main (.update _ _ _))
      |>.snoc (.main (.report _ _ _)) |>.snoc (.main (.command _ _ _ ⟨.exited 0, "", ""⟩))
      -- its handler is followed
      |>.snoc (.main (.note _ _ _)) |>.snoc (.main (.update _ _ _)) |>.snoc (.main (.update _ _ _))
      |>.snoc (.main (.report _ _ _)) |>.snoc (.main (.command _ _ _ ⟨.exited 0, "", ""⟩))
      |>.snoc (.main (.update _ _ _)) |>.snoc (.main (.update _ _ _)) |>.snoc (.main (.note _ _ _))
  have hloop := (h.break_stops_nearest_loop
    (rfl : own none _ = [_, _, _, _, _, _, _, _, _, _, _, _, _, _, _, _, _, _, _] ++ _ :: [])
    rfl (rfl : Agenda.behind _ _ = ⟨[{}], [⟨halted, _, _⟩] ++ [⟨haltedLoop, _, _⟩]⟩)
    (List.forall_mem_singleton.2 ⟨rfl, rfl⟩)).2 _ _ rfl nofun
  obtain ⟨id, K, changes, hid, hresumes, hpublished, hgets⟩ := hloop
  obtain rfl : "loop" = id := Except.ok.inj (Option.some.inj hid)
  exact ⟨_, _, K, changes, h, hresumes, hpublished rfl, hgets⟩

/-- The command is to end the recipe, too. -/
def leaving : Operation :=
  { halted with exitsRecipe := true }

def leavingLoop : Operation :=
  { haltedLoop with operations := [leaving, {}] }

/-- The handler signals to end the loop.  The operation that has followed it makes this the signal
to end the recipe, so the loop returns another signal than its own, nothing is published under its
id, and the recipe does not go on. -/
theorem exists_exit_behind_stop :
    ∃ acts d front ret back, History haltingRun (start haltingRun [leavingLoop, {}] {}) acts d ∧
      own none acts = front ++ ret :: back ∧
      ret.events = [.noted (.returned halting (.ok .stop))] ∧
      back.flatMap (fun act => act.events.filterMap Event.note?) =
        [.returned leaving (.ok .exit), .returned leavingLoop (.ok .exit)] ∧
      Signal.ofOperation leavingLoop = .next ∧ d.store.results.get? "loop" = none ∧
      d.main = .done (.ok true) := by
  have h := (History.nil : History haltingRun (start haltingRun [leavingLoop, {}] {}) [] _)
      -- up to the first pass
      |>.snoc (.main (.note _ _ _)) |>.snoc (.main (.update _ _ _)) |>.snoc (.main (.update _ _ _))
      |>.snoc (.main (.update _ _ _)) |>.snoc (.main (.update _ _ _))
      |>.snoc (.main (.update _ _ _)) |>.snoc (.main (.update _ _ _))
      -- the command is successful
      |>.snoc (.main (.note _ _ _)) |>.snoc (.main (.update _ _ _)) |>.snoc (.main (.update _ _ _))
      |>.snoc (.main (.report _ _ _)) |>.snoc (.main (.command _ _ _ ⟨.exited 0, "", ""⟩))
      -- its handler is followed
      |>.snoc (.main (.note _ _ _)) |>.snoc (.main (.update _ _ _)) |>.snoc (.main (.update _ _ _))
      |>.snoc (.main (.report _ _ _)) |>.snoc (.main (.command _ _ _ ⟨.exited 0, "", ""⟩))
      |>.snoc (.main (.update _ _ _)) |>.snoc (.main (.update _ _ _)) |>.snoc (.main (.note _ _ _))
      -- the recipe ends
      |>.snoc (.main (.note _ _ _)) |>.snoc (.main (.update _ _ _)) |>.snoc (.main (.update _ _ _))
      |>.snoc (.main (.note _ _ _)) |>.snoc (.main (.await _ rfl))
  exact ⟨_, _, [_, _, _, _, _, _, _, _, _, _, _, _, _, _, _, _, _, _, _], _, [_, _, _, _, _], h,
    rfl, rfl, rfl, rfl, rfl, rfl⟩

end Crew

end RecipeRunner

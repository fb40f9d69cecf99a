import RecipeRunner.Proofs.Run.Containment
import RecipeRunner.Proofs.Run.Display
import RecipeRunner.Proofs.Run.Exit
import RecipeRunner.Proofs.Run.Routing
/-!
# Failures of commands

Whatever the recipe, the commands and the replies are, and however background units come between,
every failure of a command of the main strand is answered once, an operator who does not want to go
on ends the run, and no run ends with the error of a command.  An attached command that is lost has
not failed: nobody is asked, and the error of the system ends the run.

* `Schedule.responds_of_runs`: an operation answers the failure of its command, and no other error.
* `Schedule.collapses_of_runs`: an error ends the run.
* `Recipe.failures_answered`: both for recipes, whose runs never end with the error of a command.
* `Recipe.innocent_of_run`: what the last says of the schedule that is run.
-/

namespace RecipeRunner

open Strand (Course)

/-- An event of a course is the event of one of its acts. -/
theorem Strand.Course.exists_act {α : Type} {s t : Strand α} {acts : List Act}
    {front back : List Event} {event : Event} (h : Course s acts t)
    (hevents : acts.flatMap (·.events) = front ++ event :: back) :
    ∃ earlier act later, acts = earlier ++ act :: later ∧ act.events = [event] ∧
      later.flatMap (·.events) = back := by
  induction h generalizing front with
  | refl => exact absurd hevents.symm (append_cons_ne_nil _ _ _)
  | @step s t u store mid new acts hmove hrest ih =>
    have hlater : ∀ {front : List Event}, acts.flatMap (·.events) = front ++ event :: back →
        ∃ earlier act later, ⟨new, store, mid⟩ :: acts = earlier ++ act :: later ∧
          act.events = [event] ∧ later.flatMap (·.events) = back := by
      intro front hevents
      obtain ⟨earlier, act, later, rfl, hact, hback⟩ := ih hevents
      exact ⟨_ :: earlier, act, later, rfl, hact, hback⟩
    rw [List.flatMap_cons] at hevents
    rcases hmove.events_eq with hnew | ⟨first, hnew⟩
    · rw [hnew] at hevents
      exact hlater hevents
    · rw [hnew] at hevents
      cases front with
      | nil =>
        obtain ⟨rfl, hback⟩ := List.cons.inj hevents
        exact ⟨[], _, acts, rfl, hnew, hback⟩
      | cons _ front => exact hlater (List.cons.inj hevents).2

namespace Schedule

variable {σ : Type} {r : Run} {w : Surroundings σ} {s : Schedule σ} {ops : List Operation}
  {store : Store} {outside : σ} {events : List Event}

theorem Runs.exists_course (h : Runs r w (start r ops store outside) events s) :
    ∃ acts, Course (r.mainStrand ops) acts s.main.strand ∧ acts.flatMap (·.events) = events := by
  obtain ⟨acts, d, hhistory, hd, hevents⟩ := h.exists_history (shows_start ops store outside)
  have hcourse := hhistory.main_course
  rw [hd.main] at hcourse
  exact ⟨_, hcourse, hevents⟩

/-! ## Errors -/

/-- As far as a run has come, it has been ended by an error. -/
structure Collapses (r : Run) (w : Surroundings σ) (e : Error) (after : List Event)
    (s : Schedule σ) : Prop where
  passesOn : ∀ event ∈ after, event.PassesOn e
  ended : ∀ result, s.main.strand = .done result → result = .error e
  /-- Nothing but background units keeps the run from its end. -/
  ends : ∃ more t, Runs r w s more t ∧ (t.main.strand = .done (.error e) ∨ t.IsWaiting)

/-- An error ends the run. -/
theorem collapses_of_runs (h : Runs r w (start r ops store outside) events s)
    {before after : List Event} {event : Event} (hevents : events = before ++ event :: after)
    {e : Error} (hraises : event.Raises e) : Collapses r w e after s := by
  obtain ⟨acts, hcourse, hflat⟩ := h.exists_course
  obtain ⟨last, hpath, hmain⟩ := (r.obeys_mainStrand ops).course hcourse
  rw [hflat, hevents] at hpath
  obtain ⟨hpasses, stack, rfl⟩ := Fate.passesOn_of_raises hpath hraises
  have hcloses := hmain.closes
  refine ⟨hpasses, fun result hdone => ?_, ?_⟩
  · rw [hdone] at hcloses
    exact hcloses
  · obtain ⟨more, t, hruns, hend⟩ := exists_runs_of_closes (r := r) (w := w) hcloses
    refine ⟨more, t, hruns, hend.imp_left ?_⟩
    rintro ⟨_, rfl, hdone⟩
    exact hdone

/-! ## Answers -/

theorem exists_runs_of_own {step : Step σ Bool} (h : s.main.strand.step? w s.scene = some step)
    (hown : Event.own 0 (s.main.strand.events w s.scene) ≠ []) :
    ∃ more t, Runs r w s more t ∧ Event.own 0 more ≠ [] := by
  obtain ⟨t, -, hruns⟩ := exists_runs_main (r := r) h
  refine ⟨_, t, hruns (.refl t), ?_⟩
  rw [List.append_nil]
  exact hown

/-- By itself, a main strand that has to answer a failure or to pass an error on does so. -/
theorem exists_runs_of_unsettled {r' : Run} {room : Nat} {op : Operation} {stage : Run.Stage}
    (hstage : ¬ stage.IsSettled)
    (h : s.main.strand.Obeys (Run.Stage.monitor r' room op) (fun _ st => st = (.finished, 0))
      (stage, 0)) :
    ∃ more t, Runs r w s more t ∧ Event.own 0 more ≠ [] := by
  -- the monitor lets the strand neither wait nor loop, and every event but a report is its own
  generalize hmain : s.main.strand = strand at h
  induction strand generalizing s with
  | done result =>
    cases h
    exact absurd trivial hstage
  | endless => exact absurd h hstage
  | update change next ih =>
    obtain ⟨t, ht, hruns⟩ := exists_runs_main (r := r) (w := w) (s := s) (by rw [hmain]; rfl)
    obtain ⟨more, u, hmore, hown⟩ := ih s.scene.store ht (h _)
    rw [hmain] at hruns
    exact ⟨more, u, hruns hmore, hown⟩
  | report text next ih =>
    obtain ⟨⟨last, inside⟩, hstep, hnext⟩ := h
    obtain ⟨rfl, rfl⟩ : last = stage ∧ inside = 0 := by
      cases hstep with
      | reported | complained | anything => exact ⟨rfl, rfl⟩
    obtain ⟨t, ht, hruns⟩ := exists_runs_main (r := r) (w := w) (s := s) (by rw [hmain]; rfl)
    obtain ⟨more, u, hmore, hown⟩ := ih ht hnext
    rw [hmain] at hruns
    exact ⟨_, u, hruns hmore, hown⟩
  | note told next ih =>
    refine exists_runs_of_own (by rw [hmain]; rfl) ?_
    rw [hmain]
    cases told with
    | started | skipped | returned => exact List.cons_ne_nil _ _
  | await next ih => exact absurd h.1 hstage
  | command | ask | confirm | launch =>
    refine exists_runs_of_own (by rw [hmain]; rfl) ?_
    rw [hmain]
    exact List.cons_ne_nil _ _

/-- As far as a run has come, an operation has responded to what its command has come to, in one of
some ways. -/
structure Responds (r : Run) (w : Surroundings σ) (ways : List Event → Prop) (after : List Event)
    (s : Schedule σ) : Prop where
  /-- What the operation has done itself is one of the ways, or the first part of one. -/
  once : ∃ way, ways way ∧ Event.own 0 after <+: way ∧
    ∀ result, s.main.strand = .done result → Event.own 0 after = way
  /-- Nothing keeps the run from the response. -/
  responds : Event.own 0 after = [] → ∃ more t, Runs r w s more t ∧ Event.own 0 (after ++ more) ≠ []

/-- A command is run by an operation, with whose monitor the rest keeps up. -/
theorem exists_turn (h : Runs r w (start r ops store outside) events s)
    {before after : List Event} {call : Call} {execution : Execution}
    (hevents : events = before ++ .command call execution :: after) :
    ∃ op rest room stage behind last, Event.running before [] = op :: rest ∧
      .noted (.started op room) ∈ before ∧ stage ≠ .finished ∧
      Run.Stage.Step r room op (stage, 0) (.command call execution) behind ∧
      Path (Run.Stage.Step r room op) behind after last ∧
      s.main.strand.Obeys (Run.Stage.monitor r room op) (fun _ st => st = (.finished, 0)) last := by
  obtain ⟨acts, hcourse, hflat⟩ := h.exists_course
  rw [hevents] at hflat
  obtain ⟨last, hpath, -⟩ := (r.obeys_mainStrand ops).course hcourse
  rw [hflat] at hpath
  -- the operation is the innermost one, so those that were started behind it have ended
  obtain ⟨op, rest, hrunning⟩ := List.exists_cons_of_ne_nil (Fate.running_ne_nil_of_command hpath)
  have htop : Event.running before [] = [] ++ op :: rest := hrunning
  obtain ⟨front, room, mid, rfl, hlevel⟩ := Event.exists_start htop
  rw [List.append_assoc, List.cons_append] at hflat
  obtain ⟨earlier, start, later, rfl, hstart, hlater⟩ := hcourse.exists_act hflat
  have hstarts : start.Starts op room := by
    rw [Act.Starts, hstart]
    exact List.mem_singleton_self _
  obtain ⟨k, hturn⟩ := (Strand.occurs_mainStrand r ops).body hcourse rfl hstarts
  obtain ⟨last, hpath, hlast⟩ := (Run.obeys_turn op k).course hturn
  rw [hlater] at hpath
  obtain ⟨⟨stage, inside⟩, behind, hmid, hstep, hafter⟩ := hpath.exists_of_append_cons
  obtain ⟨hinside, hunfinished⟩ := Run.path_level hmid Run.Stage.acting_ne_finished hlevel
  obtain rfl : inside = 0 := hinside
  exact ⟨op, rest, room, stage, behind, last, hrunning,
    List.mem_append_right _ List.mem_cons_self, hunfinished, hstep, hafter, hlast⟩

/-- Where an operation has done nothing yet, its monitor still awaits what it has to do. -/
theorem responds_of_obeys {room : Nat} {op : Operation} {stage : Run.Stage}
    {ways : List Event → Prop} {way after : List Event} {last : Run.Stage × Nat}
    (hstage : ¬ stage.IsSettled) (hway : ways way) (hbegins : Event.own 0 after <+: way)
    (hended : last.1 = .finished → Event.own 0 after = way)
    (hpending : Event.own 0 after = [] → last = (stage, 0))
    (hlast : s.main.strand.Obeys (Run.Stage.monitor r room op) (fun _ st => st = (.finished, 0))
      last) : Responds r w ways after s := by
  refine ⟨⟨way, hway, hbegins, fun result hdone => hended ?_⟩, fun hown => ?_⟩
  · rw [hdone] at hlast
    exact congrArg Prod.fst hlast
  · rw [hpending hown] at hlast
    obtain ⟨more, t, hruns, hmore⟩ := exists_runs_of_unsettled (r := r) (w := w) hstage hlast
    refine ⟨more, t, hruns, ?_⟩
    rw [Event.own_append_of_nil hown]
    exact hmore

/-- Commands are run by operations, which answer their failures and return other errors. -/
theorem responds_of_runs (h : Runs r w (start r ops store outside) events s)
    {before after : List Event} {call : Call} {execution : Execution}
    (hevents : events = before ++ .command call execution :: after) :
    ∃ op rest room, Event.running before [] = op :: rest ∧ .noted (.started op room) ∈ before ∧
      ∀ e, execution.output call op.format = .error e →
        (e.isCommandFailure = true → Responds r w (r.Answers room op e) after s) ∧
        (e.isCommandFailure = false →
          Responds r w (· = [.noted (.returned op (.error e))]) after s) := by
  obtain ⟨op, rest, room, stage, behind, last, hrunning, hstarted, hunfinished, hstep, hafter,
    hlast⟩ := exists_turn h hevents
  refine ⟨op, rest, room, hrunning, hstarted, fun e he => ?_⟩
  cases hstep with
  | succeeded hsuccess => cases hsuccess.symm.trans he
  | anything => exact absurd rfl hunfinished
  | failed heq hfailure =>
    obtain rfl := Except.error.inj (heq.symm.trans he)
    obtain ⟨answer, hanswers, hbegins, hended, hpending⟩ := Run.answers_of_path hafter
    refine ⟨fun _ => ?_, fun hother => ?_⟩
    · exact responds_of_obeys (Run.Stage.not_isSettled_failed _) hanswers hbegins hended hpending
        hlast
    · cases hfailure.symm.trans hother
  | lost heq hother =>
    obtain rfl := Except.error.inj (heq.symm.trans he)
    obtain ⟨hbegins, hended, hpending⟩ := Run.passes_of_path hafter
    refine ⟨fun hfailure => ?_, fun _ => ?_⟩
    · cases hother.symm.trans hfailure
    · exact responds_of_obeys (Run.Stage.not_isSettled_lost _) rfl hbegins hended hpending hlast

end Schedule

/-! ## Recipes -/

namespace Expansion

variable {registry : Registry}

theorem innocent_expandEach {expand : Operation → Except Error (List Operation)}
    (h : ∀ op, Innocent (expand op)) (ops : List Operation) : Innocent (expandEach expand ops) := by
  induction ops with
  | nil => exact innocent_ok _
  | cons op rest ih => exact (h op).bind fun _ => ih.bind fun _ => innocent_ok _

theorem innocent_expandWithin (room : Nat) (ops : List Operation) :
    Innocent (expandWithin registry room ops) := by
  induction room generalizing ops with
  | zero => exact innocent_error rfl
  | succ room ih =>
    refine innocent_expandEach (fun op => ?_) ops
    unfold expandOne
    split
    · split
      · exact innocent_ok _
      · exact (ih _).map _
    · split
      · exact innocent_error rfl
      · exact (ih _).map _

end Expansion

namespace Recipe

variable {σ : Type}

/-- Failures of commands are always answered and never come out of a run.  A recipe does not fail to
be expanded with the error of a command.  Whatever is run of it and whatever the replies are: the
failure of a command of the main strand is answered once by the operation whose command it is, which
follows its failure handler if it names one and otherwise asks whether to go on; the error of the
system where an attached command is lost is no such failure, and the operation returns it; an error,
like that one or that of an operator who does not want to go on, ends the run, and no operation
starts behind it; and if what answers prompts does not have the error of a command itself, no run
ends with one. -/
theorem failures_answered (recipe : Recipe) (o : Order) (w : Surroundings σ) (outside : σ) :
    (∀ e, Expansion.expand o.registry recipe.operations = .error e → e.isCommandFailure = false) ∧
    ∀ ops, Expansion.expand o.registry recipe.operations = .ok ops →
      ∀ events s, recipe.Reaches o ops w outside events s →
        (∀ before call execution after, events = before ++ .command call execution :: after →
          ∃ op rest room, Event.running before [] = op :: rest ∧
            .noted (.started op room) ∈ before ∧
            ∀ e, execution.output call op.format = .error e →
              (e.isCommandFailure = true →
                Schedule.Responds (runOf o ops) w ((runOf o ops).Answers room op e) after s) ∧
              (e.isCommandFailure = false → Schedule.Responds (runOf o ops) w
                (· = [.noted (.returned op (.error e))]) after s)) ∧
        (∀ before event after e, events = before ++ event :: after → event.Raises e →
          Schedule.Collapses (runOf o ops) w e after s) ∧
        (w.Honest → ∀ e, s.main.strand = .done (.error e) → e.isCommandFailure = false) := by
  refine ⟨Expansion.innocent_expandWithin _ _, fun ops _ events s h => ⟨?_, ?_, ?_⟩⟩
  · exact fun before call execution after hevents => Schedule.responds_of_runs h hevents
  · exact fun before event after e hevents => Schedule.collapses_of_runs h hevents
  · exact fun hw e hdone => Schedule.innocent_of_runs h hw hdone e rfl

/-- An operation whose failure handler is another one. -/
def build : Operation where
  id := "build"
  command := "make"
  onFailure := "mend"

/-- An operation without a failure handler. -/
def mend : Operation where
  id := "mend"
  command := "make clean"

/-- A recipe whose second operation is the failure handler of the first one. -/
def mended : Recipe where
  name := "build"
  operations := [build, mend]

/-- Commands fail, and the operator does not want to go on. -/
def refusing : Surroundings Unit where
  command _ _ := (⟨⟨.exited 2, "", "no rule"⟩, {}, 0⟩, ())
  ask _ _ := (⟨.ok .exit, {}, 0⟩, ())
  confirm _ _ _ := (⟨.ok false, {}, 0⟩, ())

open Schedule in
/-- The handler is followed, and fails in turn; the operator is asked, and the run ends. -/
theorem failures_answered_mended : ∃ before between after s,
    mended.Reaches quiet [build, mend] refusing () (before ++
      .command ⟨"make", "", false⟩ ⟨.exited 2, "", "no rule"⟩ ::
        (between ++ .confirmed "mend" "no rule" (.ok false) :: after)) s ∧
      s.main.strand = .done (.error .userAborted) ∧
      (∃ op rest room, Event.running before [] = op :: rest ∧
        (runOf quiet [build, mend]).Answers room op
          (.commandFailed "make" (Shell.Ending.exited 2).status "no rule")
          (Event.own 0 (between ++ .confirmed "mend" "no rule" (.ok false) :: after))) ∧
      (∀ event ∈ after, event.PassesOn .userAborted) ∧
      Error.userAborted.isCommandFailure = false := by
  obtain ⟨events, s, h, hdone, before, between, after, rfl⟩ : ∃ events s,
      mended.Reaches quiet [build, mend] refusing () events s ∧
      s.main.strand = .done (.error .userAborted) ∧ ∃ before between after, events =
        before ++ .command ⟨"make", "", false⟩ ⟨.exited 2, "", "no rule"⟩ ::
          (between ++ .confirmed "mend" "no rule" (.ok false) :: after) :=
    ⟨_, _, .main 0 rfl <| .main 0 rfl <| .main 0 rfl <| .main 0 rfl <| .main 0 rfl <|
      .main 0 rfl <| .main 0 rfl <| .main 0 rfl <| .main 0 rfl <| .main 0 rfl <|
      .main 0 rfl <| .main 0 rfl <| .main 0 rfl <| .main 0 rfl <| .main 0 rfl <| .main 0 rfl <|
      .main 0 rfl <| .main 0 rfl <| .main 0 rfl <| .refl _, rfl,
      [_, _], [_, _, _, _], [_, _], rfl⟩
  have hhonest : refusing.Honest := ⟨fun _ _ => innocent_ok _, fun _ _ _ => innocent_ok _⟩
  obtain ⟨-, hruns⟩ := failures_answered mended quiet refusing ()
  obtain ⟨hanswered, hcollapses, hinnocent⟩ := hruns [build, mend] rfl _ s h
  obtain ⟨op, rest, room, hrunning, -, hfailure⟩ := hanswered before _ _ _ rfl
  obtain ⟨⟨answer, hanswers, -, hended⟩, -⟩ := (hfailure _ rfl).1 rfl
  have hraises : (Event.confirmed "mend" "no rule" (.ok false)).Raises .userAborted := rfl
  have hcollapse := hcollapses (before ++ .command ⟨"make", "", false⟩ _ :: between) _ after _
    (by rw [List.append_assoc, List.cons_append]) hraises
  refine ⟨before, between, after, s, h, hdone, ⟨op, rest, room, hrunning, ?_⟩,
    hcollapse.passesOn, hinnocent hhonest _ hdone⟩
  rw [hended _ hdone]
  exact hanswers

end Recipe

/-! ## The schedule that is run -/

theorem innocent_mapError_prompt {α : Type} (result : Except PromptFault α) :
    Innocent (result.mapError Error.prompt) := by
  cases result with
  | ok a => exact innocent_ok a
  | error fault => exact innocent_error rfl

theorem Workplace.honest_surroundings (p : Workplace) : p.surroundings.Honest where
  ask spec outside := by
    change Innocent (Workplace.ask spec outside).1.reply
    unfold Workplace.ask
    split
    · exact innocent_mapError_prompt _
    · exact innocent_mapError_prompt _
  confirm label failure outside := by
    change Innocent (Workplace.confirm label failure outside).1.reply
    unfold Workplace.confirm
    split
    · exact innocent_ok _
    · exact innocent_mapError_prompt _

/-- No recipe fails with the error of a command. -/
theorem Recipe.innocent_of_run {recipe : Recipe} {o : Order} {result : Except Error Outcome}
    {written : Streams} (h : recipe.run o = some (result, written)) : Innocent result := by
  have hexpand : Innocent (Expansion.expandWithin o.registry _ recipe.operations) :=
    Expansion.innocent_expandWithin (Expansion.maxDepth + 1) _
  unfold run Expansion.expand at h
  split at h
  · next e heq =>
    obtain ⟨rfl, -⟩ := Prod.mk.inj (Option.some.inj h)
    rw [heq] at hexpand
    exact hexpand.error
  · next ops heq =>
    obtain ⟨⟨result, scene⟩, hrun, heq⟩ := Option.map_eq_some_iff.1 h
    obtain ⟨rfl, -⟩ := Prod.mk.inj heq
    obtain ⟨events, s, hruns, hdone, -⟩ := Schedule.runs_of_runWithin hrun
    exact (Schedule.innocent_of_runs hruns (Workplace.honest_surroundings _) hdone).map _

end RecipeRunner

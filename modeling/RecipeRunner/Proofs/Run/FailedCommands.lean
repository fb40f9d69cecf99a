import RecipeRunner.Proofs.Run.Superseding
import RecipeRunner.Proofs.Run.Unpublished
/-!
# Commands that fail

What is recorded of a command that fails.  A unit records that it was not successful and takes back
the output under its id.  In the foreground only the result is recorded, so the output of an earlier
pass stands beside it, and it is still what templates and conditions see.

* `Strand.Proceeds`: what a strand does behind commands that are run before it tells of operations.
* `Run.proceeds_bodyAs`: behind the command of an operation its failure is recorded.
* `Crew.History.recordsFailures`: what is left under an id by each command that fails in a run.
* `Crew.exists_output_of_earlier_pass`: the output of an earlier pass beside a failure.
-/

namespace RecipeRunner

open Strand (Course Move)

/-- No command is run. -/
def Event.RunsNothing : Event → Prop
  | command .. => False
  | _ => True

namespace Act

/-- Nothing is told of operations in an act. -/
def Untold (act : Act) : Prop :=
  ∀ told, .noted told ∉ act.events

/-- Under an id there is the result of a failure and an output, to which the id refers where no
variable has its name. -/
structure LeavesFailure (act : Act) (id : String) (output : Option String) : Prop where
  result : act.after.results.get? id = some false
  outputs : act.after.outputs.get? id = output
  lookup : act.after.lookup id = (act.after.vars.get? id).or (output.map .str)

variable {act : Act} {id : String}

theorem leavesFailure_of_setResult (h : act.after = act.before.setResult id false) :
    act.LeavesFailure id (act.before.outputs.get? id) where
  result := by
    rw [h]
    exact Table.get?_set_self ..
  outputs := by
    rw [h]
    rfl
  lookup := by
    rw [h]
    rfl

theorem leavesFailure_of_publishOutcome {failure : String}
    (h : act.after = act.before.publishOutcome id (.error failure)) :
    act.LeavesFailure id (some "") := by
  have houtput : act.after.outputs.get? id = some "" := by
    rw [h]
    exact Table.get?_set_self ..
  refine ⟨?_, houtput, ?_⟩
  · rw [h]
    exact Table.get?_set_self ..
  · rw [Store.lookup, houtput]

end Act

/-! ## What is done behind commands -/

namespace Strand

variable {α β γ : Type} {s : Strand α} {P : Call → Execution → List Act → Prop}

/-- Behind each command that is run before anything is told of operations the strand does what `P`
says. -/
structure Proceeds (P : Call → Execution → List Act → Prop) (s : Strand α) : Prop where
  behind : ∀ {acts quiet back : List Act} {ran : Act} {t : Strand α} {call : Call}
    {execution : Execution}, Course s acts t → acts = quiet ++ ran :: back →
      (∀ act ∈ quiet, act.Untold) → ran.events = [.command call execution] → P call execution back

theorem proceeds_of_move (h : ∀ {store last : Store} {new : List Event} {t : Strand α},
    Move s store new t last → (∀ {acts : List Act} {u : Strand α} {call : Call}
      {execution : Execution}, new = [.command call execution] → Course t acts u →
        P call execution acts) ∧ ((∀ told, .noted told ∉ new) → Proceeds P t)) : Proceeds P s := by
  refine ⟨fun {acts quiet back ran t call execution} hcourse hacts hquiet hran => ?_⟩
  cases hcourse with
  | refl => exact absurd hacts.symm (append_cons_ne_nil _ _ _)
  | step hmove hrest =>
    obtain ⟨hbehind, hnext⟩ := h hmove
    rcases quiet with _ | ⟨first, quiet⟩
    · obtain ⟨rfl, rfl⟩ := List.cons.inj hacts
      exact hbehind hran hrest
    · obtain ⟨rfl, rfl⟩ := List.cons.inj hacts
      obtain ⟨hfirst, hquiet⟩ := List.forall_mem_cons.1 hquiet
      exact (hnext hfirst).behind hrest rfl hquiet hran

theorem proceeds_note (told : Note) (s : Strand α) : Proceeds P (note told s) := by
  refine proceeds_of_move fun hmove => ?_
  cases hmove
  exact ⟨nofun, fun huntold => absurd (List.mem_singleton_self _) (huntold told)⟩

theorem proceeds_command {call : Call} {next : Execution → Strand α}
    (hP : ∀ {execution : Execution} {acts : List Act} {t : Strand α},
      Course (next execution) acts t → P call execution acts)
    (hnext : ∀ execution, Proceeds P (next execution)) : Proceeds P (command call next) := by
  refine proceeds_of_move fun hmove => ?_
  cases hmove
  refine ⟨fun hran hrest => ?_, fun _ => hnext _⟩
  obtain ⟨rfl, rfl⟩ := Event.command.inj (List.singleton_inj.1 hran)
  exact hP hrest

theorem Course.of_update_cons {change : Store → Store} {next : Store → Strand α} {act : Act}
    {acts : List Act} {t : Strand α} (h : Course (update change next) (act :: acts) t) :
    ∃ store, act = ⟨[], store, change store⟩ ∧ Course (next store) acts t := by
  cases h with
  | step hmove hrest =>
    cases hmove
    exact ⟨_, rfl, hrest⟩

theorem Does.course {E : Event → Prop} {R : Store → Store → Prop} [IsPreorder Store R]
    {acts : List Act} {t : Strand α} (hs : s.Does E R) (h : Course s acts t) :
    ∀ act ∈ acts, ∀ event ∈ act.events, E event := by
  induction h with
  | refl => exact List.forall_mem_nil _
  | step hmove _ ih =>
    obtain ⟨hnew, -, hnext⟩ := hs.move (refl _) hmove
    exact List.forall_mem_cons.2 ⟨hnew, ih hnext⟩

/-- A strand without commands may come first. -/
theorem proceeds_continueWith {R : Store → Store → Prop} [IsPreorder Store R]
    {k : Except Error α → Strand β} (hs : s.Does Event.RunsNothing R)
    (hk : ∀ result, Proceeds P (k result)) : Proceeds P (s.continueWith k) := by
  refine ⟨fun {acts quiet back ran t call execution} hcourse hacts hquiet hran => ?_⟩
  have hnot : ∀ {front : List Act} {u : Strand α}, Course s front u → ran ∉ front := by
    intro front u hfront hmem
    have hnothing := hs.course hfront ran hmem (.command call execution)
    rw [hran] at hnothing
    exact hnothing (List.mem_singleton_self _)
  rcases hcourse.of_continueWith with ⟨next, -, hfirst⟩ |
    ⟨front, result, rest, rfl, hfirst, hsecond⟩
  · refine absurd ?_ (hnot hfirst)
    rw [hacts]
    exact List.mem_append_right _ List.mem_cons_self
  · rcases exists_of_append_eq_append_cons hacts with ⟨mid, hfront, -⟩ | ⟨mid, rfl, hrest⟩
    · refine absurd ?_ (hnot hfirst)
      rw [hfront]
      exact List.mem_append_right _ List.mem_cons_self
    · exact (hk result).behind hsecond hrest
        (fun act hact => hquiet act (List.mem_append_right _ hact)) hran

/-- What a strand without commands comes to decides how it goes on. -/
theorem proceeds_bind {R : Store → Store → Prop} [IsPreorder Store R] {next : α → Strand β}
    {k : Except Error β → Strand γ} (hs : s.Does Event.RunsNothing R)
    (hnext : ∀ a, Proceeds P ((next a).continueWith k)) (hk : ∀ e, Proceeds P (k (.error e))) :
    Proceeds P ((s >>= next).continueWith k) := by
  rw [bind_continueWith]
  refine proceeds_continueWith hs fun result => ?_
  cases result with
  | ok a => exact hnext a
  | error e => exact hk e

end Strand

namespace Run

open Strand (Proceeds proceeds_bind)
open Store (SameAt)

variable {r : Run} {op : Operation} {id : String} {room : Nat} {α : Type}

section Handlers

variable {P : Call → Execution → List Act → Prop} {k : Except Error Signal → Strand α}
  (hk : ∀ result, Proceeds P (k result))

include hk

/-- The commands of a handler come behind its start. -/
theorem proceeds_handled (handler : String) :
    Proceeds P ((r.handled (r.execute room) op handler).continueWith k) := by
  unfold handled
  split
  · exact hk _
  rw [Strand.bind_continueWith, follow]
  split
  · next target _ =>
    cases room with
    | zero => exact hk _
    | succ room =>
      rw [execute_succ]
      exact Strand.proceeds_note _ _
  · exact hk _

theorem proceeds_succeeded (raw : String) :
    Proceeds P ((r.succeeded (r.execute room) op id raw).continueWith k) :=
  proceeds_bind (does_publishOutput r (fun _ => trivial) List.not_mem_nil op raw)
    (fun _ => proceeds_handled hk _) fun _ => hk _

theorem proceeds_failed (failure : Error) :
    Proceeds P ((r.failed (r.execute room) op id failure).continueWith k) := by
  unfold failed
  refine proceeds_bind (does_setResult List.not_mem_nil false) (fun _ => ?_) fun _ => hk _
  refine proceeds_bind (R := SameAt []) (does_setVar _ _) (fun _ => ?_) fun _ => hk _
  split
  · exact proceeds_handled hk _
  · have hasks : (goesOn op.label failure.failureMessage).Does Event.RunsNothing (SameAt []) :=
      fun _ => ⟨trivial, Strand.does_ofExcept _⟩
    have hwrite : (Strand.write (r.console.failure op.label failure.failureMessage)).Does
        Event.RunsNothing (SameAt []) := Strand.does_write trivial
    refine proceeds_bind hwrite (fun _ => proceeds_bind hasks (fun on => ?_) fun _ => hk _)
      fun _ => hk _
    split
    · exact hk _
    · exact hk _

end Handlers

/-- The act behind a command that fails records this. -/
def RecordsFailure (id : String) (format : OutputFormat) (call : Call) (execution : Execution)
    (acts : List Act) : Prop :=
  ∀ failure record rest, execution.output call format = .error failure →
    failure.isCommandFailure = true → acts = record :: rest →
      record.after = record.before.setResult id false

theorem recordsFailure_of_course {execute : Operation → Strand Signal} (hid : id ≠ "") {call : Call}
    {execution : Execution} {k : Except Error Signal → Strand α} {acts : List Act} {t : Strand α}
    (h : Course ((match execution.output call op.format with
      | .ok raw => r.succeeded execute op id raw
      | .error failure =>
        if failure.isCommandFailure then r.failed execute op id failure
        else Strand.fail failure).continueWith k) acts t) :
    RecordsFailure id op.format call execution acts := by
  have hempty : id.isEmpty = false := by simpa using hid
  rintro failure record rest hfails hcommand rfl
  simp only [hfails, hcommand, failed, setResult, hempty] at h
  obtain ⟨store, rfl, -⟩ := Strand.Course.of_update_cons h
  rfl

theorem proceeds_command (hmode : op.mode ≠ .background) (hid : id ≠ "")
    {k : Except Error Signal → Strand α}
    (hk : ∀ result, Proceeds (RecordsFailure id op.format) (k result)) :
    Proceeds (RecordsFailure id op.format)
      ((r.command (r.execute room) op id room).continueWith k) := by
  unfold command
  refine proceeds_bind (R := SameAt []) (does_render _) (fun text => ?_) fun _ => hk _
  rw [if_neg hmode]
  refine proceeds_bind (R := SameAt []) (Strand.does_write trivial) (fun _ => ?_) fun _ => hk _
  refine Strand.proceeds_command (fun hcourse => ?_) fun execution => ?_
  · exact recordsFailure_of_course hid hcourse
  · simp only [Strand.pure_def, Strand.continueWith]
    split
    · exact proceeds_succeeded hk _
    · split
      · exact proceeds_failed hk _
      · exact hk _

/-- Where an operation runs a command the act behind it records its failure. -/
theorem proceeds_bodyAs (hruns : op.RunsCommand) (hid : id ≠ "")
    {k : Except Error (Option Signal) → Strand α}
    (hk : ∀ result, Proceeds (RecordsFailure id op.format) (k result)) :
    Proceeds (RecordsFailure id op.format) ((r.bodyAs room op id).continueWith k) := by
  refine proceeds_bind (R := SameAt []) (does_holds _) (fun on => ?_) fun _ => hk _
  split
  · refine proceeds_bind (R := SameAt []) (does_askAll (fun _ _ => trivial) _) (fun stops => ?_)
      fun _ => hk _
    split
    · exact hk _
    · rw [perform_of_runsCommand hruns]
      change Proceeds (RecordsFailure id op.format)
        ((r.command (r.execute room) op id room >>= pure ∘ some).continueWith k)
      rw [Strand.bind_continueWith]
      refine proceeds_command hruns.mode hid fun result => ?_
      cases result with
      | ok signal => exact hk _
      | error e => exact hk _
  · exact hk _

/-- The id of an operation is that in the store of the first act behind its start. -/
theorem record_of_body (hruns : op.RunsCommand) (hid : id ≠ "")
    {k : Except Error (Option Signal) → Strand α} {t : Strand α} {between back : List Act}
    {look ran record : Act} {call : Call} {execution : Execution} {failure : Error}
    (h : Course ((r.body room op).continueWith fun result => .note (.ending op result) (k result))
      (look :: (between ++ ran :: record :: back)) t) (hin : idIn look.before op = .ok id)
    (huntold : ∀ act ∈ look :: between, act.Untold) (hran : ran.events = [.command call execution])
    (hfails : execution.output call op.format = .error failure)
    (hcommand : failure.isCommandFailure = true) :
    record.after = record.before.setResult id false := by
  have hbody : Proceeds (RecordsFailure id op.format) ((r.bodyAs room op id).continueWith
      fun result => .note (.ending op result) (k result)) :=
    proceeds_bodyAs hruns hid fun result => Strand.proceeds_note _ _
  rcases idOf_eq op with ⟨hplain, hidOf⟩ | ⟨htemplate, hidOf⟩
  · obtain rfl : op.id = id := by simpa [idIn, hplain] using hin
    rw [body, hidOf, Strand.pure_bind] at h
    exact hbody.behind h (List.cons_append ..).symm huntold hran _ _ _ hfails hcommand rfl
  · rw [body, hidOf] at h
    obtain ⟨store, rfl, hbehind⟩ := Strand.Course.of_update_cons h
    have hrendered : idIn store op = .ok id := hin
    simp only [hrendered] at hbehind
    exact hbody.behind hbehind rfl (List.forall_mem_cons.1 huntold).2 hran _ _ _ hfails hcommand rfl

end Run

/-! ## Failures -/

/-- An operation that has an id starts in a strand, its command is run in the foreground before
anything else is told of operations, and fails; then an act follows. -/
inductive Operation.Fails (op : Operation) (id : String) (record : Act) : List Act → Prop
  | fails {front between back : List Act} {begun look ran : Act} {room : Nat} {call : Call}
      {execution : Execution} {failure : Error} :
    op.RunsCommand → begun.Starts op room → Run.idIn look.before op = .ok id →
    (∀ act ∈ look :: between, act.Untold) → ran.events = [.command call execution] →
    execution.output call op.format = .error failure → failure.isCommandFailure = true →
    Fails op id record (front ++ begun :: look :: (between ++ ran :: record :: back))

/-- The command of a unit fails, and the table accepts this; then the act follows in which it is
published. -/
inductive Launch.Fails (r : Run) (u : Launch) (publish : Act) : List Act → Prop
  | fails {back : List Act} {ran record : Act} {execution : Execution} {failure : Error} :
    ran.events = [.command (u.call r) execution] →
    execution.output (u.call r) u.operation.format = .error failure →
    record.before.tasks.accepts u.id u.run = true →
    Fails r u publish (ran :: record :: publish :: back)

theorem Launch.Fails.after_eq {r : Run} {u : Launch} {publish : Act} {acts : List Act}
    {t : Strand Unit} (h : u.Fails r publish acts) (hcourse : Course (r.unitStrand u) acts t) :
    ∃ failure, publish.after = publish.before.publishOutcome u.id (.error failure) := by
  obtain @⟨back, ran, record, execution, failure, hran, hfails, haccepts⟩ := h
  rw [Run.unitStrand_eq, Run.unitBody_eq] at hcourse
  cases hcourse with
  | step hmove hrest =>
    cases hmove with
    | command call next _ execution =>
      obtain ⟨-, rfl⟩ := Event.command.inj (List.singleton_inj.1 hran)
      have htransforming : r.transforming u execution = .done (.error failure) := by
        rw [Run.transforming, hfails]
        rfl
      change Course (((r.transforming u execution).continueWith (r.publish u) >>=
        r.heeding u).continueWith Run.lastOfUnit) (record :: publish :: back) t at hrest
      rw [htransforming] at hrest
      change Course ((r.publish u (.error failure) >>= r.heeding u).continueWith Run.lastOfUnit)
        (record :: publish :: back) t at hrest
      rw [Run.publish_eq] at hrest
      obtain ⟨store, rfl, hbehind⟩ := hrest.of_update_cons
      change Course (((if store.tasks.accepts u.id u.run then _ else _) >>=
        r.heeding u).continueWith Run.lastOfUnit) (publish :: back) t at hbehind
      rw [if_pos haccepts] at hbehind
      obtain ⟨last, rfl, -⟩ := hbehind.of_update_cons
      exact ⟨failure.failureMessage, rfl⟩

namespace Crew

variable {r : Run} {ops : List Operation} {store : Store} {acts : List (Option Nat × Act)}
  {d : Crew}

/-- What is left by a command that fails in a run.  A unit takes back the output under its id; in
the foreground the output stays what it was. -/
theorem History.recordsFailures (h : History r (start r ops store) acts d) :
    (∀ (who : Option Nat) (op : Operation) (id : String) (record : Act), id ≠ "" →
      op.Fails id record (own who acts) →
        record.LeavesFailure id (record.before.outputs.get? id)) ∧
    ∀ (n : Nat) (u : Launch) (s : Strand Unit) (publish : Act), d.units[n]? = some (u, s) →
      u.Fails r publish (own (some n) acts) → publish.LeavesFailure u.id (some "") := by
  constructor
  · intro who op id record hid hfails
    generalize hown : own who acts = mine at hfails
    obtain ⟨hruns, hstarts, hin, huntold, hran, hfailure, hcommand⟩ := hfails
    obtain ⟨α, k, t, hcourse⟩ := h.occurs hown hstarts
    exact Act.leavesFailure_of_setResult
      (Run.record_of_body hruns hid hcourse hin huntold hran hfailure hcommand)
  · intro n u s publish hunit hfails
    obtain ⟨failure, hafter⟩ := hfails.after_eq (h.unit_course hunit).1
    exact Act.leavesFailure_of_publishOutcome hafter

/-- A command. -/
def probe : Operation :=
  { id := "probe", command := "probe" }

/-- A command in the background. -/
def watch : Operation :=
  { id := "watch", command := "watch", mode := .background }

theorem runsCommand_probe : probe.RunsCommand :=
  ⟨rfl, rfl, by decide +kernel, by decide⟩

/-- A run in which a command fails in the foreground and one in the background. -/
theorem exists_fails_probe_watch :
    ∃ acts d u s record publish, History bareRun (start bareRun [watch, probe] {}) acts d ∧
      probe.Fails "probe" record (own none acts) ∧ record.before.outputs.get? "probe" = none ∧
      d.units[0]? = some (u, s) ∧ u.id = "watch" ∧ u.Fails bareRun publish (own (some 0) acts) := by
  have h := (History.nil : History bareRun (start bareRun [watch, probe] {}) [] _)
      -- the command in the background is launched
      |>.snoc (.main (.note _ _ _)) |>.snoc (.main (.update _ _ _)) |>.snoc (.main (.update _ _ _))
      |>.snoc (.main (.report _ _ _)) |>.snoc (.main (.update _ _ _))
      |>.snoc (.main (.update _ _ _)) |>.snoc (.main (.update _ _ _))
      |>.snoc (.main (.launch _ _ _)) |>.snoc (.main (.note _ _ _))
      -- the command in the foreground fails
      |>.snoc (.main (.note _ _ _)) |>.snoc (.main (.update _ _ _)) |>.snoc (.main (.update _ _ _))
      |>.snoc (.main (.report _ _ _)) |>.snoc (.main (.command _ _ _ ⟨.exited 1, "", ""⟩))
      |>.snoc (.main (.update _ _ _))
      -- the command in the background fails
      |>.snoc (.unit (rfl : _ = [] ++ _ :: _) (.command _ _ _ ⟨.exited 2, "", ""⟩))
      |>.snoc (.unit (rfl : _ = [] ++ _ :: _) (.update _ _ _))
      |>.snoc (.unit (rfl : _ = [] ++ _ :: _) (.update _ _ _))
  refine ⟨_, _, _, _, _, _, h, @Operation.Fails.fails _ _ _ [_, _, _, _, _, _, _, _, _] [_, _] []
    _ _ _ _ _ _ _ runsCommand_probe (List.mem_singleton_self _) rfl ?_ rfl rfl rfl, rfl, rfl,
    rfl,
    @Launch.Fails.fails _ _ _ [] _ _ _ _ rfl rfl (by decide)⟩
  simp [Act.Untold]

theorem recordsFailures_probe_watch :
    ∃ acts d u s record publish, History bareRun (start bareRun [watch, probe] {}) acts d ∧
      probe.Fails "probe" record (own none acts) ∧
      record.LeavesFailure "probe" none ∧
      d.units[0]? = some (u, s) ∧ u.Fails bareRun publish (own (some 0) acts) ∧
      publish.LeavesFailure "watch" (some "") := by
  obtain ⟨acts, d, u, s, record, publish, h, hprobe, hnone, hunit, hid, hwatch⟩ :=
    exists_fails_probe_watch
  obtain ⟨hfront, hback⟩ := h.recordsFailures
  have hrecord := hfront none probe "probe" record (by decide) hprobe
  rw [hnone] at hrecord
  exact ⟨acts, d, u, s, record, publish, h, hprobe, hrecord, hunit, hwatch,
    hid ▸ hback 0 u s publish hunit hwatch⟩

/-- A loop that runs the command twice. -/
def retried : Operation where
  controlFlow := some (.counted "2" "pass" false false)
  operations := [probe]

/-- The command is successful in the first pass and fails in the second one, and its first output
stays. -/
theorem exists_output_of_earlier_pass :
    ∃ acts d ran set succeeded record call,
      History bareRun (start bareRun [retried] {}) acts d ∧
      (acts.drop 11).take 3 = [(none, ran), (none, set), (none, succeeded)] ∧
      ran.events = [.command call ⟨.exited 0, "one", ""⟩] ∧
      set.after = set.before.setOutput "probe" "one" ∧
      succeeded.after = succeeded.before.setResult "probe" true ∧
      acts.drop 24 = [(none, record)] ∧ probe.Fails "probe" record (own none acts) ∧
      record.LeavesFailure "probe" (some "one") ∧
      record.after.lookup "probe" = some (.str "one") := by
  have h := (History.nil : History bareRun (start bareRun [retried] {}) [] _)
      -- up to the first pass
      |>.snoc (.main (.note _ _ _)) |>.snoc (.main (.update _ _ _)) |>.snoc (.main (.update _ _ _))
      |>.snoc (.main (.update _ _ _)) |>.snoc (.main (.update _ _ _))
      -- the command is successful
      |>.snoc (.main (.update _ _ _)) |>.snoc (.main (.update _ _ _))
      |>.snoc (.main (.note _ _ _)) |>.snoc (.main (.update _ _ _)) |>.snoc (.main (.update _ _ _))
      |>.snoc (.main (.report _ _ _)) |>.snoc (.main (.command _ _ _ ⟨.exited 0, "one", ""⟩))
      |>.snoc (.main (.update _ _ _)) |>.snoc (.main (.update _ _ _))
      |>.snoc (.main (.update _ _ _)) |>.snoc (.main (.report _ _ _)) |>.snoc (.main (.note _ _ _))
      -- the command fails
      |>.snoc (.main (.update _ _ _)) |>.snoc (.main (.update _ _ _))
      |>.snoc (.main (.note _ _ _)) |>.snoc (.main (.update _ _ _)) |>.snoc (.main (.update _ _ _))
      |>.snoc (.main (.report _ _ _)) |>.snoc (.main (.command _ _ _ ⟨.exited 1, "", ""⟩))
      |>.snoc (.main (.update _ _ _))
  refine ⟨_, _, _, _, _, _, _, h, rfl, rfl, rfl, rfl, rfl, @Operation.Fails.fails _ _ _
    [_, _, _, _, _, _, _, _, _, _, _, _, _, _, _, _, _, _, _] [_, _] [] _ _ _ _ _ _ _
    runsCommand_probe (List.mem_singleton_self _) rfl ?_ rfl rfl rfl, ⟨rfl, rfl, rfl⟩, rfl⟩
  simp [Act.Untold]

end Crew

end RecipeRunner

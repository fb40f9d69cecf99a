import RecipeRunner.Proofs.Run.Standing
/-!
# What a unit does

A unit runs its command and transforms what it has put out.  It then records the outcome; if the
table accepts it, the unit publishes and prints it, and only then starts the handler of the outcome,
all further operations inside it.  If the table does not accept it the unit does nothing more.

* `Launch.Settles`: how a launch is settled before a handler is followed.
* `Launch.course_cases`: what a unit has done at any moment, whatever happens to the store
  meanwhile.
-/

namespace RecipeRunner

namespace Act

/-- At most a command is run, and no task, no outcome and no variable changes. -/
structure Silent (act : Act) : Prop where
  events : ∀ event ∈ act.events, ∃ call execution, event = .command call execution
  tasks : act.after.tasks = act.before.tasks
  outputs : act.after.outputs = act.before.outputs
  results : act.after.results = act.before.results
  vars : act.after.vars = act.before.vars

variable {act : Act} {op : Operation} {room : Nat}

theorem Silent.not_starts (h : act.Silent) : ¬ act.Starts op room := by
  intro hstarts
  obtain ⟨call, execution, heq⟩ := h.events _ hstarts
  cases heq

theorem silent_of_eq (hevents : act.events = []) (h : act.after = act.before) : act.Silent where
  events := by
    rw [hevents]
    exact List.forall_mem_nil _
  tasks := by rw [h]
  outputs := by rw [h]
  results := by rw [h]
  vars := by rw [h]

end Act

namespace Launch

variable {r : Run} {u : Launch} {acts : List Act} {outcome : Except Error String}

/-- The call of a unit. -/
def call (r : Run) (u : Launch) : Call :=
  ⟨u.command, r.input, false⟩

/-- What comes of an execution of the command in a store: the output of a command that was
successful, transformed. -/
def result (r : Run) (u : Launch) (execution : Execution) (s : Store) : Except Error String :=
  match execution.output (u.call r) u.operation.format with
  | .error failure => .error failure
  | .ok raw =>
    if u.operation.transform.isEmpty then .ok raw
    else Template.render (s.bindings.overlay [("output", .str (Text.trimmed raw))])
      u.operation.transform

/-- What the table is told of an outcome. -/
def told : Except Error String → Except String String
  | .ok output => .ok (Text.trimmed output)
  | .error failure => .error failure.failureMessage

/-- The handler that an outcome calls for. -/
def handlerOf (u : Launch) : Except Error String → String
  | .ok _ => u.operation.onSuccess
  | .error _ => u.operation.onFailure

/-- The command is run, and what has come of it is transformed in the store of one of the acts. -/
def Hears (r : Run) (u : Launch) (outcome : Except Error String) (acts : List Act) : Prop :=
  ∃ execution, acts.flatMap (·.events) = [.command (u.call r) execution] ∧
    (∃ act ∈ acts, outcome = u.result r execution act.before) ∧
    ∀ act ∈ acts, ∃ c, act.after = act.before.drawing c

/-- The outcome is recorded in the table, which accepts it. -/
structure Records (u : Launch) (outcome : Except Error String) (act : Act) : Prop where
  events : act.events = []
  accepts : act.before.tasks.accepts u.id u.run = true
  after : act.after = act.before.recordOutcome u.id u.run (told outcome)

/-- The outcome is published under the id of the launch. -/
structure Publishes (u : Launch) (outcome : Except Error String) (act : Act) : Prop where
  events : act.events = []
  after : act.after = act.before.publishOutcome u.id (told outcome)

/-- Texts are printed, and nothing else is done. -/
def Prints (acts : List Act) : Prop :=
  ∀ act ∈ acts, act.after = act.before ∧ ∀ event ∈ act.events, ∃ text, event = .reported text

/-- How a launch is settled: the outcome is heard, recorded, published and printed. -/
inductive Settles (r : Run) (u : Launch) (outcome : Except Error String) : List Act → Prop
  | settles {heard printed : List Act} {record publish : Act} : u.Hears r outcome heard →
    u.Records outcome record → u.Publishes outcome publish → Prints printed →
    Settles r u outcome (heard ++ record :: publish :: printed)

theorem Hears.silent (h : u.Hears r outcome acts) {act : Act} (hact : act ∈ acts) :
    act.Silent := by
  obtain ⟨execution, hevents, -, hafter⟩ := h
  refine ⟨fun event hevent => ?_, ?_, ?_, ?_, ?_⟩
  · have hmem : event ∈ acts.flatMap (·.events) := List.mem_flatMap.2 ⟨act, hact, hevent⟩
    rw [hevents, List.mem_singleton] at hmem
    exact ⟨_, _, hmem⟩
  all_goals
    obtain ⟨c, hc⟩ := hafter act hact
    rw [hc]
    rfl

end Launch

/-! ## Parts of units -/

namespace Strand

variable {α : Type} {s t : Strand α} {acts : List Act}

/-- Whatever an orderly strand does, operations start only so far inside. -/
theorem Orderly.room_lt {bound : Nat} {final phase : Phase} (h : s.Orderly bound final phase)
    (hcourse : Course s acts t) {act : Act} (hact : act ∈ acts) {op : Operation} {room : Nat}
    (hstarts : act.Starts op room) : room < bound := by
  induction hcourse generalizing phase with
  | refl => cases hact
  | step hmove _ ih =>
    obtain ⟨phase', hstep, hnext⟩ := h.move hmove
    rcases List.mem_cons.1 hact with rfl | hact
    · cases hstep with
      | aside _ _ hevents => exact hevents _ hstarts
      | start => cases List.mem_singleton.1 hstarts
      | _ => exact absurd hstarts List.not_mem_nil
    · exact ih hnext hact

/-- A strand that is orderly up to the end of a unit starts operations only so far inside. -/
theorem Orderly.room_lt_of_unit {bound : Nat} {final phase : Phase} {s t : Strand Unit}
    (h : s.Orderly bound final phase) (hcourse : Course (s.continueWith Run.lastOfUnit) acts t)
    {act : Act} (hact : act ∈ acts) {op : Operation} {room : Nat} (hstarts : act.Starts op room) :
    room < bound := by
  rcases hcourse.of_continueWith with ⟨next, -, hfirst⟩ |
    ⟨front, result, back, rfl, hfirst, hlast⟩
  · exact h.room_lt hfirst hact hstarts
  · rcases List.mem_append.1 hact with hact | hact
    · exact h.room_lt hfirst hact hstarts
    · rcases hlast.of_update with rfl | ⟨store, rest, rfl, hdone⟩
      · cases hact
      · obtain ⟨rfl, -⟩ := hdone.eq_nil_of_done
        obtain rfl := List.mem_singleton.1 hact
        exact absurd hstarts List.not_mem_nil

end Strand

namespace Run

open Strand (Course Orderly)

variable {r : Run} {u : Launch} {acts : List Act} {outcome : Except Error String}
  {execution : Execution}

/-- What comes of an execution of the command. -/
def transforming (r : Run) (u : Launch) (execution : Execution) : Strand String :=
  Strand.ofExcept (execution.output (u.call r) u.operation.format) >>= transformed u.operation

/-- What is printed of an outcome that was published, and whether the command was successful. -/
def printing (r : Run) (u : Launch) : Except String String → Strand (Option Bool)
  | .ok output => do
    if !u.operation.isSilent && !output.isEmpty then r.emit output
    pure (some true)
  | .error _ => pure (some false)

/-- How a unit goes on behind what it has published: with a handler, if there is one. -/
def heeding (r : Run) (u : Launch) : Option Bool → Strand Unit
  | none => pure ()
  | some success =>
    let handler := if success then u.operation.onSuccess else u.operation.onFailure
    if handler.isEmpty then pure () else discard (r.follow (r.execute u.room) handler)

theorem unitBody_eq (r : Run) (u : Launch) : r.unitBody u = .command (u.call r) fun execution =>
    (r.transforming u execution).continueWith (r.publish u) >>= r.heeding u :=
  rfl

theorem publish_eq (r : Run) (u : Launch) (outcome : Except Error String) :
    r.publish u outcome = .update (·.recordOutcome u.id u.run (Launch.told outcome)) fun s =>
      if s.tasks.accepts u.id u.run then
        .update (·.publishOutcome u.id (Launch.told outcome)) fun _ =>
          r.printing u (Launch.told outcome)
      else .done (.ok none) :=
  rfl

theorem transforming_eq (r : Run) (u : Launch) (execution : Execution) :
    (∀ s, r.transforming u execution = .done (u.result r execution s)) ∨
      r.transforming u execution =
        .update Store.drawn fun s => .done (u.result r execution s) := by
  unfold transforming Launch.result
  cases execution.output (u.call r) u.operation.format with
  | error failure => exact .inl fun _ => rfl
  | ok raw =>
    change (∀ s, transformed u.operation raw = _) ∨ transformed u.operation raw = _
    unfold transformed
    split
    · exact .inl fun _ => rfl
    · exact .inr rfl

/-- While a unit has not recorded an outcome it has only heard from its command. -/
theorem course_transforming (store : Store) {t : Strand String}
    (h : Course (r.transforming u execution) acts t) :
    (∀ act ∈ acts, act.Silent) ∧ ∀ result, t = .done result →
      u.Hears r result (⟨[.command (u.call r) execution], store, store⟩ :: acts) := by
  rcases transforming_eq r u execution with heq | heq
  · rw [heq store] at h
    obtain ⟨rfl, rfl⟩ := h.eq_nil_of_done
    refine ⟨List.forall_mem_nil _, fun result hresult => ⟨execution, rfl, ?_, ?_⟩⟩
    · obtain rfl := Strand.done.inj hresult
      exact ⟨_, List.mem_singleton_self _, rfl⟩
    · exact List.forall_mem_singleton.2 ⟨store.chance, rfl⟩
  · rw [heq] at h
    rcases h.of_update with rfl | ⟨seen, rest, rfl, hrest⟩
    · refine ⟨List.forall_mem_nil _, fun result hresult => ?_⟩
      cases h
      cases hresult
    · obtain ⟨rfl, rfl⟩ := hrest.eq_nil_of_done
      have hsilent : Act.Silent ⟨[], seen, seen.drawn⟩ :=
        ⟨List.forall_mem_nil _, rfl, rfl, rfl, rfl⟩
      refine ⟨List.forall_mem_singleton.2 hsilent, fun result hresult => ?_⟩
      obtain rfl := Strand.done.inj hresult
      refine ⟨execution, rfl, ⟨⟨[], seen, seen.drawn⟩, by simp, rfl⟩, fun act hact => ?_⟩
      rcases List.mem_cons.1 hact with rfl | hact
      · exact ⟨store.chance, rfl⟩
      · obtain rfl := List.mem_singleton.1 hact
        exact ⟨seen.chance.part 1, rfl⟩

theorem course_printing {told : Except String String} {t : Strand (Option Bool)}
    (h : Course (r.printing u told) acts t) :
    Launch.Prints acts ∧ ∀ result, t = .done result → result = .ok (some told.isOk) := by
  have hquiet : ∀ {success : Bool}, Course (.done (.ok (some success))) acts t →
      Launch.Prints acts ∧ ∀ result, t = .done result → result = .ok (some success) := by
    intro success hdone
    obtain ⟨rfl, rfl⟩ := hdone.eq_nil_of_done
    exact ⟨List.forall_mem_nil _, fun result hresult => (Strand.done.inj hresult).symm⟩
  cases told with
  | error failure => exact hquiet h
  | ok output =>
    by_cases hprinted : (!u.operation.isSilent && !output.isEmpty) = true
    · have heq : r.printing u (.ok output) = .update id fun s =>
          .report (r.console.emit s.progress output) (.done (.ok (some true))) := by
        simp only [printing, if_pos hprinted]
        rfl
      rw [heq] at h
      rcases h.of_update with rfl | ⟨seen, rest, rfl, hrest⟩
      · cases h
        exact ⟨List.forall_mem_nil _, nofun⟩
      · cases hrest with
        | refl => exact ⟨List.forall_mem_singleton.2 ⟨rfl, List.forall_mem_nil _⟩, nofun⟩
        | step hmove hdone =>
          cases hmove
          obtain ⟨rfl, rfl⟩ := hdone.eq_nil_of_done
          refine ⟨fun act hact => ?_, fun result hresult => (Strand.done.inj hresult).symm⟩
          rcases List.mem_cons.1 hact with rfl | hact
          · exact ⟨rfl, List.forall_mem_nil _⟩
          · obtain rfl := List.mem_singleton.1 hact
            exact ⟨rfl, List.forall_mem_singleton.2 ⟨_, rfl⟩⟩
    · have heq : r.printing u (.ok output) = .done (.ok (some true)) := by
        simp only [printing, if_neg hprinted]
        rfl
      rw [heq] at h
      exact hquiet h

/-- No operation starts behind what a unit has published, or that of the handler does and all others
inside it. -/
theorem course_heeding {published : Option Bool} {t : Strand Unit}
    (h : Course ((r.heeding u published).continueWith lastOfUnit) acts t) :
    (∀ act ∈ acts, ∀ op room, ¬ act.Starts op room) ∨
      ∃ success start nested op room, published = some success ∧ acts = start :: nested ∧
        r.handlers.get? (if success then u.operation.onSuccess else u.operation.onFailure) =
          some op ∧
        start.Starts op room ∧ u.room = room + 1 ∧
        ∀ act ∈ nested, ∀ op' room', act.Starts op' room' → room' < room := by
  have hlast : ∀ {result : Except Error Unit}, Course (lastOfUnit result) acts t →
      ∀ act ∈ acts, ∀ op room, ¬ act.Starts op room := by
    intro result hcourse act hact op room hstarts
    have hdone : (Strand.done result).Orderly 0 .idle .idle := rfl
    exact Nat.not_lt_zero _ (hdone.room_lt_of_unit hcourse hact hstarts)
  rcases published with _ | success
  · exact .inl (hlast h)
  · simp only [heeding] at h
    generalize hhandler :
      (if success then u.operation.onSuccess else u.operation.onFailure) = handler at h ⊢
    split at h
    · exact .inl (hlast h)
    · rw [follow] at h
      split at h
      · next op hop =>
        cases hroom : u.room with
        | zero =>
          rw [hroom] at h
          exact .inl (hlast h)
        | succ room =>
          obtain ⟨rest, heq, hrest⟩ := exists_execute_succ (orderly_execute r room) op
          have hinside : (discard rest : Strand Unit).Orderly room .idle .idle :=
            (Strand.orderly_compositional room .idle rfl).bind hrest fun _ => rfl
          rw [hroom, heq] at h
          change Course (.note (.started op room) ((discard rest).continueWith lastOfUnit)) acts t
            at h
          cases h with
          | refl => exact .inl (List.forall_mem_nil _)
          | step hmove hnested =>
            cases hmove
            exact .inr ⟨success, _, _, op, room, rfl, rfl, by rw [hhandler, hop],
              List.mem_singleton_self _, rfl,
              fun act hact op' room' => hinside.room_lt_of_unit hnested hact⟩
      · exact .inl (hlast h)

/-- No operation starts behind the recorded outcome of a launch, or that of its handler does, once
the outcome is published and printed. -/
theorem course_publishing {t : Strand Unit}
    (h : Course ((Strand.update (·.publishOutcome u.id (Launch.told outcome)) (fun _ =>
      r.printing u (Launch.told outcome)) >>= r.heeding u).continueWith lastOfUnit) acts t) :
    (∀ act ∈ acts, ∀ op room, ¬ act.Starts op room) ∨
      ∃ publish printed start nested op room, acts = publish :: printed ++ start :: nested ∧
        u.Publishes outcome publish ∧ Launch.Prints printed ∧
        r.handlers.get? (u.handlerOf outcome) = some op ∧ start.Starts op room ∧
        u.room = room + 1 ∧ ∀ act ∈ nested, ∀ op' room', act.Starts op' room' → room' < room := by
  have hprints : ∀ {acts : List Act}, Launch.Prints acts →
      ∀ act ∈ acts, ∀ op room, ¬ act.Starts op room := by
    intro acts hacts act hact op room hstarts
    obtain ⟨text, heq⟩ := (hacts act hact).2 _ hstarts
    cases heq
  rcases h.of_update with rfl | ⟨store, tail, rfl, htail⟩
  · exact .inl (List.forall_mem_nil _)
  have hpublish : ∀ op room, ¬ Act.Starts
      ⟨[], store, store.publishOutcome u.id (Launch.told outcome)⟩ op room :=
    fun op room => Act.not_starts_of_nil rfl
  change Course ((r.printing u (Launch.told outcome) >>= r.heeding u).continueWith lastOfUnit) tail
    t at htail
  rw [Strand.bind_continueWith] at htail
  rcases htail.of_continueWith with ⟨next, -, hprinting⟩ |
    ⟨printed, result, behind, rfl, hprinting, hheeding⟩
  · exact .inl (List.forall_mem_cons.2 ⟨hpublish, hprints (course_printing hprinting).1⟩)
  · obtain ⟨hprinted, hresult⟩ := course_printing hprinting
    obtain rfl := hresult result rfl
    rcases course_heeding hheeding with hnone | ⟨success, start, nested, op, room, hsuccess, rfl,
      hhandler, hstarts, hroom, hnested⟩
    · refine .inl (List.forall_mem_cons.2 ⟨hpublish, fun act hact => ?_⟩)
      rcases List.mem_append.1 hact with hact | hact
      · exact hprints hprinted act hact
      · exact hnone act hact
    · have hop : r.handlers.get? (u.handlerOf outcome) = some op := by
        obtain rfl := Option.some.inj hsuccess
        rw [← hhandler]
        cases outcome <;> rfl
      exact .inr ⟨_, printed, start, nested, op, room, rfl, ⟨rfl, rfl⟩, hprinted, hop, hstarts,
        hroom, hnested⟩

end Run

namespace Launch

open Strand (Course)
open Run (lastOfUnit)

variable {r : Run} {u : Launch} {acts : List Act}

/-- A launch follows at most one handler: none, or behind all that settles it the one of its
outcome, with all other operations inside. -/
def FollowsOnce (r : Run) (u : Launch) (acts : List Act) : Prop :=
  (∀ act ∈ acts, ∀ op room, ¬ act.Starts op room) ∨
    ∃ outcome settling start nested op room, acts = settling ++ start :: nested ∧
      u.Settles r outcome settling ∧ r.handlers.get? (u.handlerOf outcome) = some op ∧
      start.Starts op room ∧ u.room = room + 1 ∧
      ∀ act ∈ nested, ∀ op' room', act.Starts op' room' → room' < room

/-- What a unit has done when it has heard of an outcome. -/
theorem course_publish {heard : List Act} {outcome : Except Error String}
    (hheard : u.Hears r outcome heard) {t : Strand Unit}
    (h : Course ((r.publish u outcome >>= r.heeding u).continueWith lastOfUnit) acts t) :
    (∀ act ∈ heard ++ acts, act.Silent) ∨ u.FollowsOnce r (heard ++ acts) ∧
      ∃ record rest, acts = record :: rest ∧ u.Records outcome record := by
  rw [Run.publish_eq] at h
  rcases h.of_update with rfl | ⟨store, rest, rfl, hrest⟩
  · rw [List.append_nil]
    exact .inl fun act => hheard.silent
  change Course (((if store.tasks.accepts u.id u.run then _ else _) >>= r.heeding u).continueWith
    lastOfUnit) rest t at hrest
  by_cases haccepts : store.tasks.accepts u.id u.run = true
  · rw [if_pos haccepts] at hrest
    have hrecord : u.Records outcome ⟨[], store, store.recordOutcome u.id u.run (told outcome)⟩ :=
      ⟨rfl, haccepts, rfl⟩
    refine .inr ⟨?_, _, rest, rfl, hrecord⟩
    rcases Run.course_publishing hrest with hnone | ⟨publish, printed, start, nested, op, room, rfl,
      hpublish, hprinted, hop, hstarts, hroom, hnested⟩
    · refine .inl fun act hact op room => ?_
      rcases List.mem_append.1 hact with hact | hact
      · exact (hheard.silent hact).not_starts
      · rcases List.mem_cons.1 hact with rfl | hact
        · exact Act.not_starts_of_nil rfl
        · exact hnone act hact op room
    · exact .inr ⟨outcome, _, start, nested, op, room, by simp,
        .settles hheard hrecord hpublish hprinted, hop, hstarts, hroom, hnested⟩
  · rw [if_neg haccepts] at hrest
    have hrefused : ∀ told, store.recordOutcome u.id u.run told = store := by
      intro told
      rw [Store.recordOutcome, TaskTable.finish, if_neg haccepts]
    refine .inl fun act hact => ?_
    rcases List.mem_append.1 hact with hact | hact
    · exact hheard.silent hact
    · rcases List.mem_cons.1 hact with rfl | hact
      · exact Act.silent_of_eq rfl (hrefused _)
      · rcases hrest.of_update with rfl | ⟨last, none, rfl, hdone⟩
        · cases hact
        · obtain ⟨rfl, -⟩ := hdone.eq_nil_of_done
          obtain rfl := List.mem_singleton.1 hact
          exact ⟨List.forall_mem_nil _, rfl, rfl, rfl, rfl⟩

/-- A launch has been silent, or the table has accepted its outcome. -/
theorem course_cases {t : Strand Unit} (h : Course (r.unitStrand u) acts t) :
    (∀ act ∈ acts, act.Silent) ∨ u.FollowsOnce r acts ∧
      ∃ heard record rest outcome, acts = heard ++ record :: rest ∧ u.Records outcome record := by
  rw [Run.unitStrand_eq, Run.unitBody_eq] at h
  cases h with
  | refl => exact .inl (List.forall_mem_nil _)
  | @step _ _ _ store _ _ acts hmove hrest =>
    cases hmove with
    | command call next _ execution =>
      change Course (((r.transforming u execution).continueWith (r.publish u) >>=
        r.heeding u).continueWith lastOfUnit) acts t at hrest
      rw [Strand.bind_continueWith, Strand.continueWith_assoc] at hrest
      rcases hrest.of_continueWith with ⟨next, -, htransforming⟩ |
        ⟨front, outcome, back, rfl, htransforming, hback⟩
      · obtain ⟨hsilent, -⟩ := Run.course_transforming store htransforming
        refine .inl (List.forall_mem_cons.2 ⟨?_, hsilent⟩)
        exact ⟨List.forall_mem_singleton.2 ⟨_, _, rfl⟩, rfl, rfl, rfl, rfl⟩
      · have hheard := (Run.course_transforming store htransforming).2 outcome rfl
        rw [← Strand.bind_continueWith] at hback
        rcases course_publish hheard hback with hsilent | ⟨hfollows, record, rest, rfl, hrecord⟩
        · exact .inl hsilent
        · exact .inr ⟨hfollows, _ :: front, record, rest, outcome, rfl, hrecord⟩

end Launch

end RecipeRunner

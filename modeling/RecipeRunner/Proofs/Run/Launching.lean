import RecipeRunner.Proofs.Run.Composition
import RecipeRunner.Proofs.Run.Moves
/-!
# Launches

What strands do to the task table and to the count of units.  A launch is recorded, its placeholder
is published, its unit is counted and then started, one step after the other; a unit first hears
from its command and settles its launch, before it follows a handler.  All other steps leave the
table and the count alone.

* `Phase.Step`: what a step can do, by how far its strand has come with a launch.
* `Strand.Orderly.move`: the steps of an orderly strand are of this kind.
* `Run.orderly_recipeStrand`, `Run.orderly_unitBody`: the strands of a run are orderly.
-/

namespace RecipeRunner

/-- Neither the tasks nor the count of units are changed, and keys are only taken. -/
structure Store.Aside (s t : Store) : Prop where
  tasks : t.tasks = s.tasks
  inFlight : t.inFlight = s.inFlight
  nextKey : s.nextKey ≤ t.nextKey

theorem Store.aside_of_eq {s t : Store} (htasks : t.tasks = s.tasks)
    (hinFlight : t.inFlight = s.inFlight) (hnextKey : t.nextKey = s.nextKey) : s.Aside t :=
  ⟨htasks, hinFlight, Nat.le_of_eq hnextKey.symm⟩

theorem Store.aside_copyOutcome (s : Store) (source id : String) :
    s.Aside (s.copyOutcome source id) := by
  unfold copyOutcome
  cases s.outputs.get? source with
  | none =>
    dsimp only
    split
    · exact aside_of_eq rfl rfl rfl
    · exact aside_of_eq rfl rfl rfl
  | some output =>
    dsimp only
    split
    · exact aside_of_eq rfl rfl rfl
    · exact aside_of_eq rfl rfl rfl

theorem Store.permits_aside (id : String) : Permits Aside id :=
  ⟨fun _ _ => aside_of_eq rfl rfl rfl, fun _ _ => aside_of_eq rfl rfl rfl⟩

/-- No unit is launched, and operations that start have less than `bound` levels inside. -/
def Event.Within (bound : Nat) : Event → Prop
  | launched _ => False
  | noted (.started _ room) => room < bound
  | _ => True

theorem Event.Within.mono {bound bound' : Nat} {event : Event} (h : event.Within bound)
    (hbound : bound ≤ bound') : event.Within bound' := by
  match event with
  | noted (.started _ _) => exact Nat.lt_of_lt_of_le h hbound
  | noted (.skipped _) | noted (.returned _ _) => trivial
  | command .. | asked .. | confirmed .. | reported _ => trivial

theorem Event.within_ending (bound : Nat) (op : Operation)
    (result : Except Error (Option Signal)) : (noted (.ending op result)).Within bound := by
  rcases result with e | _ | signal <;> trivial

/-- How far a strand has come with a launch. -/
inductive Phase where
  | idle
  /-- A unit waits for what comes of its command. -/
  | hearing (id : String) (run : Nat)
  /-- The launch is in the table. -/
  | recorded (id : String) (run : Nat)
  /-- The unit is counted but not yet started. -/
  | counted (id : String) (run : Nat)

namespace Phase

/-- The units that are counted though they are not yet started. -/
def weight : Phase → Nat
  | counted _ _ => 1
  | _ => 0

/-- The strand is in charge of a launch that has not been settled. -/
def Owes (id : String) (run : Nat) : Phase → Prop
  | idle => False
  | hearing id' run' | recorded id' run' | counted id' run' => id' = id ∧ run' = run

/-- All that a step can do to the tasks, to the count and to keys. -/
inductive Step (bound : Nat) : Phase → Store → List Event → Phase → Store → Prop
  | aside {phase : Phase} {s t : Store} {events : List Event} : phase.weight = 0 → s.Aside t →
    (∀ event ∈ events, event.Within bound) → Step bound phase s events phase t
  | record (id command : String) (s : Store) :
    Step bound idle s [] (recorded id s.nextKey) (s.recordLaunch id command)
  | count (id : String) (run : Nat) (s : Store) :
    Step bound (recorded id run) s [] (counted id run) s.beginUnit
  | start (unit : Launch) (s : Store) :
    Step bound (counted unit.id unit.run) s [.launched unit] idle s
  | settle (id : String) (run : Nat) (told : Except String String) (s : Store) :
    Step bound (hearing id run) s [] idle (s.recordOutcome id run told)

theorem Step.mono {bound bound' : Nat} {phase phase' : Phase} {s t : Store} {events : List Event}
    (h : phase.Step bound s events phase' t) (hbound : bound ≤ bound') :
    phase.Step bound' s events phase' t := by
  cases h with
  | aside hweight haside hevents =>
    exact .aside hweight haside fun event hevent => (hevents event hevent).mono hbound
  | record id command => exact .record id command s
  | count id run => exact .count id run s
  | start unit => exact .start unit s
  | settle id run told => exact .settle id run told s

end Phase

namespace Strand

variable {α β : Type} {bound : Nat} {first mid final phase : Phase}

/-- From a phase on, every step does what its phase allows, and the strand ends in the final
phase. -/
def Orderly (bound : Nat) (final : Phase) : Strand α → Phase → Prop
  | done _, phase => phase = final
  | endless, phase => phase.weight = 0
  | update change next, phase => ∀ s, ∃ phase', phase.Step bound s [] phase' (change s) ∧
      (next s).Orderly bound final phase'
  | command _ next, phase => phase.weight = 0 ∧
      ∀ execution, (next execution).Orderly bound final phase
  | ask _ next, phase => phase.weight = 0 ∧ ∀ answer, (next answer).Orderly bound final phase
  | confirm _ _ next, phase => phase.weight = 0 ∧ ∀ reply, (next reply).Orderly bound final phase
  | report _ next, phase => phase.weight = 0 ∧ next.Orderly bound final phase
  | launch unit next, phase => phase = .counted unit.id unit.run ∧ next.Orderly bound final .idle
  | note told next, phase => phase.weight = 0 ∧ (Event.noted told).Within bound ∧
      next.Orderly bound final phase
  | await next, phase => phase.weight = 0 ∧ next.Orderly bound final phase

theorem Orderly.move {s t : Strand α} {store last : Store} {new : List Event}
    (h : s.Orderly bound final phase) (hmove : Move s store new t last) :
    ∃ phase', phase.Step bound store new phase' last ∧ t.Orderly bound final phase' := by
  have haside : ∀ {store : Store} {event : Event}, phase.weight = 0 → event.Within bound →
      phase.Step bound store [event] phase store := fun hweight hevent =>
    .aside hweight (Store.aside_of_eq rfl rfl rfl) (List.forall_mem_singleton.2 hevent)
  cases hmove with
  | update change next => exact h store
  | command => exact ⟨phase, haside h.1 trivial, h.2 _⟩
  | ask => exact ⟨phase, haside h.1 trivial, h.2 _⟩
  | confirm => exact ⟨phase, haside h.1 trivial, h.2 _⟩
  | report => exact ⟨phase, haside h.1 trivial, h.2⟩
  | launch unit next =>
    obtain ⟨rfl, hnext⟩ := h
    exact ⟨.idle, .start unit _, hnext⟩
  | note => exact ⟨phase, haside h.1 h.2.1, h.2.2⟩
  | await =>
    exact ⟨phase, .aside h.1 (Store.aside_of_eq rfl rfl rfl) (List.forall_mem_nil _), h.2⟩

theorem Orderly.mono {bound' : Nat} {s : Strand α} (h : s.Orderly bound final phase)
    (hbound : bound ≤ bound') : s.Orderly bound' final phase := by
  induction s generalizing phase with
  | done | endless => exact h
  | update change next ih =>
    intro s
    obtain ⟨phase', hstep, hnext⟩ := h s
    exact ⟨phase', hstep.mono hbound, ih s hnext⟩
  | command call next ih => exact ⟨h.1, fun execution => ih execution (h.2 execution)⟩
  | ask spec next ih => exact ⟨h.1, fun answer => ih answer (h.2 answer)⟩
  | confirm label failure next ih => exact ⟨h.1, fun reply => ih reply (h.2 reply)⟩
  | report text next ih => exact ⟨h.1, ih h.2⟩
  | launch unit next ih => exact ⟨h.1, ih h.2⟩
  | note told next ih => exact ⟨h.1, h.2.1.mono hbound, ih h.2.2⟩
  | await next ih => exact ⟨h.1, ih h.2⟩

theorem Orderly.continueWith {s : Strand α} {k : Except Error α → Strand β}
    (h : s.Orderly bound mid phase) (hk : ∀ result, (k result).Orderly bound final mid) :
    (s.continueWith k).Orderly bound final phase := by
  induction s generalizing phase with
  | done result =>
    obtain rfl := h
    exact hk result
  | endless => exact h
  | update change next ih =>
    intro s
    obtain ⟨phase', hstep, hnext⟩ := h s
    exact ⟨phase', hstep, ih s hnext⟩
  | command call next ih => exact ⟨h.1, fun execution => ih execution (h.2 execution)⟩
  | ask spec next ih => exact ⟨h.1, fun answer => ih answer (h.2 answer)⟩
  | confirm label failure next ih => exact ⟨h.1, fun reply => ih reply (h.2 reply)⟩
  | report text next ih => exact ⟨h.1, ih h.2⟩
  | launch unit next ih => exact ⟨h.1, ih h.2⟩
  | note told next ih => exact ⟨h.1, h.2.1, ih h.2.2⟩
  | await next ih => exact ⟨h.1, ih h.2⟩

/-- Between launches, what does nothing to the tasks and the count is orderly. -/
theorem orderly_compositional (bound : Nat) (phase : Phase) (hphase : phase.weight = 0) :
    Compositional Store.Aside fun _ s => s.Orderly bound phase phase where
  aside h := ⟨h.tasks, h.inFlight, h.nextKey⟩
  done _ := rfl
  update hchange hnext s := ⟨phase, .aside hphase (hchange s) (List.forall_mem_nil _), hnext s⟩
  call hnext := ⟨hphase, hnext⟩
  prompt hnext := ⟨hphase, hnext⟩
  question hnext := ⟨hphase, hnext⟩
  report hnext := ⟨hphase, hnext⟩
  row hs hk := hs.continueWith hk

/-- A strand is about to start a unit only in the phase in which it has counted it. -/
def startsUnit : Strand α → Nat
  | launch _ _ => 1
  | _ => 0

theorem Orderly.startsUnit_eq {s : Strand α} (h : s.Orderly bound .idle phase) :
    s.startsUnit = phase.weight := by
  cases s with
  | done =>
    obtain rfl : phase = .idle := h
    rfl
  | endless => exact Eq.symm h
  | update change next =>
    -- any store will do: the phase that a unit is counted in allows no update
    obtain ⟨phase', hstep, -⟩ := h {}
    generalize change {} = t at hstep
    cases hstep with
    | aside hweight => exact hweight.symm
    | record => rfl
    | count => rfl
    | settle => rfl
  | launch unit next =>
    obtain rfl := h.1
    rfl
  | _ => exact h.1.symm

end Strand

namespace Run

open Strand (Orderly orderly_compositional)

variable {r : Run}

theorem orderly_startUnit (bound : Nat) (op : Operation) (id command : String) (room : Nat) :
    (startUnit op id command room).Orderly bound .idle .idle := by
  unfold startUnit
  split
  · rfl
  · refine fun s => ⟨.recorded id s.nextKey, .record id command s, fun s' => ?_⟩
    refine ⟨.recorded id s.nextKey, .aside rfl (Store.aside_of_eq rfl rfl rfl)
      (List.forall_mem_nil _), fun s'' => ?_⟩
    exact ⟨.counted id s.nextKey, .count id s.nextKey s'', rfl, rfl⟩

/-- An operation tells of its start and then starts operations only further inside. -/
theorem exists_execute_succ {room : Nat} (h : ∀ op, (r.execute room op).Orderly room .idle .idle)
    (op : Operation) : ∃ rest, r.execute (room + 1) op = .note (.started op room) rest ∧
      rest.Orderly room .idle .idle := by
  have hP := orderly_compositional room .idle rfl
  have hperform : ∀ id, (r.perform (r.execute room) (inOrder (r.execute room)) op id
      room).Orderly room .idle .idle := fun id =>
    hP.perform (fun _ => h _) (fun _ => rfl) (fun _ _ => h _) (Store.permits_aside id)
      (fun source _ s => s.aside_copyOutcome source id)
      fun command => orderly_startUnit _ op id command room
  rw [execute, Strand.noted_eq]
  refine ⟨_, rfl, Orderly.continueWith ?_ fun result =>
    ⟨rfl, Event.within_ending room op result, rfl⟩⟩
  refine hP.bind (hP.idOf op) fun id => hP.bind (hP.holds _) fun on => ?_
  split
  · exact hP.engaged (hperform id)
  · exact hP.done _

theorem orderly_execute (r : Run) (room : Nat) (op : Operation) :
    (r.execute room op).Orderly room .idle .idle := by
  induction room generalizing op with
  | zero => rfl
  | succ room ih =>
    obtain ⟨rest, heq, hrest⟩ := exists_execute_succ ih op
    rw [heq]
    exact ⟨rfl, Nat.lt_succ_self room, hrest.mono (Nat.le_succ room)⟩

theorem orderly_recipeStrand (r : Run) (ops : List Operation) :
    (r.recipeStrand ops).Orderly (r.maxDepth + 1) .idle .idle :=
  (orderly_compositional (r.maxDepth + 1) .idle rfl).recipeStrand fun _ _ =>
    orderly_execute r _ _

/-! ## Units -/

/-- What a unit does before it is no longer counted. -/
def unitBody (r : Run) (u : Launch) : Strand Unit :=
  let op := u.operation
  let call : Call := ⟨u.command, r.input, false⟩
  .command call fun execution => do
    let outcome := Strand.ofExcept (execution.output call op.format) >>= transformed op
    let published ← outcome.continueWith (r.publish u)
    match published with
    | none => pure ()
    | some success => do
      let handler := if success then op.onSuccess else op.onFailure
      if handler.isEmpty then pure ()
      else discard (r.follow (r.execute u.room) handler)

theorem unitStrand_eq (r : Run) (u : Launch) : r.unitStrand u =
    (r.unitBody u).continueWith fun result => .update Store.endUnit fun _ => .done result :=
  rfl

theorem orderly_publish (r : Run) (u : Launch) (outcome : Except Error String) (bound : Nat) :
    (r.publish u outcome).Orderly bound .idle (.hearing u.id u.run) := by
  have hP := orderly_compositional bound .idle rfl
  unfold publish
  refine fun s => ⟨.idle, .settle u.id u.run _ s, ?_⟩
  simp only [Strand.pure_def, Strand.continueWith]
  split
  · refine hP.bind (hP.modify fun s => ?_) fun _ => ?_
    · cases outcome with
      | ok output => exact Store.aside_of_eq rfl rfl rfl
      | error failure => exact Store.aside_of_eq rfl rfl rfl
    · split
      · split
        · exact hP.bind (hP.emit r _) fun _ => hP.done _
        · exact hP.done _
      · exact hP.done _
  · exact hP.done _

/-- A unit settles its launch and then follows a handler, in which no more levels are nested than
the launch has room for. -/
theorem orderly_unitBody (r : Run) (u : Launch) :
    (r.unitBody u).Orderly u.room .idle (.hearing u.id u.run) := by
  have hP := orderly_compositional u.room .idle rfl
  have hhearing := orderly_compositional u.room (.hearing u.id u.run) rfl
  have hhandler : ∀ handler : String, Orderly u.room .idle
      (if handler.isEmpty then pure () else discard (r.follow (r.execute u.room) handler))
      .idle := by
    intro handler
    split
    · exact hP.done _
    · exact hP.bind (hP.follow (fun _ => orderly_execute r u.room _) _) fun _ => hP.done _
  refine ⟨rfl, fun execution => Orderly.continueWith (Orderly.continueWith
    (hhearing.bind (hhearing.done _) fun raw => hhearing.transformed _ raw)
    fun outcome => orderly_publish r u outcome u.room) fun published => ?_⟩
  rcases published with e | _ | success
  · exact hP.done _
  · exact hP.done _
  · cases success with
    | true => exact hhandler _
    | false => exact hhandler _

end Run

end RecipeRunner

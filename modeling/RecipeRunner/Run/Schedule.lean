import RecipeRunner.Run.Operation
/-!
# Schedules

How the strands of a run are interleaved.  A state holds the main strand and the live background
units, and a step is one node of one strand.  Any strand may take the next step; the schedule
that is run takes the strand that is ready first, where commands last as long as their
surroundings say.
-/

namespace RecipeRunner

/-- What a strand gets for a request: a reply, what was written meanwhile and how many
nanoseconds it took. -/
structure Response (α : Type) where
  reply : α
  written : Streams := {}
  duration : Nat := 0

/-- What runs commands and answers prompts; `σ` is what it keeps between requests. -/
structure Surroundings (σ : Type) where
  command : Call → σ → Response Execution × σ
  ask : PromptSpec → σ → Response (Except Error Answer) × σ
  confirm : (label failure : String) → σ → Response (Except Error Bool) × σ

/-- What strands share: the store, what was written, and the state of the surroundings. -/
structure Scene (σ : Type) where
  store : Store
  written : Streams := {}
  outside : σ

namespace Scene

variable {σ α : Type}

/-- The scene behind a request. -/
def after (scene : Scene σ) (answer : Response α × σ) : Scene σ :=
  { scene with written := scene.written ++ answer.1.written, outside := answer.2 }

end Scene

/-- What has come of one step of a strand. -/
structure Step (σ α : Type) where
  strand : Strand α
  scene : Scene σ
  /-- The unit that the step started. -/
  started : Option Launch := none
  duration : Nat

namespace Strand

variable {σ α : Type}

/-- The nanoseconds that a step takes that asks nothing of the surroundings. -/
def stepDuration : Nat := 1000

/-- One step of a strand that can take one. -/
def step? (w : Surroundings σ) (scene : Scene σ) : Strand α → Option (Step σ α)
  | done _ | endless => none
  | update change next =>
    some ⟨next scene.store, { scene with store := change scene.store }, none, stepDuration⟩
  | command call next =>
    let answer := w.command call scene.outside
    some ⟨next answer.1.reply, scene.after answer, none, answer.1.duration⟩
  | ask spec next =>
    let answer := w.ask spec scene.outside
    some ⟨next answer.1.reply, scene.after answer, none, answer.1.duration⟩
  | confirm label failure next =>
    let answer := w.confirm label failure scene.outside
    some ⟨next answer.1.reply, scene.after answer, none, answer.1.duration⟩
  | report text next =>
    some ⟨next, { scene with written := scene.written ++ text }, none, stepDuration⟩
  | launch unit next => some ⟨next, scene, some unit, stepDuration⟩
  | note _ next => some ⟨next, scene, none, 0⟩
  | await next =>
    if scene.store.inFlight = 0 then some ⟨next, scene, none, stepDuration⟩ else none

end Strand

/-- A strand and the time at which it is ready. -/
structure Ready (α : Type) where
  strand : Strand α
  time : Nat

/-- The strands of a run and what they share. -/
structure Schedule (σ : Type) where
  scene : Scene σ
  main : Ready Bool
  /-- The live background units, in the order of their launches. -/
  units : List (Ready Unit) := []

namespace Schedule

variable {σ : Type}

/-- A unit that was started joins the others. -/
def join (r : Run) (units : List (Ready Unit)) (time : Nat) : Option Launch → List (Ready Unit)
  | none => units
  | some unit => units ++ [⟨r.unitStrand unit, time⟩]

/-- A unit leaves the others at its end. -/
def settle (unit : Ready Unit) : List (Ready Unit) :=
  match unit.strand with
  | .done _ => []
  | _ => [unit]

/-- The next step of the main strand. -/
def stepMain? (r : Run) (w : Surroundings σ) (s : Schedule σ) (time : Nat) :
    Option (Schedule σ) :=
  (s.main.strand.step? w s.scene).map fun step =>
    { scene := step.scene
      main := ⟨step.strand, time + step.duration⟩
      units := join r s.units time step.started }

/-- The next step of the unit that stands between others. -/
def stepUnit? (r : Run) (w : Surroundings σ) (s : Schedule σ) (before : List (Ready Unit))
    (unit : Ready Unit) (behind : List (Ready Unit)) : Option (Schedule σ) :=
  (unit.strand.step? w s.scene).map fun step =>
    { s with
      scene := step.scene
      units := join r (before ++ settle ⟨step.strand, unit.time + step.duration⟩ ++ behind)
        unit.time step.started }

/-- The unit that is ready first, with those before and behind it. -/
def first? : List (Ready Unit) → Option (List (Ready Unit) × Ready Unit × List (Ready Unit))
  | [] => none
  | unit :: rest =>
    match first? rest with
    | some (before, other, behind) =>
      if other.time < unit.time then some (unit :: before, other, behind)
      else some ([], unit, rest)
    | none => some ([], unit, [])

/-- The next step: of the strand that is ready first, of the main strand if it is ready as
early as any other. -/
def next? (r : Run) (w : Surroundings σ) (s : Schedule σ) : Option (Schedule σ) :=
  match first? s.units with
  | none => s.stepMain? r w s.main.time
  | some (before, unit, behind) =>
    let early := if s.main.time ≤ unit.time then s.stepMain? r w s.main.time else none
    early.or ((s.stepUnit? r w before unit behind).or
      (s.stepMain? r w (max s.main.time unit.time)))

/-- Takes steps until the main strand has come to its end; gives nothing if that takes more
than `fuel` steps or never happens. -/
def runWithin (r : Run) (w : Surroundings σ) : (fuel : Nat) → Schedule σ →
    Option (Except Error Bool × Scene σ)
  | 0, _ => none
  | fuel + 1, s =>
    match s.main.strand with
    | .done result => some (result, s.scene)
    | _ => (s.next? r w).bind (runWithin r w fuel)

/-- The schedule that a run starts with. -/
def start (r : Run) (ops : List Operation) (store : Store) (outside : σ) : Schedule σ where
  scene := { store := store, outside := outside }
  main := ⟨r.mainStrand ops, 0⟩

end Schedule

end RecipeRunner

import RecipeRunner.Shell.World
/-!
# Steps of processes

What a process does is a tree: it ends, it waits for something and goes on, or it starts a
further process.  Between two steps no other process does anything.  A run of processes goes from
step to step: of those that can go on, the one that has waited longest does, and where all wait
for a time, the clock goes to the first of them.
-/

namespace RecipeRunner.Shell

/-- What a process waits for. -/
inductive Need where
  | time (t : Nat)
  | event (holds : World → Bool)

/-- What a process does. -/
inductive Step where
  | ended (w : World)
  | paused (w : World) (need : Need) (next : World → Step)
  /-- Starts a process. -/
  | forked (w : World) (child : Nat) (start next : World → Step)

namespace Need

/-- Whether what is waited for has come. -/
def isMet (w : World) : Need → Bool
  | time t => t ≤ w.clock
  | event holds => holds w

/-- The time that is waited for. -/
def time? : Need → Option Nat
  | time t => some t
  | event _ => none

end Need

/-- A process that waits. -/
structure Waiting where
  process : Nat
  need : Need
  next : World → Step

namespace Waiting

/-- The nanoseconds that a process needs to start another one. -/
def forkTime : Nat := 100000

/-- The nanoseconds before a new process does something. -/
def startTime : Nat := 300000

/-- The processes that wait when a process has come to its next step. -/
def joined (queue : List Waiting) (pid : Nat) : Step → World × List Waiting
  | .ended w => (w, queue)
  | .paused w need next => (w, queue ++ [⟨pid, need, next⟩])
  | .forked w child start next =>
    (w, queue ++ [⟨pid, .time (w.clock + forkTime), next⟩,
      ⟨child, .time (w.clock + startTime), start⟩])

/-- The first of several processes that satisfies a predicate, and the others. -/
def takeFirst (p : Waiting → Bool) : List Waiting → Option (Waiting × List Waiting)
  | [] => none
  | first :: rest =>
    if p first then some (first, rest)
    else (takeFirst p rest).map fun (found, others) => (found, first :: others)

/-- The process that goes on next, and the others. -/
def pick (w : World) (queue : List Waiting) : Option (Waiting × List Waiting) :=
  let runs (x : Waiting) : Bool := (w.process? x.process).any fun p => !p.stopped
  match takeFirst (fun x => runs x && x.need.isMet w) queue with
  | some found => some found
  | none =>
    match ((queue.filter runs).filterMap (·.need.time?)).min? with
    | some t => takeFirst (fun x => runs x && x.need.time? = some t) queue
    | none => none

/-- Lets processes go on until a predicate holds or all of them wait in vain; `fuel` bounds the
number of steps. -/
def run (isOver : World → Bool) : (fuel : Nat) → World → List Waiting → World
  | 0, w, _ => w
  | fuel + 1, w, queue =>
    let queue := queue.filter fun x => w.isAlive x.process
    if isOver w then w
    else
      match pick w queue with
      | none => w
      | some (x, others) =>
        let w := match x.need with
          | .time t => { w with clock := max w.clock t }
          | .event _ => w
        let (w, queue) := joined others x.process (x.next w)
        run isOver fuel w queue

end Waiting

end RecipeRunner.Shell

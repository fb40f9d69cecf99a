import RecipeRunner.Decimal.Reading
import RecipeRunner.Shell.Session
import RecipeRunner.Shell.Step
import RecipeRunner.Text.Basic
/-!
# The work of a process

What a process does is written as work that uses the session of its shell and the world around
it.  Work is given what is done behind it, so a process can end or wait in the middle of
anything: its step then holds all that is left to do.
-/

namespace RecipeRunner.Shell

/-- What work starts from. -/
structure State where
  session : Session
  world : World

/-- What a process does up to its next step, if `next` is what it does behind the work. -/
def Work (α : Type) : Type :=
  State → (next : Except Halt α → State → Step) → Step

namespace Work

variable {α β : Type}

instance : Monad Work where
  pure a := fun st next => next (.ok a) st
  bind work more := fun st next =>
    work st fun result st =>
      match result with
      | .ok a => more a st next
      | .error halt => next (.error halt) st

instance : MonadStateOf Session Work where
  get := fun st next => next (.ok st.session) st
  set s := fun st next => next (.ok ()) { st with session := s }
  modifyGet f := fun st next =>
    let (a, s) := f st.session
    next (.ok a) { st with session := s }

instance : MonadExceptOf Halt Work where
  throw halt := fun st next => next (.error halt) st
  tryCatch work handle := fun st next =>
    work st fun result st =>
      match result with
      | .ok a => next (.ok a) st
      | .error halt => handle halt st next

instance [Inhabited α] : Inhabited (Work α) := ⟨pure default⟩

/-- Does work and gives what has come of it, even if it was stopped. -/
def settled (work : Work α) : Work (Except Halt α) := fun st next =>
  work st fun result st => next (.ok result) st

/-- Goes on with what has come of other work. -/
def ofResult : Except Halt α → Work α
  | .ok a => pure a
  | .error halt => throw halt

/-- Does work and puts something in order behind it, even if it was stopped. -/
def ensuring (work : Work α) (cleanup : Work Unit) : Work α := do
  let result ← settled work
  cleanup
  ofResult result

/-- The world. -/
def world : Work World := fun st next => next (.ok st.world) st

/-- Does something in the world, which may end the process. -/
def act (change : World → World) : Work Unit := fun st next =>
  let w := change st.world
  if w.isAlive st.session.process then next (.ok ()) { st with world := w } else .ended w

/-- Waits for something. -/
def await (need : Need) : Work Unit := fun st next =>
  .paused st.world need fun w => next (.ok ()) { st with world := w }

/-- Lets time pass. -/
def spend (nanoseconds : Nat) : Work Unit := do
  await (.time ((← world).clock + nanoseconds))

/-- The end of a process, which exits. -/
def conclude (result : Except Halt Unit) (st : State) : Step :=
  let code := match result with
    | .error (.exit code) => code
    | .error .error => 2
    | _ => st.session.status
  .ended (st.world.finish st.session.process (.exited (code % 256)))

/-- Starts a process for a part of the script; `prepare` is done to the new process before. -/
def fork (prepare : Nat → World → World) (work : Work Unit) : Work Nat := fun st next =>
  let (pid, w) := st.world.spawn st.session.process
  let w := prepare pid (w.modify pid fun p => { p with caught := [] })
  .forked w pid (fun w => work { session := st.session.inner pid, world := w } conclude)
    fun w => next (.ok pid) { st with world := w }

/-- Does work in place of all that the process was to do. -/
def become (session : Session) (work : Work Unit) : Work α := fun st _ =>
  work { st with session := session } conclude

/-- What a descriptor leads to. -/
def handle (descriptor : Nat) : Work Handle := do
  return (← world).handle (← get).process descriptor

/-- Connects a descriptor, over what it led to before. -/
def connect (descriptor : Nat) (h : Handle) : Work Unit := do
  let pid := (← get).process
  act (·.connect pid descriptor h)

/-- Connects a descriptor, in place of what it led to before. -/
def replace (descriptor : Nat) (h : Handle) : Work Unit := do
  let pid := (← get).process
  act (·.replace pid descriptor h)

/-- Opens a pipe. -/
def openPipe (text : String) : Work Nat := do
  let (pipe, w) := (← world).openPipe text false
  act fun _ => w
  return pipe

/-- Puts a text into a pipe, piece by piece as there is room; gives whether it could. -/
def fill (pipe : Nat) : (steps : Nat) → (text : String) → Work Bool
  | 0, _ => return true
  | steps + 1, text => do
    let w ← world
    if text.isEmpty then return true
    else if !w.isRead pipe then
      let pid := (← get).process
      act (·.send pid 13)
      return false
    else
      let room := w.room pipe text.length
      if room = text.length then
        act (·.fill pipe text)
        return true
      else
        act (·.fill pipe (text.take room).toString)
        let rest := (text.drop room).toString
        await (.event fun w => 0 < w.room pipe rest.length || !w.isRead pipe)
        fill pipe steps rest

/-- Writes through a handle; gives whether it could. -/
def writeTo (h : Handle) (text : String) : Work Bool := do
  match h with
  | .closed | .reading _ => return text.isEmpty
  | .nowhere => return true
  | .writing pipe => fill pipe (2 * text.length + 2) text
  | .file number =>
    match (← world).writeFile? number text with
    | some w => do
      act fun _ => w
      return true
    | none => return text.isEmpty

/-- Writes to a file descriptor; gives whether it could. -/
def write (descriptor : Nat) (text : String) : Work Bool := do
  if text.isEmpty then return true else writeTo (← handle descriptor) text

/-- Waits until something can be read from a file descriptor, and gives it without taking it. -/
def supply (descriptor : Nat) : Work (Except Obstacle String) := do
  let h ← handle descriptor
  match (← world).supply? h with
  | some supplied => return supplied
  | none => do
    await (.event fun w => (w.supply? h).isSome)
    return ((← world).supply? h).getD (.ok "")

/-- Takes as many bytes from a file descriptor. -/
def consume (descriptor size : Nat) : Work Unit := do
  let h ← handle descriptor
  act (·.consume h size)

/-- All that is read from a file descriptor up to its end. -/
def readAll (descriptor : Nat) : (fuel : Nat) → (before : String) → Work String
  | 0, before => return before
  | fuel + 1, before => do
    match ← supply descriptor with
    | .error _ => return before
    | .ok text =>
      if text.isEmpty then return before
      else
        consume descriptor text.length
        readAll descriptor fuel (before ++ text)

/-- A line that is read from a file descriptor, and whether its end was read. -/
def readLine (descriptor : Nat) : (fuel : Nat) → (before : String) → Work (String × Bool)
  | 0, before => return (before, false)
  | fuel + 1, before => do
    match ← supply descriptor with
    | .error _ => return (before, false)
    | .ok text =>
      if text.isEmpty then return (before, false)
      else
        match Text.splitOnce? "\n" text with
        | some (line, _) => do
          consume descriptor (line.length + 1)
          return (before ++ line, true)
        | none => do
          consume descriptor text.length
          readLine descriptor fuel (before ++ text)

/-- Complains in the present line. -/
def complain (text : String) : Work Unit := do
  let s ← get
  let builtin := s.builtin.elim "" (· ++ ": ")
  discard (write 2 (s.name ++ ": " ++ toString s.line ++ ": " ++ builtin ++ text ++ "\n"))

/-- Sets the status of the last command. -/
def setStatus (status : Nat) : Work Unit :=
  modify fun s => { s with status := status }

/-- Complains and stops what is done. -/
def abort (text : String) : Work α := do
  complain text
  setStatus 2
  throw .error

/-- Gives a variable a value. -/
def assign (name value : String) : Work Unit := do
  if (← get).readOnly.contains name then abort (name ++ ": is read only")
  if name = "OPTIND" then
    match Decimal.readDigits? value.toList with
    | some n => modify fun s => { s with optionIndex := max n 1, optionOffset := none }
    | none => abort ("Illegal number: " ++ value)
  modify fun s =>
    { s with
      vars := s.vars.set name value
      exported := if s.has 'a' && !s.exported.contains name then s.exported ++ [name]
        else s.exported }

/-- Takes note of the children that have ended. -/
def collect : Work (List (Nat × Ending)) := do
  let pid := (← get).process
  let endings := (← world).endedChildren pid
  if endings.isEmpty then return []
  else
    act (·.forget (endings.map Prod.fst))
    modify (·.noteEndings endings)
    return endings

/-- Waits until processes have ended, and says if one of them was killed; `endings` are those
that are known. -/
def awaitAll (pids : List Nat) : (steps : Nat) → (endings : List (Nat × Ending)) →
    Work (List (Nat × Ending))
  | 0, endings => return endings
  | steps + 1, endings => do
    let ended := (← collect).filter fun (pid, _) => pids.contains pid
    for (_, ending) in ended do
      match ending.notice? with
      | some notice => discard (write 2 (notice ++ "\n"))
      | none => pure ()
    let endings := endings ++ ended
    if pids.all fun pid => (endings.lookup pid).isSome then return endings
    else
      let pid := (← get).process
      await (.event fun w => !(w.endedChildren pid).isEmpty)
      awaitAll pids steps endings

/-- Waits for processes and gives the status of the last of them. -/
def awaitStatus (pids : List Nat) : Work Nat := do
  let w ← world
  let endings ← awaitAll pids (w.processes.length + 1) []
  return (pids.getLast?.bind fun pid => endings.lookup pid).elim 0 Ending.code

end Work

end RecipeRunner.Shell

import RecipeRunner.Files
import RecipeRunner.Shell.Ending
/-!
# The world of processes

What the processes of a script share: a clock, files, pipes, and what the descriptors of each
process lead to.  A descriptor that is connected anew while a command runs keeps what it led to
before underneath, so a pipe is still held by a process that will come back to it.  Texts are
made of bytes, each of them the character of its number.
-/

namespace RecipeRunner.Shell

/-- What a file descriptor leads to. -/
inductive Handle where
  | closed
  /-- The device from which nothing comes and in which everything is lost. -/
  | nowhere
  | reading (pipe : Nat)
  | writing (pipe : Nat)
  /-- A file that was opened, by its number. -/
  | file (number : Nat)
  deriving DecidableEq, Repr

/-- A pipe. -/
structure Pipe where
  content : String := ""
  /-- The number of bytes in the pipe. -/
  size : Nat := 0
  /-- Whether the world outside takes all that is written. -/
  collects : Bool := false

/-- A file that was opened.  Descriptors that were copied from each other share it. -/
structure OpenFile where
  place : RecipeRunner.Place
  offset : Nat := 0
  reads : Bool
  writes : Bool
  appends : Bool := false

/-- A process. -/
structure Process where
  parent : Nat
  /-- What descriptors lead to; the first entry of a descriptor counts. -/
  descriptors : List (Nat × Handle)
  ignored : List Nat := []
  /-- The signals that the process handles itself. -/
  caught : List Nat := []
  /-- The signals that the process has still to handle. -/
  pending : List Nat := []
  stopped : Bool := false
  /-- How and when the process ended. -/
  ending : Option (Ending × Nat) := none

/-- What processes share. -/
structure World where
  /-- The nanoseconds since the start. -/
  clock : Nat := 0
  files : Files := {}
  pipes : List (Nat × Pipe) := []
  openFiles : List (Nat × OpenFile) := []
  processes : List (Nat × Process) := []
  /-- The number of the next pipe or opened file. -/
  nextNumber : Nat := 0
  nextProcess : Nat

namespace Handle

/-- The first handle of a descriptor. -/
def of (descriptors : List (Nat × Handle)) (descriptor : Nat) : Handle :=
  (descriptors.lookup descriptor).getD closed

/-- Takes the first entry of a descriptor away. -/
def pop (descriptor : Nat) : List (Nat × Handle) → List (Nat × Handle)
  | [] => []
  | (d, h) :: rest => if d = descriptor then rest else (d, h) :: pop descriptor rest

/-- The entries of descriptors that count. -/
def visible (descriptors : List (Nat × Handle)) : List (Nat × Handle) :=
  descriptors.foldr (fun (d, h) rest => (d, h) :: rest.filter (·.1 != d)) []

end Handle

namespace World

/-- Changes the value of a number. -/
private def changed {α : Type} (number : Nat) (f : α → α) (entries : List (Nat × α)) :
    List (Nat × α) :=
  entries.map fun (n, a) => (n, if n = number then f a else a)

/-- The process of a number. -/
def process? (w : World) (pid : Nat) : Option Process :=
  w.processes.lookup pid

/-- Changes a process. -/
def modify (w : World) (pid : Nat) (f : Process → Process) : World :=
  { w with processes := changed pid f w.processes }

/-- Whether a process can go on. -/
def isAlive (w : World) (pid : Nat) : Bool :=
  (w.process? pid).any fun p => p.ending.isNone

/-- What a descriptor of a process leads to. -/
def handle (w : World) (pid descriptor : Nat) : Handle :=
  (w.process? pid).elim .closed fun p => Handle.of p.descriptors descriptor

/-- Whether some process holds a handle. -/
def isHeld (w : World) (h : Handle) : Bool :=
  w.processes.any fun (_, p) => p.descriptors.any fun (_, held) => held = h

/-- Starts a process that is like its parent. -/
def spawn (w : World) (parent : Nat) : Nat × World :=
  let like := (w.process? parent).getD { parent := parent, descriptors := [] }
  (w.nextProcess,
    { w with
      nextProcess := w.nextProcess + 1
      processes := w.processes ++
        [(w.nextProcess, { like with parent := parent, pending := [], ending := none })] })

/-- Takes the processes of some numbers away. -/
def forget (w : World) (pids : List Nat) : World :=
  { w with processes := w.processes.filter fun (pid, _) => !pids.contains pid }

/-- The children of a process that have ended. -/
def endedChildren (w : World) (pid : Nat) : List (Nat × Ending) :=
  w.processes.filterMap fun (child, p) =>
    if p.parent = pid then p.ending.map fun (ending, _) => (child, ending) else none

/-- The number of the signal that a process gets when a child of it has ended. -/
def childSignal : Nat := 17

/-- Hands a signal to a process that handles it itself. -/
def note (w : World) (pid signal : Nat) : World :=
  w.modify pid fun p =>
    if p.caught.contains signal && !p.pending.contains signal then
      { p with pending := signal :: p.pending }
    else p

/-- Ends a process. -/
def finish (w : World) (pid : Nat) (ending : Ending) : World :=
  match w.process? pid with
  | some p =>
    let w := w.modify pid fun p =>
      { p with descriptors := [], ending := some (ending, w.clock) }
    w.note p.parent childSignal
  | none => w

/-- Sends a signal to a process: it ends the process, unless the process handles or ignores it
or it is one that does something else. -/
def send (w : World) (pid signal : Nat) : World :=
  match w.process? pid with
  | none => w
  | some p =>
    if p.ending.isSome || signal = 0 then w
    else if signal = 9 then w.finish pid (.killed signal)
    else if signal = 19 then w.modify pid fun p => { p with stopped := true }
    else
      let w := if signal = 18 then w.modify pid fun p => { p with stopped := false } else w
      if p.ignored.contains signal then w
      else if p.caught.contains signal then w.note pid signal
      else if [17, 18, 23, 28].contains signal then w
      else if [20, 21, 22].contains signal then w.modify pid fun p => { p with stopped := true }
      else w.finish pid (.killed signal)

/-- Connects a descriptor of a process, over what it led to before. -/
def connect (w : World) (pid descriptor : Nat) (h : Handle) : World :=
  w.modify pid fun p => { p with descriptors := (descriptor, h) :: p.descriptors }

/-- Connects a descriptor of a process to what it led to before. -/
def disconnect (w : World) (pid descriptor : Nat) : World :=
  w.modify pid fun p => { p with descriptors := Handle.pop descriptor p.descriptors }

/-- Connects a descriptor of a process, in place of what it led to before. -/
def replace (w : World) (pid descriptor : Nat) (h : Handle) : World :=
  (w.disconnect pid descriptor).connect pid descriptor h

/-- Makes a process one that runs in the background: it does not notice that someone at a
terminal interrupts. -/
def detached (w : World) (pid : Nat) : World :=
  w.modify pid fun p => { p with ignored := [2, 3] ++ p.ignored }

/-- Opens a pipe that holds a text. -/
def openPipe (w : World) (text : String) (collects : Bool) : Nat × World :=
  (w.nextNumber,
    { w with
      nextNumber := w.nextNumber + 1
      pipes := (w.nextNumber, ⟨text, text.length, collects⟩) :: w.pipes })

/-- Opens a file. -/
def openFile (w : World) (file : OpenFile) : Handle × World :=
  (.file w.nextNumber,
    { w with
      nextNumber := w.nextNumber + 1
      openFiles := (w.nextNumber, file) :: w.openFiles })

/-- Takes a pipe away. -/
def closePipe (w : World) (pipe : Nat) : World :=
  { w with pipes := w.pipes.filter (·.1 != pipe) }

/-- What is in a pipe. -/
def content (w : World) (pipe : Nat) : String :=
  (w.pipes.lookup pipe).elim "" Pipe.content

/-- The number of bytes that a pipe holds at most. -/
def capacity : Nat := 65536

/-- The number of bytes that are written to a pipe at once or not at all. -/
def wholeSize : Nat := 4096

/-- How many of several bytes a pipe takes now. -/
def room (w : World) (pipe size : Nat) : Nat :=
  match w.pipes.lookup pipe with
  | none => size
  | some p =>
    let free := capacity - p.size
    if p.collects || size ≤ free then size
    else if size ≤ wholeSize then 0
    else free

/-- Whether what is written to a pipe can be read by someone. -/
def isRead (w : World) (pipe : Nat) : Bool :=
  (w.pipes.lookup pipe).any Pipe.collects || w.isHeld (.reading pipe)

/-- Puts a text into a pipe. -/
def fill (w : World) (pipe : Nat) (text : String) : World :=
  { w with pipes := changed pipe (fun p =>
      { p with content := p.content ++ text, size := p.size + text.length }) w.pipes }

/-- Moves the place at which an opened file is read and written. -/
def seek (w : World) (number : Nat) (move : Nat → Nat) : World :=
  let moved (f : OpenFile) : OpenFile := { f with offset := move f.offset }
  { w with openFiles := changed number moved w.openFiles }

/-- A text in which some bytes are replaced from an offset on. -/
def overwritten (text : String) (offset : Nat) (piece : String) : String :=
  let held := text.length
  if held = offset then text ++ piece
  else
    let cs := text.toList
    String.ofList (cs.take offset ++ List.replicate (offset - held) '\x00' ++ piece.toList ++
      cs.drop (offset + piece.length))

/-- Writes a text to a file that was opened, unless it was opened for reading only. -/
def writeFile? (w : World) (number : Nat) (text : String) : Option World := do
  let f ← w.openFiles.lookup number
  if !f.writes then none
  else
    let held := match w.files.entry? f.place with
      | some (.file held) => held
      | _ => ""
    let offset := if f.appends then held.length else f.offset
    let files := w.files.put f.place (.file (overwritten held offset text))
    some ({ w with files := files }.seek number fun _ => offset + text.length)

/-- What can be read through a handle now; no text stands for the end, and nothing at all for
something that is still to come. -/
def supply? (w : World) : Handle → Option (Except Obstacle String)
  | .closed | .writing _ => some (.error .badDescriptor)
  | .nowhere => some (.ok "")
  | .reading pipe =>
    let text := w.content pipe
    if text.isEmpty && w.isHeld (.writing pipe) then none else some (.ok text)
  | .file number =>
    match w.openFiles.lookup number with
    | none => some (.error .badDescriptor)
    | some f =>
      if !f.reads then some (.error .badDescriptor)
      else
        match w.files.entry? f.place with
        | some (.file text) => some (.ok (text.drop f.offset).toString)
        | some .directory => some (.error .isDirectory)
        | _ => some (.ok "")

/-- Takes as many bytes of what can be read through a handle. -/
def consume (w : World) (h : Handle) (size : Nat) : World :=
  match h with
  | .reading pipe =>
    { w with pipes := changed pipe (fun p =>
        { p with content := (p.content.drop size).toString, size := p.size - size }) w.pipes }
  | .file number => w.seek number (· + size)
  | _ => w

end World

end RecipeRunner.Shell

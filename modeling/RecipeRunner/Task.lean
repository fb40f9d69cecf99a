/-!
# Background tasks

The table of commands launched in the background.  An id names at most one task, its latest
launch; a run that was superseded can no longer finish.  A task that has finished never changes.
-/

namespace RecipeRunner

/-- How far a task has come. -/
inductive TaskStatus where
  | pending
  | complete
  | failed
  deriving DecidableEq, Repr

/-- The word for a status. -/
def TaskStatus.word : TaskStatus → String
  | pending => "pending"
  | complete => "complete"
  | failed => "failed"

/-- A command launched in the background. -/
structure Task where
  id : String
  command : String
  status : TaskStatus := .pending
  output : String := ""
  error : String := ""
  /-- Tells launches under the same id apart. -/
  run : Nat
  deriving DecidableEq, Repr

namespace Task

/-- Whether a task has come to its end. -/
def isFinished (t : Task) : Bool :=
  t.status ≠ .pending

/-- Ends a pending task with its output or its error. -/
def finish (t : Task) : Except String String → Task
  | .ok output => { t with status := .complete, output := output }
  | .error error => { t with status := .failed, error := error }

@[simp] theorem id_finish (t : Task) (outcome : Except String String) :
    (t.finish outcome).id = t.id := by
  cases outcome <;> rfl

@[simp] theorem run_finish (t : Task) (outcome : Except String String) :
    (t.finish outcome).run = t.run := by
  cases outcome <;> rfl

theorem isFinished_finish (t : Task) (outcome : Except String String) :
    (t.finish outcome).isFinished = true := by
  cases outcome <;> rfl

end Task

/-- The latest launch of each id, in the order of launching. -/
structure TaskTable where
  tasks : List Task := []
  deriving Repr

namespace TaskTable

/-- The task of an id. -/
def get? (t : TaskTable) (id : String) : Option Task :=
  t.tasks.find? (·.id = id)

/-- Records a launch in place of an earlier one under its id. -/
def insert (t : TaskTable) (task : Task) : TaskTable :=
  ⟨t.tasks.filter (·.id ≠ task.id) ++ [task]⟩

/-- Whether a run is the latest one of its id and still pending. -/
def accepts (t : TaskTable) (id : String) (run : Nat) : Bool :=
  (t.get? id).any fun task => task.run = run && !task.isFinished

/-- Ends a task, if the run is the latest one of its id and still pending. -/
def finish (t : TaskTable) (id : String) (run : Nat) (outcome : Except String String) :
    TaskTable :=
  if t.accepts id run then
    ⟨t.tasks.map fun task => if task.id = id then task.finish outcome else task⟩
  else t

/-- The number of tasks that are pending. -/
def pending (t : TaskTable) : Nat :=
  (t.tasks.filter fun task => !task.isFinished).length

/-- The number of tasks. -/
def size (t : TaskTable) : Nat :=
  t.tasks.length

@[simp] theorem get?_insert_self (t : TaskTable) (task : Task) :
    (t.insert task).get? task.id = some task := by
  have hnone : (t.tasks.filter (·.id ≠ task.id)).find? (·.id = task.id) = none := by
    simp [List.find?_eq_none]
  simp only [get?, insert, List.find?_append, hnone, Option.none_or]
  simp

theorem get?_insert_of_ne (t : TaskTable) (task : Task) {id : String} (h : id ≠ task.id) :
    (t.insert task).get? id = t.get? id := by
  have hlast : [task].find? (·.id = id) = none := by
    simp [Ne.symm h]
  simp only [get?, insert, List.find?_append, hlast, Option.or_none, List.find?_filter]
  congr 1
  funext other
  by_cases ho : other.id = id
  · simp [ho, h]
  · simp [ho]

end TaskTable

end RecipeRunner

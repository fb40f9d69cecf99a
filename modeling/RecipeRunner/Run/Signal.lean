import RecipeRunner.Recipe.Basic
/-!
# Signals

What an operation tells those that run it: to go on, to end the nearest loop, or to end the
recipe.  Of two signals the stronger one counts.
-/

namespace RecipeRunner

/-- What an operation tells those that run it. -/
inductive Signal where
  | next
  | stop
  | exit
  deriving DecidableEq, Repr, Inhabited

namespace Signal

/-- How strong a signal is. -/
def strength : Signal → Nat
  | next => 0
  | stop => 1
  | exit => 2

/-- The stronger one of two signals. -/
def combine (a b : Signal) : Signal :=
  if a.strength ≤ b.strength then b else a

/-- The signal that an operation raises by itself. -/
def ofOperation (op : Operation) : Signal :=
  if op.exitsRecipe then exit
  else if op.breaksLoop then stop
  else next

@[simp] theorem strength_combine (a b : Signal) :
    (a.combine b).strength = max a.strength b.strength := by
  cases a <;> cases b <;> rfl

@[simp] theorem combine_exit (a : Signal) : a.combine exit = exit := by
  cases a <;> rfl

@[simp] theorem exit_combine (a : Signal) : exit.combine a = exit := by
  cases a <;> rfl

@[simp] theorem combine_next (a : Signal) : a.combine next = a := by
  cases a <;> rfl

@[simp] theorem next_combine (a : Signal) : next.combine a = a := by
  cases a <;> rfl

end Signal

end RecipeRunner

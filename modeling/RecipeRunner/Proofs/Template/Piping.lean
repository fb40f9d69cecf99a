import RecipeRunner.Template.Evaluation
import RecipeRunner.Proofs.Except
import Mathlib.Data.List.Induction
/-!
# Pipes as nested calls

A pipe hands what the commands before it give to the command behind it.  A group as the last
argument of that command does the same, though it is evaluated behind the other arguments and not
before them, so the two may fail for different reasons.  They may also draw different random
numbers, unless none are drawn; then it does not matter which ones there are, and they can be taken
to be the same in all parts.

* `evalCommands_drawing`: commands that draw nothing do not depend on chance.
* `toOption_evalPipeline_concat`, `toOption_evalPipeline_group`: what a pipe hands over, and what a
  group does.
* `toOption_evalPipeline_append`: all pipes of a pipeline.
-/

namespace RecipeRunner.Template

/-! ## Functions that are called -/

namespace Arg

mutual

/-- The functions that an argument calls. -/
def functions : Arg → List String
  | .call name => [name]
  | .field _ | .dot | .literal _ => []
  | .group commands => commandsFunctions commands

/-- The functions that the commands of a pipeline call. -/
def commandsFunctions : List (List Arg) → List String
  | [] => []
  | command :: rest => argsFunctions command ++ commandsFunctions rest

/-- The functions that the parts of a command call. -/
def argsFunctions : List Arg → List String
  | [] => []
  | arg :: rest => arg.functions ++ argsFunctions rest

end

theorem argsFunctions_append (xs ys : List Arg) :
    argsFunctions (xs ++ ys) = argsFunctions xs ++ argsFunctions ys := by
  induction xs with
  | nil => rfl
  | cons x xs ih => rw [List.cons_append, argsFunctions, argsFunctions, ih, List.append_assoc]

theorem commandsFunctions_append (xs ys : List (List Arg)) :
    commandsFunctions (xs ++ ys) = commandsFunctions xs ++ commandsFunctions ys := by
  induction xs with
  | nil => rfl
  | cons x xs ih =>
    rw [List.cons_append, commandsFunctions, commandsFunctions, ih, List.append_assoc]

end Arg

/-- The functions that a pipeline calls. -/
def Pipeline.functions (p : Pipeline) : List String :=
  Arg.commandsFunctions p

/-- The function that draws random numbers. -/
def drawName : String := "randInt"

theorem callNumber_drawing {name : String} (h : name ≠ drawName) (b : Bindings) (c c' : Chance)
    (args : List Value) : Function.callNumber (b.drawing c) name args =
      Function.callNumber (b.drawing c') name args := by
  unfold Function.callNumber
  split <;> first | rfl | exact absurd rfl h

theorem call_drawing {name : String} (h : name ≠ drawName) (b : Bindings) (c c' : Chance)
    (args : List Value) : call (b.drawing c) name args = call (b.drawing c') name args := by
  unfold call
  rw [callNumber_drawing h b c c']
  rfl

theorem callNamed_drawing {name : String} (h : name ≠ drawName) (b : Bindings) (c c' : Chance)
    (args : List Value) :
    callNamed (b.drawing c) name args = callNamed (b.drawing c') name args := by
  rw [callNamed, callNamed, call_drawing h b c c']

variable (b : Bindings) (element : Operand)

mutual

theorem evalArg_drawing (c c' : Chance) : (arg : Arg) → drawName ∉ arg.functions →
    evalArg (b.drawing c) element arg = evalArg (b.drawing c') element arg
  | .field _, _ | .dot, _ | .literal _, _ => rfl
  | .call name, h => callNamed_drawing (fun heq => h (by simp [Arg.functions, heq])) b c c' []
  | .group commands, h => evalCommands_drawing c c' none commands h

theorem evalArgs_drawing (c c' : Chance) : (args : List Arg) → drawName ∉ Arg.argsFunctions args →
    evalArgs (b.drawing c) element args = evalArgs (b.drawing c') element args
  | [], _ => rfl
  | arg :: rest, h => by
    rw [Arg.argsFunctions, List.mem_append, not_or] at h
    rw [evalArgs, evalArgs, Bindings.part_drawing, Bindings.part_drawing, Bindings.part_drawing,
      Bindings.part_drawing, evalArg_drawing (c.part 0) (c'.part 0) arg h.1,
      evalArgs_drawing (c.part 1) (c'.part 1) rest h.2]

theorem evalCommand_drawing (c c' : Chance) (piped : Option Operand) :
    (args : List Arg) → drawName ∉ Arg.argsFunctions args →
      evalCommand (b.drawing c) element piped args = evalCommand (b.drawing c') element piped args
  | [], _ => rfl
  | head :: rest, h => by
    rw [Arg.argsFunctions, List.mem_append, not_or] at h
    have hhead := evalArg_drawing c c' head h.1
    have hrest := evalArgs_drawing c c' rest h.2
    cases head with
    | call name =>
      have hname : name ≠ drawName := fun heq => h.1 (by simp [Arg.functions, heq])
      rw [evalCommand, evalCommand, hrest]
      simp only [callNamed_drawing hname b c c']
    | _ =>
      rw [evalCommand, evalCommand, hhead]
      · simp
      · simp

theorem evalCommands_drawing (c c' : Chance) (piped : Option Operand) :
    (commands : List (List Arg)) → drawName ∉ Arg.commandsFunctions commands →
      evalCommands (b.drawing c) element piped commands =
        evalCommands (b.drawing c') element piped commands
  | [], _ => rfl
  | command :: rest, h => by
    rw [Arg.commandsFunctions, List.mem_append, not_or] at h
    have hrest := fun o => evalCommands_drawing (c.part 1) (c'.part 1) (some o) rest h.2
    rw [evalCommands, evalCommands, Bindings.part_drawing, Bindings.part_drawing,
      Bindings.part_drawing, Bindings.part_drawing,
      evalCommand_drawing (c.part 0) (c'.part 0) piped command h.1]
    simp only [hrest]

end

/-! ## One pipe -/

section

variable {b : Bindings} (hstill : ∀ i, b.part i = b)

include hstill

theorem evalArgs_append (xs ys : List Arg) :
    evalArgs b element (xs ++ ys) = (do
      let vs ← evalArgs b element xs
      let ws ← evalArgs b element ys
      return vs ++ ws) := by
  induction xs with
  | nil =>
    rw [List.nil_append, evalArgs]
    cases evalArgs b element ys <;> rfl
  | cons x xs ih =>
    rw [List.cons_append, evalArgs, evalArgs, hstill, hstill, ih]
    cases evalArg b element x with
    | error e => rfl
    | ok o =>
      cases evalArgs b element xs with
      | error e => rfl
      | ok vs => cases evalArgs b element ys <;> rfl

theorem evalArgs_group (commands : Pipeline) :
    evalArgs b element [.group commands] =
      (evalPipeline b element commands).map fun o => [o.toValue] := by
  rw [evalArgs, evalArg, evalPipeline, hstill, hstill]
  cases evalCommands b element none commands <;> rfl

omit hstill in
/-- A command that gets something and is no call has no operand. -/
theorem toOption_evalCommand_of_not_call {head : Arg} (hhead : ∀ name, head ≠ .call name)
    {piped : Option Operand} {args : List Arg} (h : args ≠ [] ∨ piped ≠ none) :
    (evalCommand b element piped (head :: args)).toOption = none := by
  have hgets : (args.isEmpty && piped.isNone) = false := by
    rcases h with h | h
    · simp [h]
    · cases piped with
      | none => exact absurd rfl h
      | some o => simp
  cases head with
  | call name => exact absurd rfl (hhead name)
  | _ =>
    rw [evalCommand, hgets, if_neg Bool.false_ne_true]
    · rfl
    · simp

/-- A command takes a group behind its arguments as it takes what a pipe hands it. -/
theorem toOption_evalCommand_concat_group {call : Command} (hcall : call ≠ [])
    (commands : Pipeline) :
    (evalCommand b element none (call ++ [.group commands])).toOption =
      (evalPipeline b element commands).toOption >>= fun o =>
        (evalCommand b element (some o) call).toOption := by
  obtain ⟨head, args, rfl⟩ := List.exists_cons_of_ne_nil hcall
  by_cases hhead : ∃ name, head = .call name
  · obtain ⟨name, rfl⟩ := hhead
    rw [List.cons_append, evalCommand, evalArgs_append element hstill,
      evalArgs_group element hstill]
    -- Both need the arguments and the group, though in different order.
    simp only [evalCommand]
    cases evalArgs b element args with
    | error e => cases evalPipeline b element commands <;> rfl
    | ok vs =>
      cases evalPipeline b element commands with
      | error e => rfl
      | ok o =>
        change (callNamed b name ((vs ++ [o.toValue]) ++ [])).toOption = _
        rw [List.append_nil]
        rfl
  · have hhead : ∀ name, head ≠ .call name := fun name h => hhead ⟨name, h⟩
    rw [List.cons_append, toOption_evalCommand_of_not_call element hhead (.inl (by simp))]
    have hnone : ∀ o : Operand,
        (evalCommand b element (some o) (head :: args)).toOption = none :=
      fun o => toOption_evalCommand_of_not_call element hhead (.inr (Option.some_ne_none o))
    cases evalPipeline b element commands with
    | error e => rfl
    | ok o => exact (hnone o).symm

theorem evalCommands_concat (piped : Option Operand) {front : Pipeline} (hfront : front ≠ [])
    (call : Command) :
    evalCommands b element piped (front ++ [call]) =
      evalCommands b element piped front >>= fun o => evalCommand b element (some o) call := by
  induction front generalizing piped with
  | nil => exact absurd rfl hfront
  | cons command front ih =>
    rw [List.cons_append, evalCommands, evalCommands, hstill, hstill]
    cases evalCommand b element piped command with
    | error e => rfl
    | ok o =>
      cases front with
      | nil =>
        simp only [List.nil_append, evalCommands, hstill]
        change _ = evalCommand b element (some o) call
        cases evalCommand b element (some o) call <;> rfl
      | cons next front => exact ih (some o) (List.cons_ne_nil next front)

/-- What the last command of a pipeline gets is what the commands before it give. -/
theorem toOption_evalPipeline_concat {front : Pipeline} (hfront : front ≠ []) (call : Command) :
    (evalPipeline b element (front ++ [call])).toOption =
      (evalPipeline b element front).toOption >>= fun o =>
        (evalCommand b element (some o) call).toOption := by
  rw [evalPipeline, evalCommands_concat element hstill none hfront, toOption_bind]
  rfl

/-- So is what a command gets from a group behind its arguments. -/
theorem toOption_evalPipeline_group (commands : Pipeline) {call : Command} (hcall : call ≠ []) :
    (evalPipeline b element [call ++ [.group commands]]).toOption =
      (evalPipeline b element commands).toOption >>= fun o =>
        (evalCommand b element (some o) call).toOption := by
  rw [← toOption_evalCommand_concat_group element hstill hcall, evalPipeline, evalCommands, hstill,
    hstill]
  cases evalCommand b element none (call ++ [.group commands]) <;> rfl

end

/-! ## All pipes -/

/-- Each call with what comes before it as a group behind its arguments, and so on inwards. -/
def nest (front : Pipeline) (calls : List Command) : Pipeline :=
  calls.foldl (fun inner call => [call ++ [.group inner]]) front

theorem nest_concat (front : Pipeline) (calls : List Command) (call : Command) :
    nest front (calls ++ [call]) = [call ++ [.group (nest front calls)]] := by
  simp [nest]

example : nest [[.field "name"]] [[.call "trim"], [.call "join", .literal (.str ",")]] =
    [[.call "join", .literal (.str ","), .group [[.call "trim", .group [[.field "name"]]]]]] := rfl

theorem functions_nest_subset (front : Pipeline) (calls : List Command) :
    (nest front calls).functions ⊆ Pipeline.functions (front ++ calls) := by
  induction calls using List.reverseRecOn with
  | nil =>
    rw [List.append_nil]
    exact List.Subset.refl _
  | append_singleton calls call ih =>
    have hnest : (nest front (calls ++ [call])).functions =
        Arg.argsFunctions call ++ (nest front calls).functions := by
      simp [nest_concat, Pipeline.functions, Arg.commandsFunctions, Arg.argsFunctions_append,
        Arg.argsFunctions, Arg.functions]
    have hcalls : Pipeline.functions (front ++ (calls ++ [call])) =
        Pipeline.functions (front ++ calls) ++ Arg.argsFunctions call := by
      simp [Pipeline.functions, Arg.commandsFunctions_append, Arg.commandsFunctions]
    rw [hnest, hcalls]
    exact List.append_subset.2
      ⟨List.subset_append_right _ _, List.subset_append_of_subset_left _ ih⟩

theorem toOption_evalPipeline_append_of_still {b : Bindings} (hstill : ∀ i, b.part i = b)
    (head : Command) (front : Pipeline) {calls : List Command} (h : ∀ call ∈ calls, call ≠ []) :
    (evalPipeline b element (head :: front ++ calls)).toOption =
      (evalPipeline b element (nest (head :: front) calls)).toOption := by
  induction calls using List.reverseRecOn with
  | nil =>
    rw [List.append_nil]
    rfl
  | append_singleton calls call ih =>
    have hcalls := ih fun call hcall => h call (List.mem_append_left _ hcall)
    have hcall : call ≠ [] := h call (by simp)
    rw [nest_concat, toOption_evalPipeline_group element hstill _ hcall, ← List.append_assoc,
      toOption_evalPipeline_concat element hstill (by simp), hcalls]

/-- A pipeline that draws nothing gives what its last commands give as nested calls.  A command that
is no call fails behind a pipe as it does with a group. -/
theorem toOption_evalPipeline_append (head : Command) (front : Pipeline) {calls : List Command}
    (h : ∀ call ∈ calls, call ≠ [])
    (hdraws : drawName ∉ Pipeline.functions (head :: front ++ calls)) :
    (evalPipeline b element (head :: front ++ calls)).toOption =
      (evalPipeline b element (nest (head :: front) calls)).toOption := by
  have hnest : drawName ∉ (nest (head :: front) calls).functions :=
    fun hmem => hdraws (functions_nest_subset _ _ hmem)
  -- nothing is drawn, so the least number may as well be drawn everywhere
  have hlowest : ∀ p : Pipeline, drawName ∉ p.functions →
      evalPipeline b element p = evalPipeline (b.drawing .lowest) element p :=
    fun p hp => evalCommands_drawing b element b.chance .lowest none p hp
  rw [hlowest _ hdraws, hlowest _ hnest]
  exact toOption_evalPipeline_append_of_still element (fun _ => rfl) head front h

/-- Calls behind a datum that may be absent. -/
def fallback : List Command :=
  [[.call "default", .literal (.str "ab")], [.call "hasPrefix", .literal (.str "a")]]

/-- What is missing goes into a call as false, whether a pipe or a group hands it over. -/
theorem toOption_evalPipeline_fallback :
    (∀ call ∈ fallback, call ≠ []) ∧
      drawName ∉ Pipeline.functions ([.field "name"] :: fallback) ∧
      (evalPipeline { lookup := fun _ => none } none ([.field "name"] :: fallback)).toOption =
        (evalPipeline { lookup := fun _ => none } none
          (nest [[.field "name"]] fallback)).toOption ∧
      (evalPipeline { lookup := fun _ => none } none
        (nest [[.field "name"]] fallback)).toOption = some (some (.bool true)) := by
  have hcalls : ∀ call ∈ fallback, call ≠ [] := by simp [fallback]
  have hdraws : drawName ∉ Pipeline.functions ([.field "name"] :: fallback) := by decide
  exact ⟨hcalls, hdraws, toOption_evalPipeline_append _ none [.field "name"] [] hcalls hdraws, rfl⟩

end RecipeRunner.Template

import RecipeRunner.Proofs.Condition.Evaluation
/-!
# Faults of templates and conditions

Templates and conditions run no commands and repeat nothing, so whatever is wrong with them, their
error is one of their own.  In particular it is never that a command has failed.

* `Blames`: what the error of a result may be.
* `Template.textual_render`, `Condition.textual_evaluate`: the errors of templates and conditions.
* `Innocent`: results that are not the error of a command.
* `Template.innocent_render`, `Condition.innocent_evaluate`: templates and conditions have such
  results.
-/

namespace RecipeRunner

/-- Whether a template or a condition is at fault. -/
def Error.isTextual : Error → Bool
  | templateSyntax _ | templateExecution _ | unsupportedCondition _ => true
  | _ => false

theorem Error.isCommandFailure_of_isTextual {e : Error} (h : e.isTextual = true) :
    e.isCommandFailure = false := by
  cases e with
  | commandFailed => cases h
  | _ => rfl

section

variable {α β : Type} {Q Q' : Error → Prop}

/-- If the result is an error, then one of which `Q` holds. -/
def Blames (Q : Error → Prop) (result : Except Error α) : Prop :=
  ∀ e, result = .error e → Q e

theorem blames_ok (a : α) : Blames Q (.ok a) :=
  nofun

theorem blames_error {e : Error} (h : Q e) : Blames Q (.error e : Except Error α) := by
  rintro e' heq
  rwa [← Except.error.inj heq]

theorem Blames.mono {result : Except Error α} (h : Blames Q result) (hQ : ∀ e, Q e → Q' e) :
    Blames Q' result :=
  fun e he => hQ e (h e he)

theorem Blames.error {e : Error} (h : Blames Q (.error e : Except Error α)) :
    Blames Q (.error e : Except Error β) :=
  blames_error (h e rfl)

theorem Blames.map {result : Except Error α} (h : Blames Q result) (f : α → β) :
    Blames Q (result.map f) := by
  cases result with
  | ok a => exact blames_ok (f a)
  | error e => exact h.error

theorem Blames.bind {result : Except Error α} {k : α → Except Error β} (h : Blames Q result)
    (hk : ∀ a, Blames Q (k a)) : Blames Q (result >>= k) := by
  cases result with
  | ok a => exact hk a
  | error e => exact h.error

/-- If the result is an error, then one of a template or a condition. -/
def Textual (result : Except Error α) : Prop :=
  Blames (·.isTextual = true) result

/-- The result is not the error of a command. -/
def Innocent {α : Type} (result : Except Error α) : Prop :=
  ∀ e, result = .error e → e.isCommandFailure = false

theorem Textual.innocent {result : Except Error α} (h : Textual result) : Innocent result :=
  Blames.mono h fun _ => Error.isCommandFailure_of_isTextual

theorem innocent_ok (a : α) : Innocent (.ok a) :=
  blames_ok a

theorem innocent_error {e : Error} (h : e.isCommandFailure = false) :
    Innocent (.error e : Except Error α) :=
  blames_error h

theorem Innocent.error {e : Error} (h : Innocent (.error e : Except Error α)) :
    Innocent (.error e : Except Error β) :=
  Blames.error h

theorem Innocent.map {result : Except Error α} (h : Innocent result) (f : α → β) :
    Innocent (result.map f) :=
  Blames.map h f

theorem Innocent.bind {result : Except Error α} {k : α → Except Error β} (h : Innocent result)
    (hk : ∀ a, Innocent (k a)) : Innocent (result >>= k) :=
  Blames.bind h hk

end

/-! ## Templates -/

namespace Template

variable (element : Operand)

theorem textual_callNamed (b : Bindings) (name : String) (args : List Value) :
    Textual (callNamed b name args) := by
  unfold callNamed
  split
  · exact blames_ok _
  · exact blames_error rfl

mutual

theorem textual_evalArg (b : Bindings) : (arg : Arg) → Textual (evalArg b element arg)
  | .field _ | .dot | .literal _ => by
    rw [evalArg]
    exact blames_ok _
  | .call name => by
    rw [evalArg]
    exact textual_callNamed b name []
  | .group commands => by
    rw [evalArg]
    exact textual_evalCommands b none commands

theorem textual_evalArgs (b : Bindings) :
    (args : List Arg) → Textual (evalArgs b element args)
  | [] => by
    rw [evalArgs]
    exact blames_ok _
  | arg :: rest => by
    have harg := textual_evalArg (b.part 0) arg
    have hrest := textual_evalArgs (b.part 1) rest
    rw [evalArgs]
    cases harg' : evalArg (b.part 0) element arg with
    | error e =>
      rw [harg'] at harg
      exact harg.error
    | ok o =>
      cases hrest' : evalArgs (b.part 1) element rest with
      | error e =>
        rw [hrest'] at hrest
        exact hrest.error
      | ok vs => exact blames_ok _

theorem textual_evalCommand (b : Bindings) (piped : Option Operand) :
    (args : List Arg) → Textual (evalCommand b element piped args)
  | [] => by
    rw [evalCommand]
    exact blames_error rfl
  | head :: rest => by
    have hhead := textual_evalArg b head
    have hrest := textual_evalArgs b rest
    cases head with
    | call name =>
      rw [evalCommand]
      cases hrest' : evalArgs b element rest with
      | error e =>
        rw [hrest'] at hrest
        exact hrest.error
      | ok vs => exact textual_callNamed b name _
    | _ =>
      rw [evalCommand]
      · split
        · exact hhead
        · exact blames_error rfl
      · simp

theorem textual_evalCommands (b : Bindings) (piped : Option Operand) :
    (commands : List (List Arg)) → Textual (evalCommands b element piped commands)
  | [] => by
    rw [evalCommands]
    exact blames_ok _
  | command :: rest => by
    have hcommand := textual_evalCommand (b.part 0) piped command
    rw [evalCommands]
    cases hcommand' : evalCommand (b.part 0) element piped command with
    | error e =>
      rw [hcommand'] at hcommand
      exact hcommand.error
    | ok o => exact textual_evalCommands (b.part 1) (some o) rest

end

theorem textual_writeEach {write : Bindings → Value → Except Error String}
    (h : ∀ b v, Textual (write b v)) (b : Bindings) (items : List String) :
    Textual (writeEach write b items) := by
  induction items generalizing b with
  | nil => exact blames_ok _
  | cons item rest ih => exact (h _ _).bind fun _ => (ih _).bind fun _ => blames_ok _

mutual

theorem textual_renderNode (b : Bindings) (element : Operand) :
    (node : Node) → Textual (renderNode b element node)
  | .text t => by
    rw [renderNode]
    exact blames_ok t
  | .action p => by
    rw [renderNode]
    refine (textual_evalCommands element b none p).bind fun o => ?_
    cases o with
    | some v => exact blames_ok _
    | none => exact blames_ok _
  | .choice branches otherwise => by
    rw [renderNode]
    refine (textual_renderBranches (b.part 0) element branches).bind fun text => ?_
    cases text with
    | some text => exact blames_ok text
    | none => exact textual_renderNodes (b.part 1) element otherwise
  | .range p body otherwise => by
    have hbody := fun (b : Bindings) x => textual_renderNodes b (some x) body
    rw [renderNode]
    have hitems : ∀ items : List String, Textual
        (if items.isEmpty then renderNodes (b.part 1) element otherwise
          else writeEach (fun b x => renderNodes b (some x) body) (b.part 1) items) := by
      intro items
      split
      · exact textual_renderNodes (b.part 1) element otherwise
      · exact textual_writeEach hbody (b.part 1) items
    refine (textual_evalCommands element (b.part 0) none p).bind fun o => ?_
    cases o with
    | some v => exact hitems v.toItems
    | none => exact hitems []

theorem textual_renderBranches (b : Bindings) (element : Operand) :
    (branches : List (Pipeline × List Node)) → Textual (renderBranches b element branches)
  | [] => by
    rw [renderBranches]
    exact blames_ok _
  | (condition, body) :: rest => by
    rw [renderBranches]
    refine (textual_evalCommands element (b.part 0) none condition).bind fun o => ?_
    split
    · exact (textual_renderNodes (b.part 1) element body).bind fun _ => blames_ok _
    · exact textual_renderBranches (b.part 1) element rest

theorem textual_renderNodes (b : Bindings) (element : Operand) :
    (nodes : List Node) → Textual (renderNodes b element nodes)
  | [] => by
    rw [renderNodes]
    exact blames_ok _
  | node :: rest => by
    rw [renderNodes]
    exact (textual_renderNode (b.part 0) element node).bind fun _ =>
      (textual_renderNodes (b.part 1) element rest).bind fun _ => blames_ok _

end

theorem textual_render (b : Bindings) (template : String) : Textual (render b template) := by
  refine Blames.map ?_ _
  unfold renderRaw
  split
  · split
    · exact blames_error rfl
    · exact textual_renderNodes b none _
  · exact blames_ok _

theorem innocent_render (b : Bindings) (template : String) : Innocent (render b template) :=
  (textual_render b template).innocent

end Template

/-! ## Conditions -/

namespace Condition

variable (s : Scope)

theorem textual_evalAtom (cs : List Char) : Textual (evalAtom s cs) := by
  have hnumber : ∀ operand, Textual (operandNumber s cs operand) := by
    intro operand
    unfold operandNumber
    dsimp only
    split
    · exact blames_ok _
    · exact blames_error rfl
  have hequality : Textual (evalEquality s cs) := by
    unfold evalEquality
    split
    · exact blames_ok _
    · split
      · exact blames_ok _
      · split
        · exact blames_ok _
        · split
          · exact blames_ok _
          · exact blames_error rfl
  unfold evalAtom
  dsimp only
  split
  · exact (hnumber _).bind fun _ => (hnumber _).bind fun _ => blames_ok _
  · split
    · exact blames_ok _
    · split
      · exact blames_ok _
      · exact hequality

theorem textual_allHold {α : Type} {eval : α → Except Error Bool} {xs : List α}
    (h : ∀ x ∈ xs, Textual (eval x)) : Textual (allHold eval xs) := by
  induction xs with
  | nil => exact blames_ok _
  | cons x xs ih =>
    obtain ⟨hx, hxs⟩ := List.forall_mem_cons.1 h
    unfold allHold
    split
    · next heq =>
      rw [heq] at hx
      exact hx.error
    · exact ih hxs
    · exact blames_ok _

theorem textual_someHolds {α : Type} {eval : α → Except Error Bool} {xs : List α}
    (h : ∀ x ∈ xs, Textual (eval x)) : Textual (someHolds eval xs) := by
  induction xs with
  | nil => exact blames_ok _
  | cons x xs ih =>
    obtain ⟨hx, hxs⟩ := List.forall_mem_cons.1 h
    unfold someHolds
    split
    · next heq =>
      rw [heq] at hx
      exact hx.error
    · exact blames_ok _
    · exact ih hxs

theorem textual_eval (cs : List Char) : Textual (eval s cs) := by
  induction hlength : cs.length using Nat.strong_induction_on generalizing cs with
  | h n ih =>
    have hcore := length_core_le cs
    have hparts : ∀ {sep : List Char} {parts : List (List Char)}, sep ≠ [] →
        split sep (core cs) = .parts parts → ∀ part ∈ parts, Textual (eval s part) := by
      intro sep parts hsep hsplit part hpart
      have hpart := length_lt_of_mem_split hsep hsplit hpart
      exact ih part.length (by omega) part rfl
    rw [eval_eq]
    split
    · exact blames_error rfl
    · next hand => exact textual_allHold (hparts (List.cons_ne_nil _ _) hand)
    · split
      · exact blames_error rfl
      · next hor => exact textual_someHolds (hparts (List.cons_ne_nil _ _) hor)
      · split
        · next rest hnot =>
          have hrest := length_afterNot? hnot
          exact (ih rest.length (by omega) rest rfl).map _
        · exact textual_evalAtom s _

theorem textual_evaluate (condition : String) : Textual (evaluate s condition) := by
  unfold evaluate
  dsimp only
  split
  · exact blames_ok _
  · split
    · have hrender := Template.textual_render s.bindings (Text.trimmed condition)
      split
      · next heq =>
        rw [heq] at hrender
        exact hrender.error
      · split
        · exact blames_ok _
        · exact textual_eval s _
    · exact textual_eval s _

theorem innocent_evaluate (condition : String) : Innocent (evaluate s condition) :=
  (textual_evaluate s condition).innocent

end Condition

end RecipeRunner

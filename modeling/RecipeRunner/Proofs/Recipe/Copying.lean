import RecipeRunner.Proofs.Recipe.Inlining
import Mathlib.Data.List.Chain
/-!
# Handlers and copy steps of expansions

Where the handlers of a reference are in what it expands to, and what the copy steps in it copy.

* `exists_of_expandOne_of_runsCommand`: the failure handler is with the command that can fail.
* `onSuccess_of_expandOne`, `id_of_expandOne`: the success handler and the id are with the last
  operation.
* `copiesInOrder_of_expandOne`: each copy step copies the operation directly before it.
-/

namespace RecipeRunner

namespace Operation

/-- The operation runs a command in the foreground. -/
structure RunsCommand (op : Operation) : Prop where
  controlFlow : op.controlFlow = none
  copyFrom : op.copyFrom = none
  command : Text.isAllBlank op.command = false
  mode : op.mode ≠ .background

/-- The operation is a copy step. -/
structure Copies (op : Operation) (source : String) : Prop where
  copyFrom : op.copyFrom = some source
  controlFlow : op.controlFlow = none
  prompts : op.prompts = []

theorem copies_copyStep (ref : Operation) (source : String) :
    ((copyStep ref source).takeSignals ref).Copies source :=
  ⟨rfl, rfl, rfl⟩

/-! ## Handlers -/

/-- The failure handler of a reference goes to the command at the end of the component. -/
theorem exists_endFor_of_runsCommand {last : Operation} (h : last.RunsCommand) (ref : Operation)
    (hhandler : ref.onFailure.isEmpty = false) :
    ∃ step copies, endFor ref last = step :: copies ∧ step.RunsCommand ∧
      step.command = last.command ∧ step.onFailure = ref.onFailure ∧
        ∀ copy ∈ copies, ∃ source, copy.Copies source := by
  have hfailure : (if ref.onFailure.isEmpty then last.onFailure else ref.onFailure) =
      ref.onFailure := by rw [hhandler, if_neg Bool.false_ne_true]
  rcases endFor_cases ref last with ⟨id, hend, -⟩ | ⟨-, -, -, hend⟩
  · rw [takeFailureHandler_eq, hfailure] at hend
    exact ⟨_, [], hend, ⟨h.controlFlow, h.copyFrom, h.command, h.mode⟩, rfl, rfl, nofun⟩
  · rw [takeFailureHandler_eq, hfailure] at hend
    refine ⟨_, _, hend, ⟨h.controlFlow, h.copyFrom, h.command, h.mode⟩, rfl, rfl, ?_⟩
    intro copy hcopy
    obtain rfl := List.mem_singleton.1 hcopy
    exact ⟨_, copies_copyStep ref last.id⟩

/-- What stands last takes the id and the signals of a reference. -/
theorem exists_endFor (ref last : Operation) :
    ∃ before, ∃ op : Operation, endFor ref last = before ++ [op.takeSignals ref] ∧
      (ref.id.isEmpty = false → op.id = ref.id) := by
  rcases endFor_cases ref last with ⟨id, hend, hid⟩ | ⟨-, -, -, hend⟩
  · exact ⟨[], _, hend, hid⟩
  · exact ⟨[_], _, hend, fun _ => rfl⟩

theorem onSuccess_takeSignals (op : Operation) {ref : Operation}
    (h : ref.onSuccess.isEmpty = false) : (op.takeSignals ref).onSuccess = ref.onSuccess := by
  rw [takeSignals, h, if_neg Bool.false_ne_true]

/-! ## Copy steps -/

/-- A copy step may only copy the operation before it. -/
def CopiesOnly (before op : Operation) : Prop :=
  ∀ source, op.copyFrom = some source →
    op.Copies source ∧ source = before.id ∧ source.isEmpty = false

/-- Every copy step copies the operation directly before it. -/
structure CopiesInOrder (ops : List Operation) : Prop where
  head : ∀ op ∈ ops.head?, op.copyFrom = none
  chain : ops.IsChain CopiesOnly

theorem copiesInOrder_nil : CopiesInOrder [] :=
  ⟨nofun, .nil⟩

theorem copiesInOrder_singleton {op : Operation} (h : op.copyFrom = none) : CopiesInOrder [op] :=
  ⟨by simp [h], .singleton _⟩

theorem CopiesInOrder.append {ops others : List Operation} (h : CopiesInOrder ops)
    (hothers : CopiesInOrder others) : CopiesInOrder (ops ++ others) := by
  refine ⟨?_, List.isChain_append.2 ⟨h.chain, hothers.chain, ?_⟩⟩
  · cases ops with
    | nil => exact hothers.head
    | cons op ops => exact h.head
  · intro before _ op hop source hsource
    rw [hothers.head op hop] at hsource
    cases hsource

/-- In a row of copy steps that ends in an id all operations have ids. -/
theorem isEmpty_id_of_isChain {before : Operation} {copies : List Operation}
    (h : (before :: copies).IsChain CopiesOnly) (hcopies : ∀ copy ∈ copies, copy.copyFrom ≠ none)
    (hlast : ∀ op ∈ (before :: copies).getLast?, op.id.isEmpty = false) :
    ∀ op ∈ before :: copies, op.id.isEmpty = false := by
  induction copies generalizing before with
  | nil =>
    intro op hop
    obtain rfl := List.mem_singleton.1 hop
    exact hlast op rfl
  | cons copy copies ih =>
    rw [List.isChain_cons_cons] at h
    intro op hop
    rcases List.mem_cons.1 hop with rfl | hop
    · obtain ⟨source, hsource⟩ := Option.ne_none_iff_exists'.1 (hcopies copy List.mem_cons_self)
      obtain ⟨-, rfl, hne⟩ := h.1 source hsource
      exact hne
    · rw [List.getLast?_cons_cons] at hlast
      exact ih h.2 (fun op hop => hcopies op (List.mem_cons_of_mem _ hop)) hlast op hop

/-- An operation may be changed at the end if it stays a copy step of the same id. -/
theorem CopiesInOrder.replace_last {front : List Operation} {last last' : Operation}
    (h : CopiesInOrder (front ++ [last])) (hcopy : last'.copyFrom = last.copyFrom)
    (hflow : last'.controlFlow = last.controlFlow) (hprompts : last'.prompts = last.prompts) :
    CopiesInOrder (front ++ [last']) := by
  obtain ⟨hfront, -, hbetween⟩ := List.isChain_append.1 h.chain
  refine ⟨?_, List.isChain_append.2 ⟨hfront, .singleton _, ?_⟩⟩
  · cases front with
    | nil =>
      have hhead : last.copyFrom = none := h.head last rfl
      simp [hcopy, hhead]
    | cons op front => exact h.head
  · intro before hbefore op hop source hsource
    obtain rfl := Option.some.inj hop
    obtain ⟨hcopies, hid⟩ := hbetween before hbefore last rfl source (hcopy ▸ hsource)
    exact ⟨⟨hsource, hflow.trans hcopies.controlFlow, hprompts.trans hcopies.prompts⟩, hid⟩

theorem CopiesInOrder.endFor {front : List Operation} {last : Operation} (ref : Operation)
    (h : CopiesInOrder (front ++ [last])) : CopiesInOrder (front ++ endFor ref last) := by
  rcases endFor_cases ref last with ⟨id, hend, -⟩ | ⟨-, hid, -, hend⟩
  · rw [hend, takeFailureHandler_eq]
    exact h.replace_last rfl rfl rfl
  · have hstep : CopiesInOrder (front ++ [last.takeFailureHandler ref]) := by
      rw [takeFailureHandler_eq]
      exact h.replace_last rfl rfl rfl
    rw [hend, ← List.singleton_append, ← List.append_assoc]
    refine ⟨?_, List.isChain_append.2 ⟨hstep.chain, .singleton _, ?_⟩⟩
    · intro op hop
      refine hstep.head op ?_
      cases front <;> exact hop
    · intro before hbefore op hop source hsource
      rw [List.getLast?_concat] at hbefore
      obtain rfl := Option.some.inj hbefore
      obtain rfl := Option.some.inj hop
      obtain rfl : last.id = source := Option.some.inj hsource
      exact ⟨copies_copyStep ref last.id, by rw [takeFailureHandler_eq], hid⟩

theorem CopiesInOrder.settle {ops : List Operation} (ref : Operation) (h : CopiesInOrder ops) :
    CopiesInOrder (ref.settle ops) := by
  rcases List.eq_nil_or_concat ops with rfl | ⟨front, last, rfl⟩
  · exact copiesInOrder_nil
  · rw [List.concat_eq_append] at h ⊢
    rw [settle_append]
    exact h.endFor ref

end Operation

namespace Expansion

open Operation (CopiesInOrder)

variable {registry : Registry} {ref : Operation} {ops : List Operation}

/-- Behind a component that ends in a command only copy steps are added, and the failure handler of
the reference is with the command. -/
theorem exists_of_expandOne_of_runsCommand {front : List Operation} {last : Operation}
    {component : Component} {inner : List Operation → Except Error (List Operation)}
    (huses : ref.uses.isEmpty = false) (hcomponent : registry.get? ref.uses = some component)
    (hinner : inner (component.operations.map (·.guardedBy ref)) = .ok (front ++ [last]))
    (hlast : last.RunsCommand) (hhandler : ref.onFailure.isEmpty = false) :
    ∃ step copies, expandOne registry inner ref = .ok (front ++ step :: copies) ∧
      step.RunsCommand ∧ step.command = last.command ∧ step.onFailure = ref.onFailure ∧
        ∀ copy ∈ copies, ∃ source, copy.Copies source := by
  obtain ⟨step, copies, hend, hstep⟩ := Operation.exists_endFor_of_runsCommand hlast ref hhandler
  refine ⟨step, copies, ?_, hstep⟩
  rw [expandOne, huses, if_neg Bool.false_ne_true, hcomponent]
  simp only [hinner, Except.map, Operation.settle_append, hend]

/-- The last one of the expanded operations has the id and the signals of the reference. -/
theorem exists_takeSignals_of_expandOne {inner : List Operation → Except Error (List Operation)}
    {front : List Operation} {final : Operation}
    (h : expandOne registry inner ref = .ok (front ++ [final])) (huses : ref.uses.isEmpty = false) :
    ∃ op : Operation, final = op.takeSignals ref ∧ (ref.id.isEmpty = false → op.id = ref.id) := by
  obtain ⟨component, expanded, -, -, hops⟩ := exists_of_expandOne h huses
  rcases List.eq_nil_or_concat expanded with rfl | ⟨before, last, rfl⟩
  · simp [Operation.settle] at hops
  · obtain ⟨steps, op, hend, hid⟩ := Operation.exists_endFor ref last
    rw [List.concat_eq_append, Operation.settle_append, hend, ← List.append_assoc] at hops
    obtain ⟨-, hfinal⟩ := List.append_inj' hops rfl
    exact ⟨op, List.singleton_inj.1 hfinal, hid⟩

/-- The success handler of a reference is with the last one of the expanded operations. -/
theorem onSuccess_of_expandOne {inner : List Operation → Except Error (List Operation)}
    {front : List Operation} {final : Operation}
    (h : expandOne registry inner ref = .ok (front ++ [final])) (huses : ref.uses.isEmpty = false)
    (hhandler : ref.onSuccess.isEmpty = false) : final.onSuccess = ref.onSuccess := by
  obtain ⟨op, rfl, -⟩ := exists_takeSignals_of_expandOne h huses
  exact Operation.onSuccess_takeSignals op hhandler

theorem id_of_expandOne {inner : List Operation → Except Error (List Operation)}
    {front : List Operation} {final : Operation}
    (h : expandOne registry inner ref = .ok (front ++ [final])) (huses : ref.uses.isEmpty = false)
    (hid : ref.id.isEmpty = false) : final.id = ref.id := by
  obtain ⟨op, rfl, hop⟩ := exists_takeSignals_of_expandOne h huses
  exact hop hid

theorem copiesInOrder_of_expandEach {expand : Operation → Except Error (List Operation)}
    {expanded : List Operation} (h : expandEach expand ops = .ok expanded)
    (hexpand : ∀ op ∈ ops, ∀ first, expand op = .ok first → CopiesInOrder first) :
    CopiesInOrder expanded := by
  induction ops generalizing expanded with
  | nil =>
    obtain rfl := Except.ok.inj h
    exact Operation.copiesInOrder_nil
  | cons op ops ih =>
    obtain ⟨first, others, hfirst, hothers, rfl⟩ := exists_of_expandEach_cons h
    exact (hexpand op List.mem_cons_self first hfirst).append
      (ih hothers fun op hop => hexpand op (List.mem_cons_of_mem _ hop))

/-- Each copy step in what a reference expands to copies the operation directly before it, if the
components have no copy steps by themselves. -/
theorem copiesInOrder_of_expandOne {n : Nat}
    (h : expandOne registry (expandWithin registry n) ref = .ok ops)
    (huses : ref.uses.isEmpty = false)
    (hcopy : ∀ op, Inlined registry ref.uses op → op.copyFrom = none) : CopiesInOrder ops := by
  induction n generalizing ref ops with
  | zero =>
    obtain ⟨_, _, _, hinner, _⟩ := exists_of_expandOne h huses
    cases hinner
  | succ n ih =>
    obtain ⟨component, expanded, hcomponent, hinner, rfl⟩ := exists_of_expandOne h huses
    rw [expandWithin] at hinner
    refine CopiesInOrder.settle ref (copiesInOrder_of_expandEach hinner ?_)
    intro guarded hguarded first hfirst
    obtain ⟨source, hsource, rfl⟩ := List.mem_map.1 hguarded
    have hinlined : Inlined registry ref.uses source := .root hcomponent hsource
    cases hsourceUses : source.uses.isEmpty with
    | true =>
      obtain ⟨children, rfl⟩ := exists_of_expandOne_of_isEmpty hfirst
        (by rw [Operation.uses_guardedBy]; exact hsourceUses)
      exact Operation.copiesInOrder_singleton (hcopy source hinlined)
    | false =>
      refine ih hfirst (by rw [Operation.uses_guardedBy]; exact hsourceUses) fun op hop => ?_
      rw [Operation.uses_guardedBy] at hop
      exact hcopy op (.nested hinlined hsourceUses hop)

end Expansion

end RecipeRunner

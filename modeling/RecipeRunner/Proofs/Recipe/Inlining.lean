import RecipeRunner.Recipe.Expansion
/-!
# Inlining of components

What expansion puts in place of a reference: the operations of its component, those of the
components that these refer to, and copy steps.  All of them stand behind the condition of the
reference.

* `Inlined`: the operations that are inlined for a component, references among them.
* `holds_of_expandOne`: what a guard passes on to the conditions that it guards holds of all
  conditions of the expanded operations.
* `settle_append`: where the handlers and flags of a reference go.
-/

namespace RecipeRunner

/-- The operations that are inlined for a component, from components at any depth of references. -/
inductive Inlined (registry : Registry) : (uses : String) → Operation → Prop
  | root {uses : String} {component : Component} {op : Operation} :
    registry.get? uses = some component → op ∈ component.operations → Inlined registry uses op
  | nested {uses : String} {ref op : Operation} : Inlined registry uses ref →
    ref.uses.isEmpty = false → Inlined registry ref.uses op → Inlined registry uses op

/-- What holds of the operations of all components holds of those that are inlined. -/
theorem Inlined.of_forall (P : Operation → Prop) {registry : Registry}
    (h : ∀ uses component, registry.get? uses = some component →
      ∀ op ∈ component.operations, P op)
    {uses : String} {op : Operation} (hop : Inlined registry uses op) : P op := by
  induction hop with
  | root hcomponent hmem => exact h _ _ hcomponent _ hmem
  | nested _ _ _ _ ih => exact ih

/-- A registry with one component, which consists of one operation. -/
def Registry.single (id : String) (op : Operation) : Registry :=
  .register {} { id := id, operations := [op] }

theorem Registry.get?_single (id : String) (op : Operation) (uses : String) :
    (single id op).get? uses =
      if uses = id then some { id := id, operations := [op] } else none := by
  rw [single, get?_register]
  rfl

theorem Inlined.eq_of_single {id uses : String} {root op : Operation}
    (h : Inlined (.single id root) uses op) : op = root := by
  refine h.of_forall (· = root) fun uses component hcomponent op hop => ?_
  rw [Registry.get?_single] at hcomponent
  split at hcomponent
  · obtain rfl := Option.some.inj hcomponent
    exact List.mem_singleton.1 hop
  · cases hcomponent

namespace Operation

theorem settle_append (ref : Operation) (front : List Operation) (last : Operation) :
    settle ref (front ++ [last]) = front ++ endFor ref last := by
  induction front with
  | nil => rfl
  | cons op front ih =>
    cases front with
    | nil => rfl
    | cons next front => exact congrArg (op :: ·) ih

@[simp] theorem uses_guardedBy (root ref : Operation) : (root.guardedBy ref).uses = root.uses := rfl

@[simp] theorem condition_guardedBy (root ref : Operation) :
    (root.guardedBy ref).condition = Condition.conjoin ref.condition root.condition := by
  rw [guardedBy]

/-- The failure handler is all that an operation takes from a reference that has one. -/
theorem takeFailureHandler_eq (op ref : Operation) : op.takeFailureHandler ref =
    { op with onFailure := if ref.onFailure.isEmpty then op.onFailure else ref.onFailure } := by
  cases op
  unfold takeFailureHandler
  split <;> rfl

/-- The last operation of a component stays alone in place of a reference, or a copy step is put
behind it where both have ids and these differ. -/
theorem endFor_cases (ref last : Operation) :
    (∃ id, endFor ref last = [{ last.takeFailureHandler ref with id := id }.takeSignals ref] ∧
      (ref.id.isEmpty = false → id = ref.id)) ∨
    (ref.id.isEmpty = false ∧ last.id.isEmpty = false ∧ last.id ≠ ref.id ∧
      endFor ref last = [last.takeFailureHandler ref, (copyStep ref last.id).takeSignals ref]) := by
  have hid : (last.takeFailureHandler ref).id = last.id := by rw [takeFailureHandler_eq]
  unfold endFor
  dsimp only
  rw [hid]
  cases href : ref.id.isEmpty with
  | true => exact .inl ⟨last.id, by rw [takeFailureHandler_eq, if_pos rfl], nofun⟩
  | false =>
    rw [if_neg Bool.false_ne_true]
    split
    · exact .inl ⟨ref.id, rfl, fun _ => rfl⟩
    · next hids =>
      simp only [Bool.or_eq_true, decide_eq_true_eq, not_or, Bool.not_eq_true] at hids
      exact .inr ⟨rfl, hids.1, hids.2, rfl⟩

/-- What the last operation becomes has its condition, and so has a copy step that of the
reference. -/
theorem condition_of_mem_endFor {ref last op : Operation} (h : op ∈ endFor ref last) :
    op.condition = last.condition ∨ op.condition = ref.condition := by
  rcases endFor_cases ref last with ⟨id, hend, -⟩ | ⟨-, -, -, hend⟩
  · rw [hend, takeFailureHandler_eq] at h
    obtain rfl := List.mem_singleton.1 h
    exact .inl rfl
  · rw [hend, takeFailureHandler_eq] at h
    rcases List.mem_cons.1 h with rfl | h
    · exact .inl rfl
    · obtain rfl := List.mem_singleton.1 h
      exact .inr rfl

theorem condition_of_mem_settle {ref op : Operation} {ops : List Operation}
    (h : op ∈ settle ref ops) :
    (∃ inner ∈ ops, op.condition = inner.condition) ∨ op.condition = ref.condition := by
  rcases List.eq_nil_or_concat ops with rfl | ⟨front, last, rfl⟩
  · cases h
  · rw [List.concat_eq_append, settle_append, List.mem_append] at h
    rcases h with h | h
    · exact .inl ⟨op, by simp [h], rfl⟩
    · exact (condition_of_mem_endFor h).imp_left fun h => ⟨last, by simp, h⟩

end Operation

namespace Expansion

theorem exists_of_expandEach_cons {expand : Operation → Except Error (List Operation)}
    {op : Operation} {ops expanded : List Operation}
    (h : expandEach expand (op :: ops) = .ok expanded) :
    ∃ first others, expand op = .ok first ∧ expandEach expand ops = .ok others ∧
      expanded = first ++ others := by
  rw [expandEach] at h
  cases hfirst : expand op with
  | error e =>
    rw [hfirst] at h
    cases h
  | ok first =>
    cases hothers : expandEach expand ops with
    | error e =>
      rw [hfirst, hothers] at h
      cases h
    | ok others =>
      rw [hfirst, hothers] at h
      exact ⟨first, others, rfl, rfl, (Except.ok.inj h).symm⟩

theorem exists_mem_of_mem_expandEach {expand : Operation → Except Error (List Operation)}
    {ops expanded : List Operation} (h : expandEach expand ops = .ok expanded) {op : Operation}
    (hop : op ∈ expanded) : ∃ source ∈ ops, ∃ first, expand source = .ok first ∧ op ∈ first := by
  induction ops generalizing expanded with
  | nil =>
    obtain rfl := Except.ok.inj h
    cases hop
  | cons source ops ih =>
    obtain ⟨first, others, hfirst, hothers, rfl⟩ := exists_of_expandEach_cons h
    rcases List.mem_append.1 hop with hop | hop
    · exact ⟨source, List.mem_cons_self, first, hfirst, hop⟩
    · obtain ⟨other, hmem, rest⟩ := ih hothers hop
      exact ⟨other, List.mem_cons_of_mem _ hmem, rest⟩

/-- A reference expands to the operations of its component, expanded and settled. -/
theorem exists_of_expandOne {registry : Registry}
    {inner : List Operation → Except Error (List Operation)} {ref : Operation}
    {ops : List Operation} (h : expandOne registry inner ref = .ok ops)
    (huses : ref.uses.isEmpty = false) :
    ∃ component expanded, registry.get? ref.uses = some component ∧
      inner (component.operations.map (·.guardedBy ref)) = .ok expanded ∧
        ops = ref.settle expanded := by
  rw [expandOne, huses, if_neg Bool.false_ne_true] at h
  split at h
  · cases h
  · next component hcomponent =>
    cases hinner : inner (component.operations.map (·.guardedBy ref)) with
    | error e =>
      rw [hinner] at h
      cases h
    | ok expanded =>
      rw [hinner] at h
      exact ⟨component, expanded, hcomponent, hinner, (Except.ok.inj h).symm⟩

/-- An operation that is no reference stays alone, and the operations inside it are expanded. -/
theorem cases_of_expandOne_of_isEmpty {registry : Registry}
    {inner : List Operation → Except Error (List Operation)} {source : Operation}
    {ops : List Operation} (h : expandOne registry inner source = .ok ops)
    (huses : source.uses.isEmpty = true) :
    (source.operations.isEmpty = true ∧ ops = [source]) ∨
      ∃ children, inner source.operations = .ok children ∧
        ops = [{ source with operations := children }] := by
  rw [expandOne, if_pos huses] at h
  split at h
  · next hempty => exact .inl ⟨hempty, (Except.ok.inj h).symm⟩
  · cases hinner : inner source.operations with
    | error e =>
      rw [hinner] at h
      cases h
    | ok children =>
      rw [hinner] at h
      exact .inr ⟨children, rfl, (Except.ok.inj h).symm⟩

theorem exists_of_expandOne_of_isEmpty {registry : Registry}
    {inner : List Operation → Except Error (List Operation)} {source : Operation}
    {ops : List Operation} (h : expandOne registry inner source = .ok ops)
    (huses : source.uses.isEmpty = true) :
    ∃ children, ops = [{ source with operations := children }] := by
  rcases cases_of_expandOne_of_isEmpty h huses with ⟨-, rfl⟩ | ⟨children, -, hops⟩
  · cases source
    exact ⟨_, rfl⟩
  · exact ⟨children, hops⟩

/-- A reference to one operation expands to what becomes of it at the end of its component. -/
theorem expandOne_of_single {registry : Registry} {component : Component} {ref op : Operation}
    (n : Nat) (huses : ref.uses.isEmpty = false)
    (hcomponent : registry.get? ref.uses = some component) (hops : component.operations = [op])
    (hop : op.uses.isEmpty = true) (hinside : op.operations.isEmpty = true) :
    expandOne registry (expandWithin registry (n + 1)) ref =
      .ok (Operation.endFor ref (op.guardedBy ref)) := by
  have hguarded : expandOne registry (expandWithin registry n) (op.guardedBy ref) =
      .ok [op.guardedBy ref] := by
    rw [expandOne, Operation.uses_guardedBy, if_pos hop]
    exact if_pos hinside
  rw [expandOne, huses, if_neg Bool.false_ne_true, hcomponent]
  simp only [hops, List.map_cons, List.map_nil, expandWithin, expandEach, hguarded]
  rfl

/-- What guards pass on to the conditions that they guard holds of the conditions of all expanded
operations. -/
theorem holds_of_expandOne (Guard Holds : String → Prop) {registry : Registry} {n : Nat}
    {ref : Operation} {ops : List Operation}
    (h : expandOne registry (expandWithin registry n) ref = .ok ops)
    (huses : ref.uses.isEmpty = false) (href : Guard ref.condition)
    (hguard : ∀ guard, Guard guard → Holds guard)
    (hnested : ∀ guard op, Guard guard → Inlined registry ref.uses op → op.uses.isEmpty = false →
      Guard (Condition.conjoin guard op.condition))
    (hplain : ∀ guard op, Guard guard → Inlined registry ref.uses op → op.uses.isEmpty = true →
      Holds (Condition.conjoin guard op.condition)) :
    ∀ op ∈ ops, Holds op.condition := by
  induction n generalizing ref ops with
  | zero =>
    obtain ⟨_, _, _, hinner, _⟩ := exists_of_expandOne h huses
    cases hinner
  | succ n ih =>
    obtain ⟨component, expanded, hcomponent, hinner, rfl⟩ := exists_of_expandOne h huses
    rw [expandWithin] at hinner
    have hexpanded : ∀ op ∈ expanded, Holds op.condition := by
      intro op hop
      obtain ⟨guarded, hmem, first, hfirst, hop⟩ := exists_mem_of_mem_expandEach hinner hop
      obtain ⟨source, hsource, rfl⟩ := List.mem_map.1 hmem
      have hinlined : Inlined registry ref.uses source := .root hcomponent hsource
      cases hsourceUses : source.uses.isEmpty with
      | true =>
        obtain ⟨children, rfl⟩ := exists_of_expandOne_of_isEmpty hfirst
          (by rw [Operation.uses_guardedBy]; exact hsourceUses)
        obtain rfl := List.mem_singleton.1 hop
        dsimp only
        rw [Operation.condition_guardedBy]
        exact hplain _ source href hinlined hsourceUses
      | false =>
        have hguarded : Guard (source.guardedBy ref).condition := by
          rw [Operation.condition_guardedBy]
          exact hnested _ source href hinlined hsourceUses
        have hbelow : ∀ op, Inlined registry (source.guardedBy ref).uses op →
            Inlined registry ref.uses op := by
          intro op hop
          rw [Operation.uses_guardedBy] at hop
          exact .nested hinlined hsourceUses hop
        exact ih hfirst (by rw [Operation.uses_guardedBy]; exact hsourceUses) hguarded
          (fun guard op hg hop => hnested guard op hg (hbelow op hop))
          (fun guard op hg hop => hplain guard op hg (hbelow op hop)) op hop
    intro op hop
    rcases Operation.condition_of_mem_settle hop with ⟨inner, hmem, hcondition⟩ | hcondition
    · rw [hcondition]
      exact hexpanded inner hmem
    · rw [hcondition]
      exact hguard _ href

end Expansion

end RecipeRunner

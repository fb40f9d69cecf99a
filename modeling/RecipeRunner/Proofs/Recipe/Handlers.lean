import RecipeRunner.Proofs.Recipe.Idempotence
/-!
# Operations by their ids

The ids in the trees of operations are what handlers can refer to, and of operations with equal ids
the last one counts.

* `Operation.preorder_subset`: what is inside an operation of a tree is in the tree.
* `Operation.get?_handlers`: an id refers to the last operation that has it.
* `Operation.exists_handler_iff`: every id in the trees refers to an operation.
* `Expansion.expand_expanded`: a second expansion gives the same operations and the same handlers.
-/

namespace RecipeRunner

namespace Operation

variable {ops : List Operation} {id : String} {op : Operation}

/-! ## Trees -/

mutual

theorem preorder_subset {inner : Operation} :
    (op : Operation) → inner ∈ op.preorder → inner.preorder ⊆ op.preorder
  | op@{ operations, .. } => by
    intro hinner
    rw [preorder_eq, List.mem_cons] at hinner
    rcases hinner with rfl | hinside
    · exact List.Subset.refl _
    · have hsubset := preorder_subset_preorderIn operations hinside
      refine List.Subset.trans hsubset fun other hother => ?_
      rw [preorder_eq]
      exact List.mem_cons_of_mem _ hother

theorem preorder_subset_preorderIn {inner : Operation} :
    (ops : List Operation) → inner ∈ preorderIn ops → inner.preorder ⊆ preorderIn ops
  | [] => nofun
  | op :: rest => by
    intro hinner
    rcases List.mem_append.1 hinner with hop | hrest
    · exact List.subset_append_of_subset_left _ (preorder_subset op hop)
    · exact List.subset_append_of_subset_right _ (preorder_subset_preorderIn rest hrest)

end

theorem mem_preorderIn_of_mem (hop : op ∈ ops) : op ∈ preorderIn ops :=
  mem_preorderIn.2 ⟨op, hop, .inl rfl⟩

theorem mem_preorderIn_of_inside {child : Operation} (hop : op ∈ preorderIn ops)
    (hchild : child ∈ op.operations) : child ∈ preorderIn ops := by
  refine preorder_subset_preorderIn ops hop ?_
  rw [preorder_eq]
  exact List.mem_cons_of_mem op (mem_preorderIn_of_mem hchild)

/-! ## Handlers -/

/-- The entry under which a handler refers to an operation. -/
def entries (op : Operation) : List (String × Operation) :=
  if op.id.isEmpty then [] else [(op.id, op)]

mutual

theorem addressable_eq : (op : Operation) → op.addressable = op.preorder.flatMap entries
  | op@{ operations, .. } => by
    rw [addressable, preorder_eq, List.flatMap_cons, ← addressableIn_eq operations]
    rfl

theorem addressableIn_eq : (ops : List Operation) →
    addressableIn ops = (preorderIn ops).flatMap entries
  | [] => rfl
  | op :: rest => by
    rw [addressableIn, preorderIn, List.flatMap_append, addressable_eq op, addressableIn_eq rest]

end

theorem find?_flatMap_entries (id : String) (ops : List Operation) :
    Table.find? id (ops.flatMap entries) =
      if id.isEmpty then none else ops.find? (·.id = id) := by
  induction ops with
  | nil => simp [Table.find?]
  | cons op ops ih =>
    rw [List.flatMap_cons, Table.find?_append, ih, entries, List.find?_cons]
    by_cases hid : op.id = id
    · subst hid
      cases hempty : op.id.isEmpty <;> simp [Table.find?]
    · cases hempty : op.id.isEmpty <;> simp [Table.find?, hid, Ne.symm hid]

/-- An id refers to the last operation in the trees that has it. -/
theorem get?_handlers (ops : List Operation) (id : String) : (handlers ops).get? id =
    if id.isEmpty then none else (preorderIn ops).reverse.find? (·.id = id) := by
  have hone : ∀ op : Operation, (entries op).reverse = entries op := by
    intro op
    unfold entries
    split <;> rfl
  have hreverse : ((preorderIn ops).flatMap entries).reverse =
      (preorderIn ops).reverse.flatMap entries := by
    rw [List.reverse_flatMap]
    exact congrArg (List.flatMap · (preorderIn ops).reverse) (funext hone)
  rw [handlers, addressableIn_eq, Table.get?_ofList, hreverse, find?_flatMap_entries]

theorem get?_handlers_eq_some_iff : (handlers ops).get? id = some op ↔
    id ≠ "" ∧ op.id = id ∧ ∃ before after, preorderIn ops = before ++ op :: after ∧
      ∀ later ∈ after, later.id ≠ id := by
  rw [get?_handlers]
  by_cases hempty : id = ""
  · simp [hempty]
  · rw [if_neg (by simpa using hempty), List.find?_eq_some_iff_append]
    simp only [decide_eq_true_eq, ne_eq, hempty, not_false_eq_true, true_and]
    refine and_congr_right fun _ => ⟨?_, ?_⟩
    · rintro ⟨front, back, hreverse, hfront⟩
      refine ⟨back.reverse, front.reverse, ?_, fun later hlater => ?_⟩
      · rw [← List.reverse_reverse (preorderIn ops), hreverse]
        simp
      · simpa using hfront later (List.mem_reverse.1 hlater)
    · rintro ⟨before, after, hpreorder, hafter⟩
      refine ⟨after.reverse, before.reverse, by rw [hpreorder]; simp, fun later hlater => ?_⟩
      simpa using hafter later (List.mem_reverse.1 hlater)

/-- Every id in the trees refers to an operation. -/
theorem exists_handler_iff : (∃ op, (handlers ops).get? id = some op) ↔
    id ≠ "" ∧ ∃ op ∈ preorderIn ops, op.id = id := by
  rw [get?_handlers]
  by_cases hempty : id = ""
  · simp [hempty]
  · rw [if_neg (by simpa using hempty), ← Option.isSome_iff_exists, List.find?_isSome]
    simp [hempty]

theorem mem_preorderIn_of_handlers (h : (handlers ops).get? id = some op) :
    op ∈ preorderIn ops := by
  obtain ⟨-, -, before, after, hpreorder, -⟩ := get?_handlers_eq_some_iff.1 h
  rw [hpreorder]
  exact List.mem_append_right _ List.mem_cons_self

end Operation

/-! ## Expanding once more -/

namespace Expansion

open Operation (Expanded preorderIn handlers get?_handlers_eq_some_iff)

/-- Expansion leaves no reference anywhere, and with any components a second expansion gives the
same operations and the same handlers: an id refers to the last of the operations that has it. -/
theorem expand_expanded {registry : Registry} {ops expanded : List Operation}
    (h : expand registry ops = .ok expanded) :
    (∀ op ∈ preorderIn expanded, op.uses.isEmpty = true) ∧
      ∀ other : Registry, expand other expanded = .ok expanded ∧
        (expand other expanded).map handlers = (expand registry ops).map handlers ∧
        ∀ again, expand other expanded = .ok again → ∀ id op,
          (handlers again).get? id = some op ↔
            id ≠ "" ∧ op.id = id ∧ ∃ before after, preorderIn expanded = before ++ op :: after ∧
              ∀ later ∈ after, later.id ≠ id := by
  have hexpanded : Expanded (maxDepth + 1) expanded := expanded_of_expandWithin h
  refine ⟨fun op hop => hexpanded.uses_of_mem hop, fun other => ?_⟩
  have hsame : expand other expanded = .ok expanded := expandWithin_of_expanded other hexpanded
  refine ⟨hsame, by rw [hsame, h], fun again hagain id op => ?_⟩
  obtain rfl := Except.ok.inj (hsame.symm.trans hagain)
  exact get?_handlers_eq_some_iff

/-- A component that packs what another one builds, under ids of their own. -/
def packaging : Registry :=
  .registerAll {} [{ id := "build", operations := [{ id := "compile", command := "make" }] },
    { id := "package", operations := [{ id := "sources", uses := "build" },
      { id := "archive", command := "tar" }] }]

/-- A loop over a reference to it. -/
def packagingLoop : Operation where
  id := "each"
  controlFlow := some (.counted "2" "i" false false)
  operations := [{ id := "artifact", uses := "package", condition := "$ship == true" }]

/-- What the loop expands to has two copy steps and expands to itself without any components. -/
theorem expand_expanded_packagingLoop : ∃ children,
    expand packaging [packagingLoop] = .ok [{ packagingLoop with operations := children }] ∧
      children.map (·.copyFrom) = [none, some "compile", none, some "archive"] ∧
      expand {} [{ packagingLoop with operations := children }] =
        .ok [{ packagingLoop with operations := children }] := by
  obtain ⟨children, hexpand, hcopies⟩ : ∃ children,
      expand packaging [packagingLoop] = .ok [{ packagingLoop with operations := children }] ∧
        children.map (·.copyFrom) = [none, some "compile", none, some "archive"] :=
    ⟨_, rfl, rfl⟩
  exact ⟨children, hexpand, hcopies, ((expand_expanded hexpand).2 {}).1⟩

end Expansion

end RecipeRunner

import RecipeRunner.Proofs.Recipe.Levels
/-!
# Expanded operations

What expansion gives has no references left and is no deeper than its source, so expanding it once
more changes nothing, whatever components there are.

* `expanded_of_expandWithin`: the result of an expansion is expanded.
* `expandWithin_of_expanded`: what is expanded expands to itself.
-/

namespace RecipeRunner

namespace Operation

mutual

/-- The operations in the tree of an operation, each before those inside it. -/
def preorder : Operation → List Operation
  | op@{ operations, .. } => op :: preorderIn operations

/-- The operations in the trees of operations. -/
def preorderIn : List Operation → List Operation
  | [] => []
  | op :: rest => op.preorder ++ preorderIn rest

end

theorem preorder_eq (op : Operation) : op.preorder = op :: preorderIn op.operations := by
  cases op
  rw [preorder]

theorem mem_preorderIn {op : Operation} {ops : List Operation} :
    op ∈ preorderIn ops ↔ ∃ root ∈ ops, op = root ∨ op ∈ preorderIn root.operations := by
  induction ops with
  | nil => simp [preorderIn]
  | cons root ops ih =>
    rw [preorderIn, List.mem_append, ih, preorder_eq, List.mem_cons]
    simp

/-- Operations without references, at any depth, of no more levels than there is room for. -/
def Expanded : (room : Nat) → List Operation → Prop
  | 0, _ => False
  | room + 1, ops => ∀ op ∈ ops, op.uses.isEmpty = true ∧
    (op.operations.isEmpty = false → Expanded room op.operations)

theorem Expanded.succ {room : Nat} {ops : List Operation} (h : Expanded room ops) :
    Expanded (room + 1) ops := by
  induction room generalizing ops with
  | zero => exact h.elim
  | succ room ih =>
    intro op hop
    obtain ⟨huses, hinside⟩ := h op hop
    exact ⟨huses, fun hempty => ih (hinside hempty)⟩

theorem Expanded.uses_of_mem {room : Nat} {ops : List Operation} (h : Expanded room ops)
    {op : Operation} (hop : op ∈ preorderIn ops) : op.uses.isEmpty = true := by
  induction room generalizing ops with
  | zero => exact h.elim
  | succ room ih =>
    obtain ⟨root, hroot, rfl | hinside⟩ := mem_preorderIn.1 hop
    · exact (h op hroot).1
    · cases hempty : root.operations.isEmpty with
      | true =>
        rw [List.isEmpty_iff.1 hempty] at hinside
        cases hinside
      | false => exact ih ((h root hroot).2 hempty) hinside

/-- Neither the component nor the inside of an operation is changed in place of a reference, and a
copy step has none. -/
theorem form_of_mem_endFor {ref last op : Operation} (h : op ∈ endFor ref last) :
    op.form = last.form ∨ op.form = ("", []) := by
  rcases endFor_cases ref last with ⟨id, hend, -⟩ | ⟨-, -, -, hend⟩
  · rw [hend, takeFailureHandler_eq] at h
    obtain rfl := List.mem_singleton.1 h
    exact .inl rfl
  · rw [hend, takeFailureHandler_eq] at h
    rcases List.mem_cons.1 h with rfl | h
    · exact .inl rfl
    · obtain rfl := List.mem_singleton.1 h
      exact .inr rfl

theorem form_of_mem_settle {ref op : Operation} {ops : List Operation} (h : op ∈ settle ref ops) :
    (∃ inner ∈ ops, op.form = inner.form) ∨ op.form = ("", []) := by
  rcases List.eq_nil_or_concat ops with rfl | ⟨front, last, rfl⟩
  · cases h
  · rw [List.concat_eq_append, settle_append, List.mem_append] at h
    rcases h with h | h
    · exact .inl ⟨op, by simp [h], rfl⟩
    · exact (form_of_mem_endFor h).imp_left fun hform => ⟨last, by simp, hform⟩

theorem Expanded.settle {room : Nat} {ops : List Operation} (h : Expanded (room + 1) ops)
    (ref : Operation) : Expanded (room + 1) (ref.settle ops) := by
  intro op hop
  rcases form_of_mem_settle hop with ⟨inner, hinner, hform⟩ | hform
  · obtain ⟨huses, hoperations⟩ := Prod.mk.inj hform
    rw [huses, hoperations]
    exact h inner hinner
  · obtain ⟨huses, hoperations⟩ := Prod.mk.inj hform
    rw [huses, hoperations]
    exact ⟨rfl, nofun⟩

end Operation

namespace Expansion

open Operation (Expanded)

variable {registry : Registry} {room : Nat} {ops expanded : List Operation}

/-- What an expansion gives has no references left, and is no deeper than there was room for. -/
theorem expanded_of_expandWithin (h : expandWithin registry room ops = .ok expanded) :
    Expanded room expanded := by
  induction room generalizing ops expanded with
  | zero => cases h
  | succ room ih =>
    intro op hop
    rw [expandWithin] at h
    obtain ⟨source, -, first, hfirst, hop⟩ := exists_mem_of_mem_expandEach h hop
    cases huses : source.uses.isEmpty with
    | true =>
      rcases cases_of_expandOne_of_isEmpty hfirst huses with
        ⟨hempty, rfl⟩ | ⟨children, hchildren, rfl⟩
      · obtain rfl := List.mem_singleton.1 hop
        exact ⟨huses, fun hinside => by simp [hempty] at hinside⟩
      · obtain rfl := List.mem_singleton.1 hop
        exact ⟨huses, fun _ => ih hchildren⟩
    | false =>
      obtain ⟨component, body, -, hbody, rfl⟩ := exists_of_expandOne hfirst huses
      have hdeeper : Expanded (room + 1) body := (ih hbody).succ
      exact hdeeper.settle source op hop

theorem expandEach_eq_ok {expand : Operation → Except Error (List Operation)}
    (h : ∀ op ∈ ops, expand op = .ok [op]) : expandEach expand ops = .ok ops := by
  induction ops with
  | nil => rfl
  | cons op ops ih =>
    have hrest := ih fun op hop => h op (List.mem_cons_of_mem _ hop)
    rw [expandEach, h op List.mem_cons_self, hrest]
    rfl

/-- What is expanded expands to itself, whatever components there are. -/
theorem expandWithin_of_expanded (registry : Registry) (h : Expanded room ops) :
    expandWithin registry room ops = .ok ops := by
  induction room generalizing ops with
  | zero => exact h.elim
  | succ room ih =>
    rw [expandWithin]
    refine expandEach_eq_ok fun op hop => ?_
    obtain ⟨huses, hinside⟩ := h op hop
    rw [expandOne, if_pos huses]
    split
    · rfl
    · next hempty =>
      have hchildren : expandWithin registry room op.operations = .ok op.operations :=
        ih (hinside (by simpa using hempty))
      rw [hchildren]
      cases op
      rfl

end Expansion

end RecipeRunner

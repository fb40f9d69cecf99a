import RecipeRunner.Proofs.Condition.Guard
import RecipeRunner.Proofs.Recipe.Inlining
import RecipeRunner.Store
/-!
# Guards behind guards

Inlining puts one guard in front of the other.  Where the conditions have no templates and close
all groups that they open, what comes of it is evaluated from left to right, one condition at a
time, up to the first that does not hold.

* `evaluate_foldl_conjoin`: a condition behind several guards is their conjunction.
* `evaluate_of_expandOne`: so is the condition of every expanded operation.
-/

namespace RecipeRunner

namespace Condition

open Template (hasTemplate)
open Text (trimmed)

/-- A condition without templates that closes every group which it opens, and no other. -/
structure Closed (condition : String) : Prop where
  plain : hasTemplate condition = false
  balanced : Balanced condition.toList

theorem Closed.trimmed {condition : String} (h : Closed condition) :
    Closed (trimmed condition) := by
  obtain ⟨before, after, heq, -, -⟩ := Text.exists_eq_append_trim condition.toList
  have htext : String.ofList before ++ Text.trimmed condition ++ String.ofList after =
      condition := by
    apply String.toList_injective
    simpa [Text.trimmed, String.toList_append] using heq.symm
  constructor
  · have hplain := h.plain
    rw [← htext] at hplain
    exact not_hasTemplate_of_append hplain
  · rw [Text.trimmed, String.toList_ofList]
    exact h.balanced.trim

theorem Closed.conjunction {outer inner : String} (h : Closed outer) (h' : Closed inner) :
    Closed (conjunction outer inner) where
  plain := by
    rw [Bool.eq_false_iff]
    intro hwhole
    rcases hasTemplate_of_conjunction hwhole with houter | hinner
    · simp [h.plain] at houter
    · simp [h'.plain] at hinner
  balanced := h.balanced.conjunction h'.balanced

theorem Closed.conjoin {outer inner : String} (h : Closed outer) (h' : Closed inner) :
    Closed (conjoin outer inner) := by
  cases houter : (Text.trimmed outer).isEmpty with
  | true =>
    rw [conjoin_of_isEmpty_left houter]
    exact h'.trimmed
  | false =>
    cases hinner : (Text.trimmed inner).isEmpty with
    | true =>
      rw [conjoin_of_isEmpty_right houter hinner]
      exact h.trimmed
    | false =>
      rw [conjoin_eq_conjunction houter hinner]
      exact h.trimmed.conjunction h'.trimmed

theorem Closed.evaluate_eq (s : Scope) {condition : String} (h : Closed condition)
    (hempty : (Text.trimmed condition).isEmpty = false) :
    evaluate s condition = eval s (Text.trimmed condition).toList := by
  simp only [evaluate, hempty, h.trimmed.plain, Bool.false_eq_true, if_false]

section

variable {α : Type} {eval : α → Except Error Bool} {a b c : α}

theorem allHold_singleton (eval : α → Except Error Bool) (a : α) : allHold eval [a] = eval a := by
  simp only [allHold]
  rcases eval a with e | _ | _ <;> rfl

theorem allHold_cons_of_true (h : eval a = .ok true) (rest : List α) :
    allHold eval (a :: rest) = allHold eval rest := by
  rw [allHold, h]

theorem allHold_pair_of_true (h : eval b = .ok true) : allHold eval [a, b] = eval a := by
  rw [allHold, allHold_singleton, h]
  rcases eval a with e | _ | _ <;> rfl

theorem allHold_cons_congr (h : eval c = allHold eval [a, b]) (rest : List α) :
    allHold eval (c :: rest) = allHold eval (a :: b :: rest) := by
  simp only [allHold, h]
  rcases eval a with e | _ | _
  · rfl
  · rfl
  · rcases eval b with e | _ | _ <;> rfl

end

/-- A guard is evaluated first; what it guards is evaluated if the guard holds. -/
theorem Closed.evaluate_conjoin (s : Scope) {outer inner : String} (h : Closed outer)
    (h' : Closed inner) :
    evaluate s (Condition.conjoin outer inner) = allHold (evaluate s) [outer, inner] := by
  cases houter : (Text.trimmed outer).isEmpty with
  | true =>
    rw [conjoin_of_isEmpty_left houter, evaluate_trimmed,
      allHold_cons_of_true (evaluate_of_isEmpty s houter), allHold_singleton]
  | false =>
    cases hinner : (Text.trimmed inner).isEmpty with
    | true =>
      rw [conjoin_of_isEmpty_right houter hinner, evaluate_trimmed,
        allHold_pair_of_true (evaluate_of_isEmpty s hinner)]
    | false =>
      have hboth : Closed (Condition.conjunction (Text.trimmed outer) (Text.trimmed inner)) :=
        h.trimmed.conjunction h'.trimmed
      have hne : (Text.trimmed (Condition.conjunction (Text.trimmed outer)
          (Text.trimmed inner))).isEmpty = false := by
        rw [trimmed_conjunction]
        simp [Condition.conjunction]
      rw [conjoin_eq_conjunction houter hinner, hboth.evaluate_eq s hne, trimmed_conjunction,
        eval_conjunction s h.trimmed.balanced h'.trimmed.balanced]
      simp only [allHold, h.evaluate_eq s houter, h'.evaluate_eq s hinner]

theorem evaluate_of_closed (s : Scope) {first : String} {rest : List String}
    (h : ∀ condition ∈ first :: rest, Closed condition) :
    evaluate s (rest.foldl conjoin first) = allHold (evaluate s) (first :: rest) := by
  induction rest generalizing first with
  | nil => rw [List.foldl_nil, allHold_singleton]
  | cons next rest ih =>
    have hfirst : Closed first := h first (by simp)
    have hnext : Closed next := h next (by simp)
    have hguarded : ∀ condition ∈ conjoin first next :: rest, Closed condition := by
      intro condition hmem
      rcases List.mem_cons.1 hmem with hmem | hmem
      · rw [hmem]
        exact hfirst.conjoin hnext
      · exact h condition (by simp [hmem])
    rw [List.foldl_cons, ih hguarded]
    exact allHold_cons_congr (hfirst.evaluate_conjoin s hnext) rest

/-- A condition behind several guards is evaluated as their conjunction from left to right, up to
the first that does not hold. -/
theorem evaluate_foldl_conjoin (s : Scope) (first : String) (rest : List String)
    (hplain : ∀ condition ∈ first :: rest, hasTemplate condition = false)
    (hbalanced : ∀ condition ∈ first :: rest, Balanced condition.toList) :
    evaluate s (rest.foldl conjoin first) = allHold (evaluate s) (first :: rest) :=
  evaluate_of_closed s fun condition hmem => ⟨hplain condition hmem, hbalanced condition hmem⟩

/-- A disjunction guards a blank condition, and both guard a negation. -/
theorem evaluate_foldl_conjoin_negation :
    evaluate (Store.scope {}) "(a.success || b.failure) && (!(c.success))" =
      allHold (evaluate (Store.scope {})) ["a.success || b.failure", " ", "!(c.success)"] := by
  have htext : [" ", "!(c.success)"].foldl conjoin "a.success || b.failure" =
      "(a.success || b.failure) && (!(c.success))" := by decide +kernel
  have hnegation : Balanced "!(c.success)".toList := by
    have hgroup : Balanced (group "c.success".toList) :=
      Balanced.group (balanced_of_plain (by decide) (by decide))
    exact .plain (by decide) (by decide) hgroup
  have hbalanced : ∀ condition ∈ ["a.success || b.failure", " ", "!(c.success)"],
      Balanced condition.toList := by
    simp only [List.forall_mem_cons]
    exact ⟨balanced_of_plain (by decide) (by decide), balanced_of_plain (by decide) (by decide),
      hnegation, nofun⟩
  calc evaluate (Store.scope {}) "(a.success || b.failure) && (!(c.success))" =
        evaluate (Store.scope {}) ([" ", "!(c.success)"].foldl conjoin "a.success || b.failure") :=
      congrArg _ htext.symm
    _ = _ := evaluate_foldl_conjoin _ _ _ (by decide) hbalanced

end Condition

namespace Expansion

open Condition (Closed conjoin evaluate allHold)

/-- A condition that is put together from that of a reference and those of operations inlined for
it, one behind the other. -/
def Chained (registry : Registry) (ref : Operation) (inner : List String) (condition : String) :
    Prop :=
  (∀ part ∈ inner, ∃ inlined, Inlined registry ref.uses inlined ∧ inlined.condition = part) ∧
    condition = inner.foldl conjoin ref.condition

theorem Chained.snoc {registry : Registry} {ref op : Operation} {inner : List String}
    {condition : String} (h : Chained registry ref inner condition)
    (hop : Inlined registry ref.uses op) :
    Chained registry ref (inner ++ [op.condition]) (conjoin condition op.condition) := by
  obtain ⟨hinner, rfl⟩ := h
  refine ⟨fun part hmem => ?_, by rw [List.foldl_append, List.foldl_cons, List.foldl_nil]⟩
  rcases List.mem_append.1 hmem with hmem | hmem
  · exact hinner part hmem
  · obtain rfl := List.mem_singleton.1 hmem
    exact ⟨op, hop, rfl⟩

theorem chained_of_expandOne {registry : Registry} {n : Nat} {ref : Operation}
    {ops : List Operation} (h : expandOne registry (expandWithin registry n) ref = .ok ops)
    (huses : ref.uses.isEmpty = false) :
    ∀ op ∈ ops, ∃ inner, Chained registry ref inner op.condition := by
  have hbehind : ∀ guard op, (∃ inner, Chained registry ref inner guard) →
      Inlined registry ref.uses op →
        ∃ inner, Chained registry ref inner (conjoin guard op.condition) :=
    fun _ _ ⟨_, hguard⟩ hop => ⟨_, hguard.snoc hop⟩
  exact holds_of_expandOne (fun guard => ∃ inner, Chained registry ref inner guard) _ h huses
    ⟨[], nofun, rfl⟩ (fun _ => id) (fun guard op hguard hop _ => hbehind guard op hguard hop)
    (fun guard op hguard hop _ => hbehind guard op hguard hop)

/-- Where all conditions are closed, that of an expanded operation is evaluated as the conjunction
of those that it is put together from. -/
theorem evaluate_of_expandOne (s : Condition.Scope) {registry : Registry} {n : Nat}
    {ref : Operation} {ops : List Operation}
    (h : expandOne registry (expandWithin registry n) ref = .ok ops)
    (huses : ref.uses.isEmpty = false) (href : Closed ref.condition)
    (hinlined : ∀ op, Inlined registry ref.uses op → Closed op.condition) :
    ∀ op ∈ ops, ∃ inner, Chained registry ref inner op.condition ∧
      evaluate s op.condition = allHold (evaluate s) (ref.condition :: inner) := by
  intro op hop
  obtain ⟨inner, hchained⟩ := chained_of_expandOne h huses op hop
  refine ⟨inner, hchained, ?_⟩
  rw [hchained.2]
  refine Condition.evaluate_of_closed s fun condition hmem => ?_
  rcases List.mem_cons.1 hmem with rfl | hmem
  · exact href
  · obtain ⟨inlined, hin, rfl⟩ := hchained.1 condition hmem
    exact hinlined inlined hin

end Expansion

end RecipeRunner

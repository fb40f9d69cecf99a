import RecipeRunner.Proofs.Condition.Comparison
import RecipeRunner.Proofs.Decimal.WholeFloat
import RecipeRunner.Template.Function
/-!
# Arithmetic on integers

The functions on numbers work on floats throughout.  Each integer is rounded to 53 significant bits
on the way in, and so is the exact result; it comes back as an integer if it fits a variable.

* `call_operation`, `call_relation`: the functions on the floats of two integers.
* `Holds.ofFloat`: what a computed whole number comes back as.
* `call_integers`: arithmetic and comparisons of any two integers in the range of variables, exact
  on integers that are short enough.
-/

namespace RecipeRunner.Template

open Condition (Carries Comparison Word)
open Decimal (Represents Short rounded)

/-- The functions that combine numbers exactly up to rounding. -/
inductive Operation where
  | add
  | sub
  | mul

namespace Operation

def name : Operation → String
  | add => "add"
  | sub => "sub"
  | mul => "mul"

def apply : Operation → Int → Int → Int
  | add, m, n => m + n
  | sub, m, n => m - n
  | mul, m, n => m * n

def applyFloat : Operation → Float → Float → Float
  | add, x, y => x + y
  | sub, x, y => x - y
  | mul, x, y => x * y

end Operation

/-- The functions that compare numbers. -/
inductive Relation where
  | eq
  | ne
  | lt
  | le
  | gt
  | ge

namespace Relation

def name : Relation → String
  | eq => "eq"
  | ne => "ne"
  | lt => "lt"
  | le => "le"
  | gt => "gt"
  | ge => "ge"

def holds : Relation → Int → Int → Bool
  | eq, m, n => m = n
  | ne, m, n => m ≠ n
  | lt, m, n => m < n
  | le, m, n => m ≤ n
  | gt, m, n => m > n
  | ge, m, n => m ≥ n

def holdsFloat : Relation → Float → Float → Bool
  | eq, x, y => x == y
  | ne, x, y => !(x == y)
  | lt, x, y => x < y
  | le, x, y => x ≤ y
  | gt, x, y => y < x
  | ge, x, y => y ≤ x

/-- The relation of an operator of conditions. -/
def ofComparison : Comparison → Relation
  | .atLeast => ge
  | .atMost => le
  | .above => gt
  | .below => lt

theorem holds_ofComparison (op : Comparison) (m n : Int) :
    (ofComparison op).holds m n = op.holds (compare m n) := by
  obtain ⟨hatLeast, hatMost, habove, hbelow⟩ := Comparison.holds_compare m n
  cases op with
  | atLeast => exact hatLeast.symm
  | atMost => exact hatMost.symm
  | above => exact habove.symm
  | below => exact hbelow.symm

end Relation

/-- A value is a whole number: an integer strictly between the ends of the range, a float from
there on. -/
inductive Holds : Value → Int → Prop where
  | int {n : Int} (h : n.natAbs < 2 ^ 63) : Holds (.int n) n
  | float {x : Float} {n : Int} (h : 2 ^ 63 ≤ n.natAbs) (hx : Represents x n) : Holds (.float x) n

theorem Holds.ofFloat {x : Float} {n : Int} (h : Represents x n) : Holds (.ofFloat x) n := by
  rw [h.ofFloat_eq]
  split
  · next hn => exact .int hn
  · next hn => exact .float (Nat.le_of_not_lt hn) h

theorem Holds.eq_int {v : Value} {n : Int} (h : Holds v n) (hn : n.natAbs < 2 ^ 63) :
    v = .int n := by
  cases h with
  | int => rfl
  | float hlarge => omega

/-! ## Floats of integers -/

theorem call_operation (b : Bindings) (op : Operation) (m n : Int) :
    call b op.name [.int m, .int n] =
      .ok (.ofFloat (op.applyFloat (Float.ofInt m) (Float.ofInt n))) := by
  cases op <;> rfl

theorem call_relation (b : Bindings) (rel : Relation) (m n : Int) :
    call b rel.name [.int m, .int n] =
      .ok (.bool (rel.holdsFloat (Float.ofInt m) (Float.ofInt n))) := by
  cases rel <;> rfl

theorem represents_applyFloat {x y : Float} {m n : Int} (hx : Represents x m)
    (hy : Represents y n) (hm : m.natAbs ≤ 2 ^ 63) (hn : n.natAbs ≤ 2 ^ 63) (op : Operation) :
    Represents (op.applyFloat x y) (rounded (op.apply m n)) := by
  cases op with
  | add => exact hx.add hy (by omega)
  | sub => exact hx.sub hy (by omega)
  | mul =>
    refine hx.mul hy ?_
    rw [Int.natAbs_mul]
    exact (Nat.mul_le_mul hm hn).trans (by decide)

theorem holdsFloat_eq {x y : Float} {m n : Int} (hx : Represents x m) (hy : Represents y n)
    (rel : Relation) : rel.holdsFloat x y = rel.holds m n := by
  cases rel with
  | eq => exact hx.beq_eq hy
  | ne => simp [Relation.holdsFloat, Relation.holds, hx.beq_eq hy]
  | lt => simp [Relation.holdsFloat, Relation.holds, hx.lt_iff hy]
  | le => simp [Relation.holdsFloat, Relation.holds, hx.le_iff hy]
  | gt => simp [Relation.holdsFloat, Relation.holds, hy.lt_iff hx]
  | ge => simp [Relation.holdsFloat, Relation.holds, hy.le_iff hx]

/-! ## Calls -/

theorem holds_call {b : Bindings} {m n : Int} (hm : Decimal.fits m = true)
    (hn : Decimal.fits n = true) (op : Operation) :
    ∃ v, call b op.name [.int m, .int n] = .ok v ∧
      Holds v (rounded (op.apply (rounded m) (rounded n))) := by
  refine ⟨_, call_operation b op m n, .ofFloat ?_⟩
  exact represents_applyFloat (Decimal.represents_of_fits hm) (Decimal.represents_of_fits hn)
    (Decimal.natAbs_rounded_le (Decimal.natAbs_le_of_fits hm))
    (Decimal.natAbs_rounded_le (Decimal.natAbs_le_of_fits hn)) op

theorem call_eq_holds {b : Bindings} {m n : Int} (hm : Decimal.fits m = true)
    (hn : Decimal.fits n = true) (rel : Relation) :
    call b rel.name [.int m, .int n] = .ok (.bool (rel.holds (rounded m) (rounded n))) := by
  rw [call_relation,
    holdsFloat_eq (Decimal.represents_of_fits hm) (Decimal.represents_of_fits hn)]

theorem holds_rounded {m n : Int} (h : rounded m = rounded n → m = n) (rel : Relation) :
    rel.holds (rounded m) (rounded n) = rel.holds m n := by
  have hle : rounded m ≤ rounded n ↔ m ≤ n := by
    refine ⟨fun hle => Int.not_lt.1 fun hlt => ?_, Decimal.rounded_mono⟩
    have heq := h (Int.le_antisymm hle (Decimal.rounded_mono (Int.le_of_lt hlt)))
    omega
  have hge : rounded n ≤ rounded m ↔ n ≤ m := by
    refine ⟨fun hge => Int.not_lt.1 fun hlt => ?_, Decimal.rounded_mono⟩
    have heq := h (Int.le_antisymm (Decimal.rounded_mono (Int.le_of_lt hlt)) hge)
    omega
  cases rel <;> simp only [Relation.holds, decide_eq_decide] <;> omega

/-- Calls on integers work on rounded operands and round the result, each to the nearest short
integer.  Arithmetic is exact on short integers with a short result.  Comparisons are exact, and
agree with those of conditions, where rounding keeps different operands apart. -/
theorem call_integers (b : Bindings) {m n : Int} (hm : Decimal.fits m = true)
    (hn : Decimal.fits n = true) :
    (∀ k, Short (rounded k) ∧ ∀ s, Short s → (rounded k - k).natAbs ≤ (s - k).natAbs) ∧
    (∀ op : Operation, ∃ v, call b op.name [.int m, .int n] = .ok v ∧
      Holds v (rounded (op.apply (rounded m) (rounded n)))) ∧
    (∀ op : Operation, Short m → Short n → Short (op.apply m n) →
      (op.apply m n).natAbs < 2 ^ 63 →
        call b op.name [.int m, .int n] = .ok (.int (op.apply m n)) ∧
          (Value.int (op.apply m n)).render = toString (op.apply m n)) ∧
    (∀ rel : Relation,
      call b rel.name [.int m, .int n] = .ok (.bool (rel.holds (rounded m) (rounded n)))) ∧
    ((rounded m = rounded n → m = n) →
      (∀ rel : Relation, call b rel.name [.int m, .int n] = .ok (.bool (rel.holds m n))) ∧
      ∀ (s : Store) (left right : Word) (op : Comparison), Carries s left.text m →
        Carries s right.text n → ∃ answer,
          Condition.evaluate s.scope
            ("$" ++ left.text ++ (" " ++ String.ofList op.symbol ++ " $") ++ right.text) =
              .ok answer ∧
          call b (Relation.ofComparison op).name [.int m, .int n] = .ok (.bool answer)) := by
  refine ⟨fun k => ⟨Decimal.short_rounded k, fun _ => Decimal.rounded_nearest k⟩,
    holds_call hm hn, fun op hmShort hnShort hresult hfits => ⟨?_, rfl⟩, call_eq_holds hm hn,
    fun hapart => ?_⟩
  · obtain ⟨v, hcall, hv⟩ := holds_call (b := b) hm hn op
    rw [hmShort.rounded_eq, hnShort.rounded_eq, hresult.rounded_eq] at hv
    rw [hcall, hv.eq_int hfits]
  have hexact (rel : Relation) :
      call b rel.name [.int m, .int n] = .ok (.bool (rel.holds m n)) := by
    rw [call_eq_holds hm hn rel, holds_rounded hapart]
  refine ⟨hexact, fun s left right op hleft hright => ?_⟩
  refine ⟨(Relation.ofComparison op).holds m n, ?_, hexact _⟩
  have hsign :
      (" " ++ String.ofList op.symbol ++ " $").toList = ' ' :: op.symbol ++ [' ', '$'] := by
    simp
  rw [Condition.evaluate_compares s.scope left right op hsign,
    Condition.meaning_compares hleft hright op, Relation.holds_ofComparison]

/-- Two counters at the end of the numbers without gaps. -/
def counters : Store :=
  (({} : Store).setVar "x" (.int 9007199254740992)).setVar "y" (.int 1)

/-- Up to the last integer before the gaps arithmetic is exact and agrees with conditions. -/
theorem call_integers_counters :
    call counters.scope.bindings "sub" [.int 9007199254740992, .int 1] =
        .ok (.int 9007199254740991) ∧
      (∃ v, call counters.scope.bindings "add" [.int 9007199254740992, .int 1] = .ok v ∧
        Holds v 9007199254740992) ∧
      ∃ answer, Condition.evaluate counters.scope "$x >= $y" = .ok answer ∧
        call counters.scope.bindings "ge" [.int 9007199254740992, .int 1] = .ok (.bool answer) := by
  have hx : Carries counters "x" 9007199254740992 := .int rfl (by decide)
  have hy : Carries counters "y" 1 := .int rfl (by decide)
  have hshort {n : Int} (hn : n.natAbs ≤ 2 ^ 53) : Short n := Decimal.short_of_natAbs_le hn
  obtain ⟨-, hholds, hexact, -, hcompare⟩ :=
    call_integers counters.scope.bindings (m := 9007199254740992) (n := 1) (by decide) (by decide)
  obtain ⟨-, hagree⟩ := hcompare (by decide)
  obtain ⟨hsub, -⟩ := hexact .sub (hshort (by decide)) (hshort (by decide)) (hshort (by decide))
    (by decide)
  have hrounded : rounded (rounded 9007199254740992 + rounded 1) = 9007199254740992 := by decide
  refine ⟨hsub, ?_, ?_⟩
  · rw [← hrounded]
    exact hholds .add
  · exact hagree counters ⟨['x'], by decide, List.forall_mem_singleton.2 (by decide)⟩
      ⟨['y'], by decide, List.forall_mem_singleton.2 (by decide)⟩ .atLeast hx hy

/-- An integer that no float holds, its comparison with the next one below, and the end of the range
that comes back as a float. -/
theorem call_integers_gaps :
    call { lookup := fun _ => none } "add" [.int 9007199254740993, .int 0] =
        .ok (.int 9007199254740992) ∧
      call { lookup := fun _ => none } "gt" [.int 9007199254740993, .int 9007199254740992] =
        .ok (.bool false) ∧
      ∃ x, call { lookup := fun _ => none } "sub" [.int (-9223372036854775808), .int 0] =
        .ok (.float x) := by
  refine ⟨?_, ?_, ?_⟩
  · obtain ⟨v, hcall, hv⟩ := holds_call (b := { lookup := fun _ => none }) (m := 9007199254740993)
      (n := 0) (by decide) (by decide) .add
    have hrounded : rounded (rounded 9007199254740993 + rounded 0) = 9007199254740992 := by decide
    rw [Operation.apply, hrounded] at hv
    rw [← hv.eq_int (by decide)]
    exact hcall
  · exact call_eq_holds (m := 9007199254740993) (n := 9007199254740992) (by decide) (by decide) .gt
  · obtain ⟨v, hcall, hv⟩ := holds_call (b := { lookup := fun _ => none })
      (m := -9223372036854775808) (n := 0) (by decide) (by decide) .sub
    have hrounded :
        rounded (rounded (-9223372036854775808) - rounded 0) = -9223372036854775808 := by decide
    rw [Operation.apply, hrounded] at hv
    cases hv with
    | int hsmall => exact absurd hsmall (by decide)
    | float => exact ⟨_, hcall⟩

end RecipeRunner.Template

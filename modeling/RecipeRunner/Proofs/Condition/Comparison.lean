import RecipeRunner.Proofs.Condition.Reading
import RecipeRunner.Store
/-!
# Comparing whole numbers

A whole number reaches a condition as a number or as a text with blanks, a sign and zeros before its
digits, and an absent name stands for zero.  Comparisons are about the whole numbers themselves over
the whole range, with no detour through floats.

* `Number.ofChars?_of_numeral`: the texts of a whole number are read as this number.
* `Carries.value_eq`: so is what a name stands for.
* `evaluate_comparisons`: the four operators between names.
-/

namespace RecipeRunner.Condition

open Text (trim isBlank)
open Decimal (Spells)

/-- A text of a whole number, with any blanks around it. -/
def Numeral (n : Int) (t : String) : Prop :=
  ∃ front digits back, t.toList = front ++ digits ++ back ∧ (∀ c ∈ front, isBlank c = true) ∧
    Spells n digits ∧ ∀ c ∈ back, isBlank c = true

/-- A name stands for a whole number in the range of variables. -/
inductive Carries (s : Store) (name : String) : Int → Prop where
  | int {n : Int} (h : s.vars.get? name = some (.int n)) (hfits : Decimal.fits n = true) :
    Carries s name n
  | str {n : Int} {t : String} (h : s.vars.get? name = some (.str t)) (hnumeral : Numeral n t)
      (hfits : Decimal.fits n = true) : Carries s name n
  | output {n : Int} {t : String} (hvar : s.vars.get? name = none)
      (h : s.outputs.get? name = some t) (hnumeral : Numeral n t)
      (hfits : Decimal.fits n = true) : Carries s name n
  | absent (hvar : s.vars.get? name = none) (houtput : s.outputs.get? name = none) :
    Carries s name 0

theorem Carries.fits {s : Store} {name : String} {n : Int} (h : Carries s name n) :
    Decimal.fits n = true := by
  cases h with
  | int _ hfits | str _ _ hfits | output _ _ _ hfits => exact hfits
  | absent => rfl

/-! ## Reading -/

theorem numeral_toString (n : Int) : Numeral n (toString n) :=
  ⟨[], (toString n).toList, [], by simp, by simp, Decimal.spells_toString n, by simp⟩

/-- The characters of whole numbers are neither blank nor letters. -/
theorem not_blank_of_spells {n : Int} {digits : List Char} (h : Spells n digits) {c : Char}
    (hc : c ∈ digits) : isBlank c = false ∧ c ≠ 'f' := by
  have hdigits : ∀ {zeros m : Nat}, c ∈ Decimal.padded zeros m → isBlank c = false ∧ c ≠ 'f' := by
    intro zeros m hmem
    have hdigit := Decimal.of_isDigit (p := fun c => !isBlank c && decide (c ≠ 'f')) (by decide)
      (Decimal.isDigit_of_mem_padded hmem)
    simpa using hdigit
  cases h with
  | unsigned zeros m => exact hdigits hc
  | plus zeros m =>
    rcases List.mem_cons.1 hc with rfl | hc
    · decide
    · exact hdigits hc
  | minus zeros m =>
    rcases List.mem_cons.1 hc with rfl | hc
    · decide
    · exact hdigits hc

theorem Number.ofChars?_of_numeral {n : Int} {t : String} (h : Numeral n t)
    (hfits : Decimal.fits n = true) : ofChars? (trim t.toList) = some (.int n) := by
  obtain ⟨front, digits, back, htext, hfront, hspells, hback⟩ := h
  have htight : Text.Tight digits :=
    Text.tight_of_forall fun c hc => (not_blank_of_spells hspells hc).1
  have htrim : trim t.toList = digits := by rw [htext, Text.trim_between _ _ hfront htight hback]
  have hword : digits ≠ ['f', 'a', 'l', 's', 'e'] := by
    rintro rfl
    exact (not_blank_of_spells hspells List.mem_cons_self).2 rfl
  have hread : Decimal.readBounded? digits = some n := by
    rw [Decimal.readBounded?, hspells.readInteger?, Option.filter_some, if_pos hfits]
  rw [ofChars?, Text.trim_trim, htrim]
  simp only [hread, if_neg hword]

/-- What a name stands for is read as the whole number that it carries. -/
theorem Carries.value_eq {s : Store} {w : Word} {n : Int} (h : Carries s w.text n) :
    Number.ofChars? (w.value s.scope) = some (.int n) := by
  have hlookup : s.scope.bindings.lookup w.text =
      (s.vars.get? w.text).or ((s.outputs.get? w.text).map .str) := rfl
  rw [Word.value, hlookup]
  cases h with
  | int h hfits =>
    rw [h]
    exact Number.ofChars?_of_numeral (numeral_toString n) hfits
  | str h hnumeral hfits =>
    rw [h]
    exact Number.ofChars?_of_numeral hnumeral hfits
  | output hvar h hnumeral hfits =>
    rw [hvar, h]
    exact Number.ofChars?_of_numeral hnumeral hfits
  | absent hvar houtput =>
    rw [hvar, houtput]
    rfl

/-! ## Comparing -/

theorem evaluate_compares (s : Scope) (left right : Word) (op : Comparison) {sign : String}
    (hsign : sign.toList = ' ' :: op.symbol ++ [' ', '$']) :
    evaluate s ("$" ++ left.text ++ sign ++ right.text) =
      (Atom.compares left op right).meaning s := by
  have hreadable := Formula.readable (.atom (.compares left op right))
  have htext : ("$" ++ left.text ++ sign ++ right.text).toList =
      (Formula.atom (.compares left op right)).print := by
    simp [hsign, Formula.print, Atom.print, Word.text]
  have hempty : (Text.trimmed ("$" ++ left.text ++ sign ++ right.text)).isEmpty = false := by
    rw [Text.trimmed, htext, Text.trim_of_tight hreadable.tight]
    simpa using hreadable.ne_nil
  have hplain : Template.hasTemplate ("$" ++ left.text ++ sign ++ right.text) = false := by
    rw [Template.hasTemplate, htext]
    exact Text.occursIn_eq_false_of_not_mem (a := '\x7b') List.mem_cons_self hreadable.noTemplate
  rw [evaluate_of_plain s hempty hplain, htext, hreadable.eval_eq s, Formula.meaning]

theorem meaning_compares {s : Store} {left right : Word} {m n : Int}
    (hleft : Carries s left.text m) (hright : Carries s right.text n) (op : Comparison) :
    (Atom.compares left op right).meaning s.scope = .ok (op.holds (compare m n)) := by
  have hfloat : ∀ {name : String} {k : Int}, Carries s name k →
      (Number.int k).toFloat.isNaN = false := fun h =>
    isNaN_of_represents (Decimal.represents_of_fits h.fits)
  simp only [Atom.meaning, Word.number_eq, hleft.value_eq, hright.value_eq]
  exact congrArg Except.ok (op.holds_compare_eq (hfloat hleft) (hfloat hright)).symm

theorem Comparison.holds_compare (m n : Int) :
    atLeast.holds (compare m n) = decide (m ≥ n) ∧ atMost.holds (compare m n) = decide (m ≤ n) ∧
      above.holds (compare m n) = decide (m > n) ∧ below.holds (compare m n) = decide (m < n) := by
  rcases Int.lt_trichotomy m n with hlt | rfl | hgt
  · have hcompare : compare m n = .lt := Int.compare_eq_lt.2 hlt
    simp [hcompare, holds, hlt, Int.le_of_lt hlt, Int.lt_asymm hlt]
  · simp [holds]
  · have hcompare : compare m n = .gt := Int.compare_eq_gt.2 hgt
    simp [hcompare, holds, hgt, Int.le_of_lt hgt, Int.lt_asymm hgt]

/-- Comparisons between names are those of the whole numbers that the names carry. -/
theorem evaluate_comparisons {s : Store} (left right : Word) {m n : Int}
    (hleft : Carries s left.text m) (hright : Carries s right.text n) :
    evaluate s.scope ("$" ++ left.text ++ " >= $" ++ right.text) = .ok (decide (m ≥ n)) ∧
      evaluate s.scope ("$" ++ left.text ++ " <= $" ++ right.text) = .ok (decide (m ≤ n)) ∧
      evaluate s.scope ("$" ++ left.text ++ " > $" ++ right.text) = .ok (decide (m > n)) ∧
      evaluate s.scope ("$" ++ left.text ++ " < $" ++ right.text) = .ok (decide (m < n)) := by
  have hmeaning := meaning_compares hleft hright
  obtain ⟨hatLeast, hatMost, habove, hbelow⟩ := Comparison.holds_compare m n
  refine ⟨?_, ?_, ?_, ?_⟩
  · rw [evaluate_compares _ _ _ .atLeast rfl, hmeaning, hatLeast]
  · rw [evaluate_compares _ _ _ .atMost rfl, hmeaning, hatMost]
  · rw [evaluate_compares _ _ _ .above rfl, hmeaning, habove]
  · rw [evaluate_compares _ _ _ .below rfl, hmeaning, hbelow]

/-- The greatest number as a value, and the one below it as an output between blanks. -/
def ledger : Store :=
  (({} : Store).setVar "x" (.int 9223372036854775807)).setOutput "y" "\t+9223372036854775806\n"

/-- Two numbers that the same float is nearest to. -/
theorem evaluate_comparisons_ledger :
    Carries ledger "x" 9223372036854775807 ∧ Carries ledger "y" 9223372036854775806 ∧
      evaluate ledger.scope "$x > $y" = .ok true ∧
      evaluate ledger.scope "$x <= $y" = .ok false := by
  have hx : Carries ledger "x" 9223372036854775807 := .int rfl (by decide)
  have hy : Carries ledger "y" 9223372036854775806 := by
    refine .output rfl (t := "\t+9223372036854775806\n") rfl ?_ (by decide)
    exact ⟨['\t'], '+' :: Decimal.padded 0 9223372036854775806, ['\n'], by decide,
      List.forall_mem_singleton.2 rfl, .plus 0 9223372036854775806,
      List.forall_mem_singleton.2 rfl⟩
  obtain ⟨-, hatMost, habove, -⟩ :=
    evaluate_comparisons ⟨['x'], by decide, List.forall_mem_singleton.2 rfl⟩
      ⟨['y'], by decide, List.forall_mem_singleton.2 rfl⟩ hx hy
  exact ⟨hx, hy, habove, hatMost⟩

end RecipeRunner.Condition

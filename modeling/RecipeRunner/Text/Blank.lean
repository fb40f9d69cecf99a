/-!
# Blanks

White space and the removal of it from the ends of a text.  The law of trimming is that what
is removed is blank and that neither end of what is left is.
-/

namespace RecipeRunner.Text

/-- White space: the controls from tab to carriage return, the next-line control, and every
space, line and paragraph separator. -/
def isBlank (c : Char) : Bool :=
  let n := c.toNat
  (9 ≤ n && n ≤ 13) || n = 0x20 || n = 0x85 || n = 0xA0 || n = 0x1680 ||
    (0x2000 ≤ n && n ≤ 0x200A) || n = 0x2028 || n = 0x2029 || n = 0x202F || n = 0x205F ||
    n = 0x3000

/-- Drops the longest end of a list whose members all satisfy `p`. -/
def dropEndWhile {α : Type} (p : α → Bool) (xs : List α) : List α :=
  (xs.reverse.dropWhile p).reverse

/-- Removes blanks at the start. -/
def trimStart (cs : List Char) : List Char :=
  cs.dropWhile isBlank

/-- Removes blanks at the end. -/
def trimEnd (cs : List Char) : List Char :=
  dropEndWhile isBlank cs

/-- Removes blanks at both ends. -/
def trim (cs : List Char) : List Char :=
  trimEnd (trimStart cs)

/-- What is dropped from the end satisfies the predicate. -/
theorem dropEndWhile_append {α : Type} (p : α → Bool) (xs : List α) :
    ∃ dropped, xs = dropEndWhile p xs ++ dropped ∧ ∀ x ∈ dropped, p x = true := by
  refine ⟨(xs.reverse.takeWhile p).reverse, ?_, ?_⟩
  · rw [dropEndWhile, ← List.reverse_append, List.takeWhile_append_dropWhile,
      List.reverse_reverse]
  · intro x hx
    rw [List.mem_reverse] at hx
    exact List.all_eq_true.1 List.all_takeWhile x hx

/-- The last member that is left does not satisfy the predicate. -/
theorem getLast?_dropEndWhile {α : Type} (p : α → Bool) (xs : List α) :
    ∀ x ∈ (dropEndWhile p xs).getLast?, p x = false := by
  intro x hx
  simp only [dropEndWhile, List.getLast?_reverse] at hx
  have := List.head?_dropWhile_not p xs.reverse
  simp_all

end RecipeRunner.Text

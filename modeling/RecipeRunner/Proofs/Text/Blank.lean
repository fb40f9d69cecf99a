import RecipeRunner.Text.Blank
import Mathlib.Data.List.Basic
import Mathlib.Data.List.TakeWhile
/-!
# Trimming texts between blanks

A text whose ends are not blank is what trimming leaves of it between any blanks, and trimming
twice is trimming once.  Where texts in a row meet nothing is trimmed, unless only blanks meet.
-/

namespace RecipeRunner.Text

/-- Neither end of the text is blank.  The empty text has no ends. -/
def Tight (cs : List Char) : Prop :=
  (∀ c ∈ cs.head?, isBlank c = false) ∧ ∀ c ∈ cs.getLast?, isBlank c = false

theorem dropWhile_eq_self_of_head? {α : Type} {p : α → Bool} {xs : List α}
    (h : ∀ x ∈ xs.head?, p x = false) : xs.dropWhile p = xs := by
  cases xs with
  | nil => rfl
  | cons x xs => rw [List.dropWhile_cons_of_neg (by simpa using h x rfl)]

theorem dropEndWhile_append_of_all {α : Type} {p : α → Bool} {front rest : List α}
    (h : ∀ x ∈ rest, p x = true) : dropEndWhile p (front ++ rest) = dropEndWhile p front := by
  unfold dropEndWhile
  rw [List.reverse_append, List.dropWhile_append_of_pos]
  simpa using h

theorem dropEndWhile_eq_self_of_getLast? {α : Type} {p : α → Bool} {xs : List α}
    (h : ∀ x ∈ xs.getLast?, p x = false) : dropEndWhile p xs = xs := by
  unfold dropEndWhile
  rw [dropWhile_eq_self_of_head? (by simpa using h), List.reverse_reverse]

theorem trim_of_tight {cs : List Char} (h : Tight cs) : trim cs = cs := by
  unfold trim trimEnd trimStart
  rw [dropWhile_eq_self_of_head? h.1, dropEndWhile_eq_self_of_getLast? h.2]

theorem head?_dropEndWhile {α : Type} (p : α → Bool) (xs : List α) :
    ∀ x ∈ (dropEndWhile p xs).head?, x ∈ xs.head? := by
  obtain ⟨dropped, hxs, _⟩ := dropEndWhile_append p xs
  intro x hx
  rw [hxs, List.head?_append, Option.mem_def.1 hx]
  rfl

theorem tight_of_forall {cs : List Char} (h : ∀ c ∈ cs, isBlank c = false) : Tight cs :=
  ⟨fun c hc => h c (List.mem_of_mem_head? hc), fun c hc => h c (List.mem_of_getLast? hc)⟩

theorem tight_append {front back : List Char} (hfront : front ≠ []) (hback : back ≠ [])
    (hhead : ∀ c ∈ front.head?, isBlank c = false)
    (hlast : ∀ c ∈ back.getLast?, isBlank c = false) : Tight (front ++ back) := by
  refine ⟨fun c hc => ?_, fun c hc => ?_⟩
  · rw [List.head?_append_of_ne_nil _ hfront] at hc
    exact hhead c hc
  · rw [List.getLast?_append_of_ne_nil _ hback] at hc
    exact hlast c hc

theorem tight_cons {c : Char} {cs : List Char} (hc : isBlank c = false) (hcs : cs ≠ [])
    (hlast : ∀ c ∈ cs.getLast?, isBlank c = false) : Tight (c :: cs) := by
  have hhead : ∀ a ∈ [c].head?, isBlank a = false := by
    intro a ha
    obtain rfl := Option.some.inj ha
    exact hc
  exact tight_append (List.cons_ne_nil c []) hcs hhead hlast

theorem tight_trim (cs : List Char) : Tight (trim cs) := by
  refine ⟨fun c hc => ?_, getLast?_dropEndWhile _ _⟩
  have hstart : c ∈ (trimStart cs).head? := head?_dropEndWhile _ _ c hc
  have := List.head?_dropWhile_not isBlank cs
  rw [show cs.dropWhile isBlank = trimStart cs from rfl, Option.mem_def.1 hstart] at this
  simpa using this

@[simp] theorem trim_trim (cs : List Char) : trim (trim cs) = trim cs :=
  trim_of_tight (tight_trim cs)

/-- Trimming takes only blanks away. -/
theorem exists_eq_append_trim (cs : List Char) : ∃ before after, cs = before ++ trim cs ++ after ∧
    (∀ c ∈ before, isBlank c = true) ∧ ∀ c ∈ after, isBlank c = true := by
  obtain ⟨after, hafter, hblank⟩ := dropEndWhile_append isBlank (trimStart cs)
  refine ⟨cs.takeWhile isBlank, after, ?_, List.all_eq_true.1 List.all_takeWhile, hblank⟩
  have hstart : cs.takeWhile isBlank ++ trimStart cs = cs := List.takeWhile_append_dropWhile
  rw [trim, trimEnd, List.append_assoc, ← hafter, hstart]

/-- Blanks around a text do not matter to trimming. -/
theorem trim_between (before after : List Char) {cs : List Char}
    (hbefore : ∀ c ∈ before, isBlank c = true) (hcs : Tight cs)
    (hafter : ∀ c ∈ after, isBlank c = true) :
    trim (before ++ cs ++ after) = cs := by
  unfold trim trimEnd trimStart
  rw [List.append_assoc, List.dropWhile_append_of_pos hbefore]
  cases cs with
  | nil =>
    rw [List.nil_append, List.dropWhile_eq_nil_iff.2 hafter]
    rfl
  | cons c cs =>
    have hc : isBlank c = false := hcs.1 c rfl
    rw [List.cons_append, List.dropWhile_cons_of_neg (by simp [hc]), ← List.cons_append,
      dropEndWhile_append_of_all hafter, dropEndWhile_eq_self_of_getLast? hcs.2]

/-! ## Texts in a row -/

/-- No blanks are taken away where two texts meet: the first does not end with one, or the second
does not start with one. -/
def Meet (first second : List Char) : Prop :=
  (∃ c ∈ first.getLast?, isBlank c = false) ∨ ∃ c ∈ second.head?, isBlank c = false

theorem trimStart_append {first second : List Char} (h : Meet first second) :
    trimStart (first ++ second) = trimStart first ++ second := by
  unfold trimStart
  rw [List.dropWhile_append]
  split
  · next hfirst =>
    rcases h with ⟨c, hc, hblank⟩ | hsecond
    · have hnone := List.isEmpty_iff.1 hfirst
      have := List.dropWhile_eq_nil_iff.1 hnone c (List.mem_of_getLast? hc)
      rw [hblank] at this
      cases this
    · obtain ⟨c, hc, hblank⟩ := hsecond
      rw [List.isEmpty_iff.1 hfirst, dropWhile_eq_self_of_head?]
      · rfl
      · intro a ha
        rw [hc] at ha
        obtain rfl := Option.some.inj ha
        exact hblank
  · rfl

theorem trimEnd_append {first second : List Char} (h : Meet first second) :
    trimEnd (first ++ second) = first ++ trimEnd second := by
  unfold trimEnd dropEndWhile
  rw [List.reverse_append, List.dropWhile_append]
  split
  · next hsecond =>
    have hblank := List.dropWhile_eq_nil_iff.1 (List.isEmpty_iff.1 hsecond)
    rw [List.isEmpty_iff.1 hsecond]
    rcases h with ⟨c, hc, hc'⟩ | ⟨c, hc, hc'⟩
    · rw [dropWhile_eq_self_of_head?]
      · simp
      · intro a ha
        rw [List.head?_reverse, hc] at ha
        obtain rfl := Option.some.inj ha
        exact hc'
    · have := hblank c (List.mem_reverse.2 (List.mem_of_mem_head? hc))
      rw [hc'] at this
      cases this
  · simp

theorem trim_cons {c : Char} (hc : isBlank c = false) (cs : List Char) :
    trim (c :: cs) = c :: trimEnd cs := by
  have hstart : trimStart (c :: cs) = c :: cs :=
    List.dropWhile_cons_of_neg (by simp [hc])
  have hmeet : Meet [c] cs := .inl ⟨c, rfl, hc⟩
  rw [trim, hstart]
  exact trimEnd_append hmeet

theorem Meet.trimStart {first second : List Char} (h : Meet first second) :
    Meet (trimStart first) second := by
  refine h.imp (fun ⟨c, hc, hblank⟩ => ⟨c, ?_, hblank⟩) id
  obtain ⟨front, rfl⟩ := List.getLast?_eq_some_iff.1 hc
  have hc' : Meet front [c] := .inr ⟨c, rfl, hblank⟩
  rw [trimStart_append hc', List.getLast?_append]
  rfl

end RecipeRunner.Text

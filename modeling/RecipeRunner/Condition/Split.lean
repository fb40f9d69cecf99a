import RecipeRunner.Text.Search
/-!
# Splitting conditions

Where a condition is cut into operands: at an operator outside all parentheses.  Joining the
parts gives the text back, and every part is shorter than the text.
-/

namespace RecipeRunner.Condition

/-- Puts a character in front of the first part. -/
def consFirst (c : Char) : List (List Char) → List (List Char)
  | [] => [[c]]
  | part :: rest => (c :: part) :: rest

/-- The parts of a text between occurrences of an operator outside parentheses, if the
parentheses balance.  `depth` groups are open before the text, and its first `skip` characters
belong to the operator before it. -/
def partsFrom (op : List Char) : (skip depth : Nat) → List Char → Option (List (List Char))
  | _, depth, [] => if depth = 0 then some [[]] else none
  | skip + 1, depth, _ :: rest => partsFrom op skip depth rest
  | 0, depth, c :: rest =>
    if c = '(' then (partsFrom op 0 (depth + 1) rest).map (consFirst c)
    else if c = ')' then
      match depth with
      | 0 => none
      | depth + 1 => (partsFrom op 0 depth rest).map (consFirst c)
    else if depth = 0 && Text.startsWith op (c :: rest) then
      (partsFrom op (op.length - 1) 0 rest).map ([] :: ·)
    else (partsFrom op 0 depth rest).map (consFirst c)

/-- What splitting a text at an operator gives. -/
inductive Split where
  /-- The operator does not occur outside parentheses. -/
  | whole
  /-- The operator occurs, but the parentheses do not balance. -/
  | unbalanced
  | parts (operands : List (List Char))
  deriving DecidableEq, Repr

/-- Splits a text at an operator. -/
def split (op text : List Char) : Split :=
  if Text.occursIn op text then
    match partsFrom op 0 0 text with
    | none => .unbalanced
    | some (first :: second :: more) => .parts (first :: second :: more)
    | some _ => .whole
  else .whole

theorem consFirst_ne_nil (c : Char) (parts : List (List Char)) : consFirst c parts ≠ [] := by
  cases parts <;> simp [consFirst]

theorem partsFrom_ne_nil {op text : List Char} {skip depth : Nat} {parts : List (List Char)}
    (h : partsFrom op skip depth text = some parts) : parts ≠ [] := by
  fun_induction partsFrom op skip depth text generalizing parts with
  | case1 =>
    obtain rfl := Option.some.inj h
    simp
  | case2 => simp at h
  | case3 skip depth c rest ih => exact ih h
  | case5 => simp at h
  | case7 =>
    obtain ⟨tail, _, rfl⟩ := Option.map_eq_some_iff.1 h
    simp
  | _ =>
    obtain ⟨tail, _, rfl⟩ := Option.map_eq_some_iff.1 h
    exact consFirst_ne_nil _ _

theorem joinWith_consFirst (op : List Char) (c : Char) {parts : List (List Char)}
    (h : parts ≠ []) : Text.joinWith op (consFirst c parts) = c :: Text.joinWith op parts := by
  match parts, h with
  | [part], _ => rfl
  | part :: next :: rest, _ => simp [consFirst, Text.joinWith]

/-- Joining the parts gives the text back. -/
theorem joinWith_partsFrom {op text : List Char} {skip depth : Nat} {parts : List (List Char)}
    (hop : op ≠ []) (h : partsFrom op skip depth text = some parts) :
    Text.joinWith op parts = text.drop skip := by
  fun_induction partsFrom op skip depth text generalizing parts with
  | case1 =>
    obtain rfl := Option.some.inj h
    simp [Text.joinWith]
  | case2 => simp at h
  | case3 skip depth c rest ih => simpa using ih h
  | case5 => simp at h
  | case7 depth c rest _ _ hstarts ih =>
    obtain ⟨tail, htail, rfl⟩ := Option.map_eq_some_iff.1 h
    simp only [Bool.and_eq_true, decide_eq_true_eq] at hstarts
    obtain ⟨after, hafter⟩ := Option.isSome_iff_exists.1 hstarts.2
    have htext := Text.eq_append_of_afterStart? hafter
    rw [Text.joinWith_cons op [] (partsFrom_ne_nil htail), ih htail, List.drop_zero, htext]
    obtain ⟨o, os, rfl⟩ := List.exists_cons_of_ne_nil hop
    simp only [List.cons_append, List.cons.injEq] at htext
    simp [htext.2]
  | case4 _ _ ih | case6 _ _ _ ih | case8 _ _ _ _ _ _ ih =>
    obtain ⟨tail, htail, rfl⟩ := Option.map_eq_some_iff.1 h
    rw [joinWith_consFirst _ _ (partsFrom_ne_nil htail), ih htail]
    simp

theorem length_le_of_mem_joinWith {op part : List Char} {parts : List (List Char)}
    (h : part ∈ parts) : part.length ≤ (Text.joinWith op parts).length := by
  induction parts with
  | nil => simp at h
  | cons first rest ih =>
    by_cases hrest : rest = []
    · subst hrest
      simp_all [Text.joinWith]
    · rw [Text.joinWith_cons op first hrest]
      rcases List.mem_cons.1 h with rfl | h
      · simp only [List.length_append]; omega
      · have := ih h
        simp only [List.length_append]; omega

/-- Every part of a split is shorter than the text. -/
theorem length_lt_of_mem_split {op text part : List Char} {operands : List (List Char)}
    (hop : op ≠ []) (h : split op text = .parts operands) (hpart : part ∈ operands) :
    part.length < text.length := by
  simp only [split] at h
  split at h
  · split at h
    · simp at h
    · next first second more hparts =>
      obtain rfl := Split.parts.inj h
      have hjoin := joinWith_partsFrom hop hparts
      rw [List.drop_zero] at hjoin
      have hlen : 0 < op.length := List.length_pos_iff.2 hop
      rw [← hjoin, Text.joinWith_cons op first (by simp)]
      rcases List.mem_cons.1 hpart with rfl | hpart
      · simp only [List.length_append]; omega
      · have : part.length ≤ (Text.joinWith op (second :: more)).length :=
          length_le_of_mem_joinWith hpart
        simp only [List.length_append]; omega
    · simp at h
  · simp at h

end RecipeRunner.Condition

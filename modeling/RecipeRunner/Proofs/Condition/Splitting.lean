import RecipeRunner.Proofs.Condition.Unbalanced
/-!
# Splits of conditions

A split goes through a text once, from left to right, and ends a part at each operator that it meets
outside all groups.  So the parts are conditions in their own right: each closes the groups that it
opens, and the operator is left only inside groups.

* `OccursOutside`: an operator stands in a text where no group is open.
* `parted_partsFrom`: what the scan leaves behind, from any depth.
* `split_cases`: what a split comes to, and when.
-/

namespace RecipeRunner.Condition

open Text (occursIn joinWith startsWith)

/-- With `d` groups open before a text, an operator stands in it where no group is open. -/
def OccursBehind (d : Nat) (op cs : List Char) : Prop :=
  ∃ before after, cs = before ++ (op ++ after) ∧ Nested d before 0

/-- An operator stands in a text where no group is open. -/
def OccursOutside (op cs : List Char) : Prop :=
  ∃ before after, cs = before ++ (op ++ after) ∧ Balanced before

/-- What a split leaves of a text between operators: it closes the groups that it opens, and the
operator does not stand outside of them. -/
structure Unsplit (op cs : List Char) : Prop where
  balanced : Balanced cs
  notOutside : ¬OccursOutside op cs

/-- The first part closes the `d` groups that are open before it, and the operator does not stand in
it where all of them are closed.  The other parts begin outside all groups. -/
structure Parted (op : List Char) (d : Nat) (first : List Char) (more : List (List Char)) :
    Prop where
  nested : Nested d first 0
  notBehind : ¬OccursBehind d op first
  unsplit : ∀ part ∈ more, Unsplit op part

theorem Parted.unsplit_of_mem {op first part : List Char} {more : List (List Char)}
    (h : Parted op 0 first more) (hpart : part ∈ first :: more) : Unsplit op part := by
  rcases List.mem_cons.1 hpart with rfl | hpart
  · exact ⟨h.nested, h.notBehind⟩
  · exact h.unsplit part hpart

section

variable {op text first : List Char} {more : List (List Char)}

/-! ## The scan -/

theorem not_occursBehind_nil (hop : op ≠ []) (d : Nat) : ¬OccursBehind d op [] := by
  rintro ⟨before, after, heq, -⟩
  have hempty : before = [] ∧ op = [] ∧ after = [] := by simpa using heq
  exact hop hempty.2.1

/-- A character in front of the first part opens or closes a group, or leaves the depth as it is. -/
theorem Parted.cons {c : Char} {d e : Nat} (h : Parted op e first more)
    (hdepth : ∀ cs, Nested d (c :: cs) 0 ↔ Nested e cs 0)
    (hhere : d = 0 → ∀ after, c :: first ≠ op ++ after) : Parted op d (c :: first) more := by
  refine ⟨(hdepth first).2 h.nested, ?_, h.unsplit⟩
  rintro ⟨before, after, heq, hbefore⟩
  cases before with
  | nil =>
    cases hbefore
    exact hhere rfl after heq
  | cons b before =>
    obtain ⟨rfl, hfirst⟩ := List.cons.inj heq
    exact h.notBehind ⟨before, after, hfirst, (hdepth before).1 hbefore⟩

theorem cons_ne_append_of_not_mem (hop : op ≠ []) {c : Char} (hc : c ∉ op) (cs after : List Char) :
    c :: cs ≠ op ++ after := by
  intro heq
  obtain ⟨o, os, rfl⟩ := List.exists_cons_of_ne_nil hop
  obtain ⟨rfl, -⟩ := List.cons.inj heq
  exact hc List.mem_cons_self

theorem exists_partsFrom_of_map {skip depth : Nat} {c : Char}
    (h : (partsFrom op skip depth text).map (consFirst c) = some (first :: more)) :
    ∃ tail, partsFrom op skip depth text = some (tail :: more) ∧ first = c :: tail := by
  obtain ⟨parts, hparts, heq⟩ := Option.map_eq_some_iff.1 h
  obtain ⟨tail, rest, rfl⟩ := List.exists_cons_of_ne_nil (partsFrom_ne_nil hparts)
  obtain ⟨rfl, rfl⟩ := List.cons.inj heq
  exact ⟨tail, hparts, rfl⟩

/-- The first part is what the text begins with. -/
theorem exists_eq_append_of_partsFrom (hop : op ≠ []) {depth : Nat}
    (h : partsFrom op 0 depth text = some (first :: more)) : ∃ back, text = first ++ back := by
  have hjoin := joinWith_partsFrom hop h
  rw [List.drop_zero] at hjoin
  cases more with
  | nil => exact ⟨[], by rw [← hjoin, List.append_nil]; rfl⟩
  | cons next more =>
    refine ⟨op ++ joinWith op (next :: more), ?_⟩
    rw [← hjoin, Text.joinWith_cons op first (List.cons_ne_nil next more), List.append_assoc]

theorem exists_partsFrom_of_split {operands : List (List Char)}
    (h : split op text = .parts operands) : ∃ first second more,
      partsFrom op 0 0 text = some (first :: second :: more) ∧ operands = first :: second :: more := by
  unfold split at h
  split at h
  · split at h
    · cases h
    · next first second more hparts => exact ⟨first, second, more, hparts, (Split.parts.inj h).symm⟩
    · cases h
  · cases h

/-- The scan knows how deep the part is in which it is, and ends the part where that is zero. -/
theorem parted_partsFrom (hop : op ≠ []) (hopen : '(' ∉ op) (hclose : ')' ∉ op) {skip depth : Nat}
    (h : partsFrom op skip depth text = some (first :: more)) : Parted op depth first more := by
  fun_induction partsFrom op skip depth text generalizing first more with
  | case1 =>
    obtain ⟨rfl, rfl⟩ := List.cons.inj (Option.some.inj h)
    exact ⟨.nil, not_occursBehind_nil hop 0, List.forall_mem_nil _⟩
  | case2 => cases h
  | case3 skip depth c rest ih => exact ih h
  | case4 depth rest ih =>
    obtain ⟨tail, htail, rfl⟩ := exists_partsFrom_of_map h
    exact (ih htail).cons (fun _ => nested_open_iff) fun _ =>
      cons_ne_append_of_not_mem hop hopen tail
  | case5 => cases h
  | case6 rest depth _ ih =>
    obtain ⟨tail, htail, rfl⟩ := exists_partsFrom_of_map h
    exact (ih htail).cons (fun _ => nested_close_iff) fun _ =>
      cons_ne_append_of_not_mem hop hclose tail
  | case7 depth c rest _ _ hstarts ih =>
    obtain ⟨parts, hparts, heq⟩ := Option.map_eq_some_iff.1 h
    obtain ⟨rfl, rfl⟩ := List.cons.inj heq
    obtain ⟨next, others, rfl⟩ := List.exists_cons_of_ne_nil (partsFrom_ne_nil hparts)
    have hdepth : depth = 0 := by simpa using (Bool.and_eq_true_iff.1 hstarts).1
    subst hdepth
    exact ⟨.nil, not_occursBehind_nil hop 0, fun part => (ih hparts).unsplit_of_mem⟩
  | case8 depth c rest hopen' hclose' hstarts ih =>
    obtain ⟨tail, htail, rfl⟩ := exists_partsFrom_of_map h
    refine (ih htail).cons (fun _ => nested_plain_iff hopen' hclose') fun hdepth after heq => ?_
    -- an operator at this place would have ended the part
    obtain ⟨back, rfl⟩ := exists_eq_append_of_partsFrom hop htail
    apply hstarts
    rw [← List.cons_append, heq, List.append_assoc, startsWith, Text.afterStart?_append]
    simp [hdepth]

/-! ## Splits -/

theorem occursIn_iff_infix {cs : List Char} : occursIn op cs = true ↔ op <:+: cs := by
  rw [Text.occursIn_iff]
  constructor
  · rintro ⟨before, after, rfl⟩
    exact ⟨before, after, List.append_assoc _ _ _⟩
  · rintro ⟨before, after, rfl⟩
    exact ⟨before, after, List.append_assoc _ _ _⟩

/-- The parts, if there are any, are the text between operators, and so one of them is all of it. -/
theorem unsplit_of_partsFrom_singleton (hop : op ≠ []) (hopen : '(' ∉ op) (hclose : ')' ∉ op)
    (h : partsFrom op 0 0 text = some [first]) : Unsplit op text := by
  have hjoin := joinWith_partsFrom hop h
  rw [List.drop_zero] at hjoin
  rw [← hjoin]
  exact (parted_partsFrom hop hopen hclose h).unsplit_of_mem List.mem_cons_self

/-- Where there are two parts, an operator stands between them. -/
theorem not_unsplit_of_partsFrom (hop : op ≠ []) (hopen : '(' ∉ op) (hclose : ')' ∉ op)
    {second : List Char} (h : partsFrom op 0 0 text = some (first :: second :: more)) :
    ¬Unsplit op text := by
  intro hunsplit
  apply hunsplit.notOutside
  have hjoin := joinWith_partsFrom hop h
  rw [List.drop_zero, Text.joinWith_cons op first (List.cons_ne_nil second more),
    List.append_assoc] at hjoin
  exact ⟨first, _, hjoin.symm, (parted_partsFrom hop hopen hclose h).nested⟩

theorem partsFrom_ne_none (hop : op ≠ []) (hopen : '(' ∉ op) (hclose : ')' ∉ op)
    (h : Balanced text) : partsFrom op 0 0 text ≠ none :=
  Option.isSome_iff_ne_none.1 ((isSome_partsFrom_iff hop hopen hclose).2 h)

theorem split_eq_unbalanced_iff (hop : op ≠ []) (hopen : '(' ∉ op) (hclose : ')' ∉ op) :
    split op text = .unbalanced ↔ op <:+: text ∧ ¬Balanced text := by
  by_cases hbalanced : Balanced text
  · have hnot : split op text ≠ .unbalanced := by
      unfold split
      split
      · split
        · next hnone => exact absurd hnone (partsFrom_ne_none hop hopen hclose hbalanced)
        · simp
        · simp
      · simp
    exact iff_of_false hnot fun h => h.2 hbalanced
  · rw [split_of_not_balanced hbalanced hop hopen hclose, ← occursIn_iff_infix]
    split <;> simp_all

theorem split_eq_whole_iff (hop : op ≠ []) (hopen : '(' ∉ op) (hclose : ')' ∉ op) :
    split op text = .whole ↔ ¬op <:+: text ∨ Unsplit op text := by
  rw [← occursIn_iff_infix, split]
  by_cases hoccurs : occursIn op text = true
  · rw [if_pos hoccurs]
    have hnot : ¬occursIn op text = true ∨ Unsplit op text ↔ Unsplit op text :=
      or_iff_right (not_not.2 hoccurs)
    rw [hnot]
    split
    · next hnone =>
      exact iff_of_false (by simp) fun hunsplit =>
        partsFrom_ne_none hop hopen hclose hunsplit.balanced hnone
    · next hparts => exact iff_of_false (by simp) (not_unsplit_of_partsFrom hop hopen hclose hparts)
    · next parts hmany hparts =>
      refine iff_of_true rfl ?_
      obtain ⟨first, more, rfl⟩ := List.exists_cons_of_ne_nil (partsFrom_ne_nil hparts)
      cases more with
      | nil => exact unsplit_of_partsFrom_singleton hop hopen hclose hparts
      | cons second more => exact absurd rfl (hmany first second more)
  · rw [if_neg hoccurs]
    exact iff_of_true rfl (.inl hoccurs)

theorem unsplit_of_mem_split (hop : op ≠ []) (hopen : '(' ∉ op) (hclose : ')' ∉ op)
    {operands : List (List Char)} {part : List Char} (h : split op text = .parts operands)
    (hpart : part ∈ operands) : Unsplit op part := by
  obtain ⟨first, second, more, hparts, rfl⟩ := exists_partsFrom_of_split h
  exact (parted_partsFrom hop hopen hclose hparts).unsplit_of_mem hpart

end

/-- A split at a connective has at least two parts, which give the text when they are joined, are
shorter than it and are split no further.  The text stays whole if it lacks the connective or is
such a part itself, and it is refused if it has the connective but does not balance. -/
theorem split_cases {op : List Char} (hop : op ∈ connectives) (text : List Char) :
    (∀ operands, split op text = .parts operands →
      2 ≤ operands.length ∧ joinWith op operands = text ∧
        ∀ part ∈ operands, Unsplit op part ∧ part.length < text.length) ∧
    (split op text = .whole ↔ ¬op <:+: text ∨ Unsplit op text) ∧
    (split op text = .unbalanced ↔ op <:+: text ∧ ¬Balanced text) := by
  have hmarks : ∀ op ∈ connectives, op ≠ [] ∧ '(' ∉ op ∧ ')' ∉ op := by decide
  obtain ⟨hne, hopen, hclose⟩ := hmarks op hop
  refine ⟨fun operands h => ?_, split_eq_whole_iff hne hopen hclose,
    split_eq_unbalanced_iff hne hopen hclose⟩
  refine ⟨?_, ?_, fun part hpart =>
    ⟨unsplit_of_mem_split hne hopen hclose h hpart, length_lt_of_mem_split hne h hpart⟩⟩
  · obtain ⟨first, second, more, -, rfl⟩ := exists_partsFrom_of_split h
    simp
  · obtain ⟨first, second, more, hparts, rfl⟩ := exists_partsFrom_of_split h
    exact joinWith_partsFrom hne hparts

/-- The second conjunction of this text stands in a group, and the disjunction in it is no
conjunction. -/
theorem split_cases_group : ['&', '&'] ∈ connectives ∧
    split ['&', '&'] "a&&(b&&c)||d".toList = .parts ["a".toList, "(b&&c)||d".toList] ∧
    ∀ part ∈ ["a".toList, "(b&&c)||d".toList],
      Unsplit ['&', '&'] part ∧ part.length < "a&&(b&&c)||d".toList.length := by
  have hop : ['&', '&'] ∈ connectives := by decide
  have hsplit : split ['&', '&'] "a&&(b&&c)||d".toList =
      .parts ["a".toList, "(b&&c)||d".toList] := by decide
  exact ⟨hop, hsplit, ((split_cases hop _).1 _ hsplit).2.2⟩

end RecipeRunner.Condition

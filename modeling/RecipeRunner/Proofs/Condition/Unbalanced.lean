import RecipeRunner.Proofs.Condition.Atom
import RecipeRunner.Store
import Mathlib.Data.List.Infix
/-!
# Unbalanced conditions

Only a split looks at how parentheses nest, and it does so before it looks for the operator.  Any
unbalanced text in which a conjunction or a disjunction occurs is therefore refused.  Blanks, pairs
of parentheses and negations can be taken from it as long as there are any; what is left is not
balanced either.  It is refused unless one of the forms takes it whose operands are any text.

* `balanced_iff_count`: balance as a matter of counting.
* `isSome_partsFrom_iff`: a split succeeds on balanced texts only.
* `kernel`: what blanks, parentheses and negations leave of a text.
* `takesOperands`: the forms whose operands are any text.
* `evaluate_of_not_balanced`: which unbalanced conditions are refused.
-/

namespace RecipeRunner.Condition

open Text (trim trimmed occursIn endsWith)

/-! ## Counting parentheses -/

section Nested

variable {c : Char} {cs : List Char} {d e : Nat}

theorem nested_open_iff : Nested d ('(' :: cs) e ↔ Nested (d + 1) cs e := by
  refine ⟨fun h => ?_, .opens⟩
  cases h with
  | opens h => exact h
  | plain hopen => exact absurd rfl hopen

theorem nested_close_iff : Nested (d + 1) (')' :: cs) e ↔ Nested d cs e := by
  refine ⟨fun h => ?_, .closes⟩
  cases h with
  | closes h => exact h
  | plain _ hclose => exact absurd rfl hclose

theorem not_nested_close : ¬Nested 0 (')' :: cs) e := by
  intro h
  cases h with
  | plain _ hclose => exact hclose rfl

theorem nested_plain_iff (hopen : c ≠ '(') (hclose : c ≠ ')') :
    Nested d (c :: cs) e ↔ Nested d cs e := by
  refine ⟨fun h => ?_, .plain hopen hclose⟩
  cases h with
  | opens => exact absurd rfl hopen
  | closes => exact absurd rfl hclose
  | plain _ _ h => exact h

theorem forall_prefix_cons {P : List Char → Prop} : (∀ front, front <+: c :: cs → P front) ↔
    P [] ∧ ∀ front, front <+: cs → P (c :: front) := by
  constructor
  · exact fun h => ⟨h [] List.nil_prefix, fun front hfront =>
      h (c :: front) (List.cons_prefix_cons.2 ⟨rfl, hfront⟩)⟩
  · rintro ⟨hnil, hcons⟩ front hfront
    rcases List.prefix_cons_iff.1 hfront with rfl | ⟨rest, rfl, hrest⟩
    · exact hnil
    · exact hcons rest hrest

/-- The groups that are open behind a text are those before it and those that it opens, less those
that it closes, and at no place in it there are more closed than opened. -/
theorem nested_iff_count : Nested d cs e ↔
    (∀ front, front <+: cs → front.count ')' ≤ d + front.count '(') ∧
      d + cs.count '(' = cs.count ')' + e := by
  induction cs generalizing d with
  | nil =>
    refine ⟨fun h => ?_, fun ⟨_, h⟩ => ?_⟩
    · cases h
      simp
    · obtain rfl : d = e := by simpa using h
      exact .nil
  | cons c cs ih =>
    rw [forall_prefix_cons]
    by_cases hopen : c = '('
    · subst hopen
      rw [nested_open_iff, ih]
      simp [Nat.add_assoc, Nat.add_comm 1]
    · by_cases hclose : c = ')'
      · subst hclose
        cases d with
        | zero =>
          refine iff_of_false not_nested_close fun ⟨⟨_, hfront⟩, _⟩ => ?_
          simpa using hfront [] List.nil_prefix
        | succ d =>
          have hless : ∀ front : List Char, (')' :: front).count ')' ≤
              d + 1 + (')' :: front).count '(' ↔ front.count ')' ≤ d + front.count '(' := by
            intro front
            rw [List.count_cons_self, List.count_cons_of_ne (by decide)]
            omega
          have hsame : d + 1 + (')' :: cs).count '(' = (')' :: cs).count ')' + e ↔
              d + cs.count '(' = cs.count ')' + e := by
            rw [List.count_cons_self, List.count_cons_of_ne (by decide)]
            omega
          rw [nested_close_iff, ih, hsame]
          simp only [hless, List.count_nil, Nat.zero_le, true_and]
      · rw [nested_plain_iff hopen hclose, ih]
        simp [hopen, hclose]

end Nested

/-- A text is balanced if no front of it closes more groups than it opens, and all of it closes as
many as it opens. -/
theorem balanced_iff_count {cs : List Char} : Balanced cs ↔
    (∀ front, front <+: cs → front.count ')' ≤ front.count '(') ∧
      cs.count '(' = cs.count ')' := by
  rw [Balanced, nested_iff_count]
  simp

/-! ## What a split sees -/

/-- A text without parentheses in front of another one does not matter. -/
theorem nested_append_iff {front : List Char} (hopen : '(' ∉ front) (hclose : ')' ∉ front)
    {cs : List Char} {d e : Nat} : Nested d (front ++ cs) e ↔ Nested d cs e := by
  induction front with
  | nil => rfl
  | cons c front ih =>
    simp only [List.mem_cons, not_or] at hopen hclose
    rw [List.cons_append, nested_plain_iff (Ne.symm hopen.1) (Ne.symm hclose.1),
      ih hopen.2 hclose.2]

/-- A split succeeds on the texts that close every open group, and no other. -/
theorem isSome_partsFrom_iff {op text : List Char} {skip depth : Nat} (hop : op ≠ [])
    (hopen : '(' ∉ op) (hclose : ')' ∉ op) :
    (partsFrom op skip depth text).isSome = true ↔ Nested depth (text.drop skip) 0 := by
  fun_induction partsFrom op skip depth text with
  | case1 skip => simpa using Nested.nil
  | case2 skip depth hdepth =>
    rw [List.drop_nil, nested_iff_count]
    simp [hdepth]
  | case3 skip depth c rest ih => exact ih
  | case4 depth rest ih =>
    rw [Option.isSome_map, ih, List.drop_zero, List.drop_zero, nested_open_iff]
  | case5 rest => simp [not_nested_close]
  | case6 rest depth _ ih =>
    rw [Option.isSome_map, ih, List.drop_zero, List.drop_zero, nested_close_iff]
  | case7 depth c rest _ _ hstarts ih =>
    simp only [Bool.and_eq_true, decide_eq_true_eq] at hstarts
    obtain ⟨rfl, hstarts⟩ := hstarts
    obtain ⟨after, hafter⟩ := Option.isSome_iff_exists.1 hstarts
    have htext := Text.eq_append_of_afterStart? hafter
    obtain ⟨o, os, rfl⟩ := List.exists_cons_of_ne_nil hop
    obtain ⟨rfl, hrest⟩ := List.cons.inj htext
    rw [Option.isSome_map, ih, List.drop_zero, htext, nested_append_iff hopen hclose, hrest]
    simp
  | case8 depth c rest hopen' hclose' _ ih =>
    rw [Option.isSome_map, ih, List.drop_zero, List.drop_zero, nested_plain_iff hopen' hclose']

/-- Whether a text is balanced is found by splitting it. -/
instance decidableBalanced (cs : List Char) : Decidable (Balanced cs) :=
  decidable_of_iff ((partsFrom ['&', '&'] 0 0 cs).isSome = true)
    (isSome_partsFrom_iff (List.cons_ne_nil _ _) (by decide) (by decide))

/-- An operator in an unbalanced text is refused, wherever it stands. -/
theorem split_of_not_balanced {op cs : List Char} (h : ¬Balanced cs) (hop : op ≠ [])
    (hopen : '(' ∉ op) (hclose : ')' ∉ op) :
    split op cs = if occursIn op cs then .unbalanced else .whole := by
  have hnone : partsFrom op 0 0 cs = none := by
    rw [← Option.not_isSome_iff_eq_none, isSome_partsFrom_iff hop hopen hclose]
    exact h
  rw [split, hnone]

/-! ## Blanks, parentheses and negations -/

theorem balanced_of_isBlank {blanks : List Char} (h : ∀ c ∈ blanks, Text.isBlank c = true) :
    Balanced blanks :=
  balanced_of_plain (fun hmem => absurd (h _ hmem) (by decide))
    fun hmem => absurd (h _ hmem) (by decide)

theorem balanced_of_trim {cs : List Char} (h : Balanced (trim cs)) : Balanced cs := by
  obtain ⟨before, after, heq, hbefore, hafter⟩ := Text.exists_eq_append_trim cs
  rw [heq]
  exact ((balanced_of_isBlank hbefore).append h).append (balanced_of_isBlank hafter)

theorem exists_eq_group {cs : List Char} (h : isGroup cs = true) :
    ∃ inside, cs = group inside ∧ groupInside cs = trim inside := by
  unfold isGroup at h
  simp only [Bool.and_eq_true, decide_eq_true_eq] at h
  obtain ⟨⟨hopen, hclose⟩, -⟩ := h
  obtain ⟨front, rfl⟩ := List.getLast?_eq_some_iff.1 hclose
  cases front with
  | nil => simp at hopen
  | cons c inside =>
    obtain rfl : c = '(' := by simpa using hopen
    exact ⟨inside, rfl, by simp [groupInside]⟩

theorem balanced_of_ungroup {cs : List Char} (h : Balanced (ungroup cs)) : Balanced cs := by
  fun_induction ungroup cs with
  | case1 cs hgroup _ ih =>
    obtain ⟨inside, rfl, hinside⟩ := exists_eq_group hgroup
    rw [hinside] at ih h
    exact (balanced_of_trim (ih h)).group
  | case2 => exact h

theorem balanced_of_core {cs : List Char} (h : Balanced (core cs)) : Balanced cs :=
  balanced_of_trim (balanced_of_ungroup h)

theorem balanced_of_afterNot? {cs rest : List Char} (hnot : afterNot? cs = some rest)
    (h : Balanced rest) : Balanced cs := by
  unfold afterNot? at hnot
  split at hnot
  · split at hnot
    · cases hnot
    · obtain rfl := Option.some.inj hnot
      exact .plain (by decide) (by decide) h
  · cases hnot

/-! ## Operators inside -/

section Operator

variable {mark cs : List Char}

theorem occursIn_trim (hmark : mark ≠ []) (hblank : ∀ c ∈ mark, Text.isBlank c = false)
    (h : occursIn mark cs = true) : occursIn mark (trim cs) = true := by
  obtain ⟨before, after, heq, hbefore, hafter⟩ := Text.exists_eq_append_trim cs
  have hnotMem : ∀ {c} {blanks : List Char}, c ∈ mark →
      (∀ c ∈ blanks, Text.isBlank c = true) → c ∉ blanks := by
    intro c blanks hc hblanks hmem
    have := hblank c hc
    rw [hblanks c hmem] at this
    cases this
  rw [heq] at h
  exact Text.occursIn_of_between hmark (hnotMem (List.head_mem hmark) hbefore)
    (hnotMem (List.getLast_mem hmark) hafter) h

/-- An operator is found in the core of a text if it is found in the text. -/
theorem occursIn_core (hmark : mark ≠ []) (hblank : ∀ c ∈ mark, Text.isBlank c = false)
    (hopen : '(' ∉ mark) (hclose : ')' ∉ mark) (h : occursIn mark cs = true) :
    occursIn mark (core cs) = true := by
  have hhead : mark.head hmark ∉ ['('] := fun hmem =>
    hopen (List.mem_singleton.1 hmem ▸ List.head_mem hmark)
  have hlast : mark.getLast hmark ∉ [')'] := fun hmem =>
    hclose (List.mem_singleton.1 hmem ▸ List.getLast_mem hmark)
  have hungroup : ∀ cs, occursIn mark cs = true → occursIn mark (ungroup cs) = true := by
    intro cs
    fun_induction ungroup cs with
    | case1 cs hgroup _ ih =>
      intro h
      obtain ⟨inside, rfl, hinside⟩ := exists_eq_group hgroup
      rw [hinside] at ih ⊢
      have hbetween : occursIn mark (['('] ++ inside ++ [')']) = true := h
      exact ih (occursIn_trim hmark hblank
        (Text.occursIn_of_between hmark hhead hlast hbetween))
    | case2 => exact id
  exact hungroup _ (occursIn_trim hmark hblank h)

end Operator

/-! ## What is left -/

/-- What blanks, pairs of parentheses and negations leave of a text. -/
def kernel (cs : List Char) : List Char :=
  have _ := length_core_le cs
  match hnot : afterNot? (core cs) with
  | some rest =>
    have := length_afterNot? hnot
    kernel rest
  | none => core cs
termination_by cs.length

theorem kernel_eq_self {cs : List Char} (hcore : core cs = cs) (hnot : afterNot? cs = none) :
    kernel cs = cs := by
  rw [kernel]
  split
  · next hrest =>
    rw [hcore, hnot] at hrest
    cases hrest
  · exact hcore

/-- A number is what an operand stands for. -/
def isNumeric (s : Scope) (operand : List Char) : Bool :=
  (Number.ofChars? (resolve s operand)).isSome

/-- One of the forms whose operands are any text takes a text: a comparison of numbers, a test for
a result, or an equality. -/
def takesOperands (s : Scope) (cs : List Char) : Bool :=
  match numericCut? cs with
  | some (_, left, right) => isNumeric s left && isNumeric s right
  | none =>
    endsWith ".success".toList cs || endsWith ".failure".toList cs || occursIn ['!', '='] cs ||
      occursIn ['=', '='] cs

theorem operandNumber_of_isNumeric_eq_false {s : Scope} (text : List Char) {operand : List Char}
    (h : isNumeric s operand = false) :
    ∃ f, operandNumber s text operand = .error (.unsupportedCondition f) := by
  unfold isNumeric at h
  rw [Option.isSome_eq_false_iff, Option.isNone_iff_eq_none] at h
  simp only [operandNumber, h]
  exact ⟨_, rfl⟩

theorem operandNumber_of_isNumeric {s : Scope} (text : List Char) {operand : List Char}
    (h : isNumeric s operand = true) : ∃ n, operandNumber s text operand = .ok n := by
  obtain ⟨n, hn⟩ := Option.isSome_iff_exists.1 h
  exact ⟨n, by simp only [operandNumber, hn]⟩

/-- What no form takes is no condition. -/
theorem evalAtom_of_takesOperands_eq_false {s : Scope} {cs : List Char}
    (h : takesOperands s cs = false) (htrue : cs ≠ "true".toList) (hfalse : cs ≠ "false".toList) :
    ∃ f, evalAtom s cs = .error (.unsupportedCondition f) := by
  unfold takesOperands at h
  split at h
  · next op left right hcut =>
    rw [evalAtom_of_numeric s hcut]
    rcases hleft : isNumeric s left with _ | _
    · obtain ⟨f, hf⟩ := operandNumber_of_isNumeric_eq_false cs hleft
      exact ⟨f, by rw [hf]; rfl⟩
    · obtain ⟨n, hn⟩ := operandNumber_of_isNumeric cs hleft
      have hright : isNumeric s right = false := by simpa [hleft] using h
      obtain ⟨f, hf⟩ := operandNumber_of_isNumeric_eq_false cs hright
      exact ⟨f, by rw [hn, hf]; rfl⟩
  · next hcut =>
    unfold numericCut? at hcut
    simp only [Bool.or_eq_false_iff, endsWith, occursIn, Option.isSome_eq_false_iff,
      Option.isNone_iff_eq_none] at h
    obtain ⟨⟨⟨hsuccess, hfailure⟩, hdiffers⟩, hequals⟩ := h
    simp only [evalAtom, hcut, hsuccess, hfailure, evalEquality, hdiffers, hequals, if_neg htrue,
      if_neg hfalse]
    exact ⟨_, rfl⟩

/-- The operators of conjunctions and disjunctions. -/
def connectives : List (List Char) :=
  [['&', '&'], ['|', '|']]

/-- A conjunction or a disjunction occurs in a text, inside a group or outside. -/
def HasConnective (cs : List Char) : Prop :=
  ∃ op ∈ connectives, occursIn op cs = true

instance decidableHasConnective (cs : List Char) : Decidable (HasConnective cs) :=
  List.decidableBEx _ _

theorem hasConnective_core {cs : List Char} (h : HasConnective cs) : HasConnective (core cs) := by
  have hmarks : ∀ op ∈ connectives, op ≠ [] ∧ '(' ∉ op ∧ ')' ∉ op ∧
      ∀ c ∈ op, Text.isBlank c = false := by
    simp only [connectives, List.forall_mem_cons]
    decide
  obtain ⟨op, hop, hoccurs⟩ := h
  obtain ⟨hne, hopen, hclose, hblank⟩ := hmarks op hop
  exact ⟨op, hop, occursIn_core hne hblank hopen hclose hoccurs⟩

/-- An unbalanced text is split nowhere: it is refused, or it is a negation or an atom. -/
theorem eval_of_core_not_balanced (s : Scope) {cs : List Char} (h : ¬Balanced (core cs)) :
    eval s cs =
      if HasConnective (core cs) then .error (fault .unbalanced (core cs))
      else
        match afterNot? (core cs) with
        | some rest => (eval s rest).map (!·)
        | none => evalAtom s (core cs) := by
  have hsplit : ∀ op ∈ connectives,
      split op (core cs) = if occursIn op (core cs) then .unbalanced else .whole := by
    have hmarks : ∀ op ∈ connectives, op ≠ [] ∧ '(' ∉ op ∧ ')' ∉ op := by decide
    exact fun op hop => split_of_not_balanced h (hmarks op hop).1 (hmarks op hop).2.1
      (hmarks op hop).2.2
  rw [eval_eq, hsplit ['&', '&'] (by decide), hsplit ['|', '|'] (by decide)]
  by_cases hand : occursIn ['&', '&'] (core cs) = true
  · have hconnective : HasConnective (core cs) := ⟨_, by decide, hand⟩
    rw [if_pos hand, if_pos hconnective]
  · by_cases hor : occursIn ['|', '|'] (core cs) = true
    · have hconnective : HasConnective (core cs) := ⟨_, by decide, hor⟩
      rw [if_neg hand, if_pos hor, if_pos hconnective]
    · have hnone : ¬HasConnective (core cs) := by simp [HasConnective, connectives, hand, hor]
      rw [if_neg hand, if_neg hor]
      exact (if_neg hnone).symm

/-- An unbalanced text is refused if a connective occurs in it, and else if no form takes what is
left of it. -/
theorem eval_of_not_balanced {s : Scope} {cs : List Char} (h : ¬Balanced cs)
    (hform : HasConnective cs ∨ takesOperands s (kernel cs) = false) :
    ∃ f, eval s cs = .error (.unsupportedCondition f) := by
  have hcore : ∀ {cs}, ¬Balanced cs → ¬Balanced (core cs) := mt balanced_of_core
  fun_induction kernel cs with
  | case1 cs _ rest hnot _ ih =>
    rw [eval_of_core_not_balanced s (hcore h)]
    split
    · exact ⟨_, rfl⟩
    · next hnone =>
      have hrest := hform.resolve_left fun hconnective => hnone (hasConnective_core hconnective)
      obtain ⟨f, hf⟩ := ih (mt (balanced_of_afterNot? hnot) (hcore h)) (.inr hrest)
      simp only [hnot, hf]
      exact ⟨f, rfl⟩
  | case2 cs _ hnot =>
    rw [eval_of_core_not_balanced s (hcore h)]
    split
    · exact ⟨_, rfl⟩
    · next hnone =>
      have hatom := hform.resolve_left fun hconnective => hnone (hasConnective_core hconnective)
      have hword : ∀ word ∈ ["true", "false"], core cs ≠ word.toList := by
        have hbalanced : ∀ word ∈ ["true", "false"], Balanced word.toList := by decide
        exact fun word hword heq => hcore h (heq ▸ hbalanced word hword)
      simp only [hnot]
      exact evalAtom_of_takesOperands_eq_false hatom (hword "true" (by decide))
        (hword "false" (by decide))

/-- An unbalanced condition without templates is refused if a connective occurs in it, and else if
what blanks, parentheses and negations leave of it is no comparison of numbers, no test for a result
and no equality. -/
theorem evaluate_of_not_balanced {s : Scope} {condition : String}
    (hplain : Template.hasTemplate condition = false) (h : ¬Balanced condition.toList)
    (hform : HasConnective condition.toList ∨
      takesOperands s (kernel condition.toList) = false) :
    ∃ f, evaluate s condition = .error (.unsupportedCondition f) := by
  have hempty : (trimmed condition).isEmpty = false := by
    by_contra hempty
    have htrim : trim condition.toList = [] := by simpa [trimmed] using hempty
    refine h (balanced_of_trim ?_)
    rw [htrim]
    exact .nil
  rw [evaluate_of_plain s hempty hplain]
  exact eval_of_not_balanced h hform

theorem evaluate_open_true :
    Template.hasTemplate "(true" = false ∧ ¬Balanced "(true".toList ∧
      takesOperands (Store.scope {}) (kernel "(true".toList) = false ∧
      ∃ f, evaluate (Store.scope {}) "(true" = .error (.unsupportedCondition f) := by
  have hplain : Template.hasTemplate "(true" = false := by decide
  have hbalanced : ¬Balanced "(true".toList := by decide
  have hcore : core "(true".toList = "(true".toList := core_of_unblank (by decide) (by decide)
  have hform : takesOperands (Store.scope {}) (kernel "(true".toList) = false := by
    rw [kernel_eq_self hcore (by decide)]
    decide
  exact ⟨hplain, hbalanced, hform, evaluate_of_not_balanced hplain hbalanced (.inr hform)⟩

/-- A literal is any text, so an equality with a parenthesis holds where the variable is one. -/
theorem evaluate_equals_parenthesis :
    Template.hasTemplate "$x == \")\"" = false ∧ ¬Balanced "$x == \")\"".toList ∧
      evaluate (Store.setVar {} "x" (.str ")")).scope "$x == \")\"" = .ok true := by
  have hplain : Template.hasTemplate "$x == \")\"" = false := by decide
  have hcore : core "$x == \")\"".toList = "$x == \")\"".toList :=
    core_eq_self ⟨by decide, by decide⟩ (by decide)
  refine ⟨hplain, by decide, ?_⟩
  rw [evaluate_of_plain _ (by decide) hplain, eval_of_atom _ hcore (by decide) (by decide)
    (by decide)]
  rfl

end RecipeRunner.Condition

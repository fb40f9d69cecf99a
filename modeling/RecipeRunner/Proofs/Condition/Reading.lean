import RecipeRunner.Proofs.Condition.Atom
import RecipeRunner.Proofs.Condition.FloatOrder
/-!
# Reading formulas

What a formula is written as evaluates to its meaning, by induction on the formula.  The induction
carries, besides the value, what the scans need to know of the text around the formula: that it
balances and is not held by one pair of parentheses, and which operators it shows outside all
groups.

* `Number.reads_iff`: the number that a text stands for is what it is read as.
* `evalAtom_print`: what an atom is written as evaluates to its meaning.
* `evaluate_text`: the evaluation of a written formula is the meaning of the formula.
-/

namespace RecipeRunner.Condition

open Text (trim Tight isBlank joinWith)

/-! ## Numbers -/

namespace Number

variable {cs : List Char} {x : Number}

theorem readBounded?_eq_none_iff :
    Decimal.readBounded? cs = none ↔ ∀ n, Decimal.Spells n cs → Decimal.fits n = false := by
  simp only [Option.eq_none_iff_forall_ne_some, ne_eq, Decimal.readBounded?_eq_some_iff, not_and,
    Bool.not_eq_true]

theorem Reads.ofChars?_eq (h : Reads cs x) (htrim : trim cs = cs) : ofChars? cs = some x := by
  rw [ofChars?, htrim]
  cases h with
  | absent => rfl
  | @whole _ n hspells hfits =>
    have hread : Decimal.readBounded? cs = some n :=
      Decimal.readBounded?_eq_some_iff.2 ⟨hspells, hfits⟩
    have hword : cs ≠ ['f', 'a', 'l', 's', 'e'] := by
      rintro rfl
      have hnone : Decimal.readBounded? ['f', 'a', 'l', 's', 'e'] = none := by decide
      rw [hnone] at hread
      cases hread
    rw [if_neg hword, hread]
  | @float _ x hwhole hread hfinite =>
    have hword : cs ≠ ['f', 'a', 'l', 's', 'e'] := by
      rintro rfl
      have hnone : Decimal.readFloat? ['f', 'a', 'l', 's', 'e'] = none := by decide
      rw [hnone] at hread
      cases hread
    rw [if_neg hword, readBounded?_eq_none_iff.2 hwhole, hread]
    simp [hfinite]

theorem reads_of_ofChars? (h : ofChars? cs = some x) (htrim : trim cs = cs) : Reads cs x := by
  rw [ofChars?, htrim] at h
  split at h
  · next hword =>
    rw [hword, ← Option.some.inj h]
    exact .absent
  cases hread : Decimal.readBounded? cs with
  | some n =>
    rw [hread] at h
    obtain ⟨hspells, hfits⟩ := Decimal.readBounded?_eq_some_iff.1 hread
    rw [← Option.some.inj h]
    exact .whole hspells hfits
  | none =>
    rw [hread] at h
    simp only [Option.map_eq_some_iff, Option.filter_eq_some_iff] at h
    obtain ⟨y, ⟨hfloat, hfinite⟩, rfl⟩ := h
    exact .float (readBounded?_eq_none_iff.1 hread) hfloat hfinite

/-- The number that a text stands for is what it is read as. -/
theorem reads_iff (htrim : trim cs = cs) : Reads cs x ↔ ofChars? cs = some x :=
  ⟨fun h => h.ofChars?_eq htrim, fun h => reads_of_ofChars? h htrim⟩

theorem Reads.isNaN_toFloat (h : Reads cs x) : x.toFloat.isNaN = false := by
  cases h with
  | absent => exact isNaN_of_represents (Decimal.represents_of_fits (n := 0) (by decide))
  | whole _ hfits => exact isNaN_of_represents (Decimal.represents_of_fits hfits)
  | float _ _ hfinite => exact isNaN_of_isFinite hfinite

end Number

namespace Word

variable (w : Word)

theorem trim_value (s : Scope) : trim (w.value s) = w.value s := by
  unfold value
  split
  · exact Text.trim_trim _
  · rfl

theorem number_eq (s : Scope) (a : Atom) : w.number s a =
    match Number.ofChars? (w.value s) with
    | some x => .ok x
    | none => .error (.unsupportedCondition
        (.notNumeric (String.ofList a.print) (String.ofList (w.value s)))) := by
  unfold number
  by_cases h : ∃ x, Number.Reads (w.value s) x
  · rw [dif_pos h, (Number.reads_iff (w.trim_value s)).1 h.choose_spec]
  · have hnone : Number.ofChars? (w.value s) = none :=
      Option.eq_none_iff_forall_ne_some.2 fun x hx =>
        h ⟨x, (Number.reads_iff (w.trim_value s)).2 hx⟩
    rw [dif_neg h, hnone]

theorem isNaN_of_number {s : Scope} {a : Atom} {x : Number} (h : w.number s a = .ok x) :
    x.toFloat.isNaN = false := by
  unfold number at h
  split at h
  · next hreads =>
    obtain rfl := Except.ok.inj h
    exact hreads.choose_spec.isNaN_toFloat
  · cases h

theorem operandNumber_eq (s : Scope) (a : Atom) {operand : List Char}
    (h : trim operand = '$' :: w.chars) :
    operandNumber s a.print operand = w.number s a := by
  rw [w.number_eq, operandNumber, w.resolve_eq s h]
  rfl

end Word

theorem evalAtom_compares (s : Scope) (left right : Word) (op : Comparison) :
    evalAtom s (Atom.compares left op right).print = (Atom.compares left op right).meaning s := by
  have hside : ∀ (w : Word) (c : Char), c ∈ ['=', '<', '>'] →
      c ∉ '$' :: w.chars ++ [' '] ∧ c ∉ ' ' :: '$' :: w.chars := by
    intro w c hc
    have hword : isWordChar c = false := by
      have hall : ∀ c ∈ ['=', '<', '>'], isWordChar c = false :=
        List.all_iff_forall_prop.1 (by decide)
      exact hall c hc
    have hothers : c ≠ ' ' ∧ c ≠ '$' := by
      have hall : ∀ c ∈ ['=', '<', '>'], c ≠ ' ' ∧ c ≠ '$' :=
        List.all_iff_forall_prop.1 (by decide)
      exact hall c hc
    simp [w.notMem hword, hothers]
  have hcut : numericCut? (Atom.compares left op right).print =
      some (op, '$' :: left.chars ++ [' '], ' ' :: '$' :: right.chars) :=
    numericCut?_append op (fun c hc => (hside left c hc).1) (fun c hc => (hside right c hc).2)
  rw [evalAtom_of_numeric s hcut, left.operandNumber_eq s _ left.trim_left,
    right.operandNumber_eq s _ right.trim_right, Atom.meaning]
  cases hleft : left.number s (.compares left op right) with
  | error e => rfl
  | ok x =>
    cases hright : right.number s (.compares left op right) with
    | error e => rfl
    | ok y =>
      exact congrArg Except.ok (op.holds_compare_eq (left.isNaN_of_number hleft)
        (right.isNaN_of_number hright))

/-- What an atom is written as evaluates to its meaning. -/
theorem evalAtom_print (s : Scope) (a : Atom) : evalAtom s a.print = a.meaning s := by
  cases a with
  | constant value =>
    cases value with
    | false => exact evalAtom_eq_evalEquality s (List.all_iff_forall_prop.1 (by decide))
    | true => exact evalAtom_eq_evalEquality s (List.all_iff_forall_prop.1 (by decide))
  | succeeded id => exact evalAtom_succeeded s id
  | failed id => exact evalAtom_failed s id
  | compares left op right => exact evalAtom_compares s left right op
  | equals name literal => exact evalAtom_equals s name literal
  | differs name literal => exact evalAtom_differs s name literal

/-! ## Joined texts -/

theorem mem_joinWith {sep : List Char} {parts : List (List Char)} {c : Char}
    (h : c ∈ joinWith sep parts) : c ∈ sep ∨ ∃ part ∈ parts, c ∈ part := by
  induction parts with
  | nil => simp [joinWith] at h
  | cons part rest ih =>
    by_cases hrest : rest = []
    · subst hrest
      exact .inr ⟨part, List.mem_cons_self, h⟩
    · rw [Text.joinWith_cons sep part hrest, List.mem_append, List.mem_append] at h
      rcases h with (h | h) | h
      · exact .inr ⟨part, List.mem_cons_self, h⟩
      · exact .inl h
      · rcases ih h with h | ⟨other, hother, h⟩
        · exact .inl h
        · exact .inr ⟨other, List.mem_cons_of_mem _ hother, h⟩

theorem balanced_joinWith {sep : List Char} {parts : List (List Char)} (hsep : Balanced sep)
    (h : ∀ part ∈ parts, Balanced part) : Balanced (joinWith sep parts) := by
  induction parts with
  | nil => exact .nil
  | cons part rest ih =>
    have hpart := h part List.mem_cons_self
    by_cases hrest : rest = []
    · subst hrest
      exact hpart
    · rw [Text.joinWith_cons sep part hrest]
      have hrest := ih fun other hother => h other (List.mem_cons_of_mem _ hother)
      exact (hpart.append hsep).append hrest

theorem notMem_outside_joinWith {sep : List Char} {parts : List (List Char)} {c : Char}
    (hsep : Balanced sep) (h : ∀ part ∈ parts, Balanced part) (hcsep : c ∉ sep)
    (hc : ∀ part ∈ parts, c ∉ outside 0 part) : c ∉ outside 0 (joinWith sep parts) := by
  induction parts with
  | nil => simp [joinWith, outside]
  | cons part rest ih =>
    have hpart := h part List.mem_cons_self
    have hcpart := hc part List.mem_cons_self
    by_cases hrest : rest = []
    · subst hrest
      exact hcpart
    · have hcrest := ih (fun other hother => h other (List.mem_cons_of_mem _ hother))
        (fun other hother => hc other (List.mem_cons_of_mem _ hother))
      have hcsep : c ∉ outside 0 sep := fun hmem => hcsep (mem_of_mem_outside hmem)
      rw [Text.joinWith_cons sep part hrest, outside_append (hpart.append hsep),
        outside_append hpart]
      simp [hcpart, hcsep, hcrest]

theorem tight_joinWith {sep : List Char} {parts : List (List Char)}
    (hne : ∀ part ∈ parts, part ≠ [])
    (h : ∀ part ∈ parts, Tight part) : Tight (joinWith sep parts) := by
  induction parts with
  | nil => exact ⟨by simp [joinWith], by simp [joinWith]⟩
  | cons part rest ih =>
    have hpart := h part List.mem_cons_self
    have hpartne := hne part List.mem_cons_self
    by_cases hrest : rest = []
    · subst hrest
      exact hpart
    · have htail := ih (fun other hother => hne other (List.mem_cons_of_mem _ hother))
        (fun other hother => h other (List.mem_cons_of_mem _ hother))
      have htailne : joinWith sep rest ≠ [] := by
        obtain ⟨next, more, rfl⟩ := List.exists_cons_of_ne_nil hrest
        have hnext : next ≠ [] := hne next (by simp)
        cases more with
        | nil => exact hnext
        | cons other more => simp [joinWith, hnext]
      rw [Text.joinWith_cons sep part hrest]
      rw [List.append_assoc]
      have hback : sep ++ joinWith sep rest ≠ [] := List.append_ne_nil_of_right_ne_nil _ htailne
      refine Text.tight_append hpartne hback hpart.1 fun c hc => ?_
      rw [List.getLast?_append_of_ne_nil _ htailne] at hc
      exact htail.2 c hc

/-! ## Texts of formulas -/

namespace Formula

/-- What a formula is written as within another, where `needs` says whether it needs
parentheses. -/
def enclosed (needs : Formula → Bool) (f : Formula) : List Char :=
  enclose (needs f) f.print

theorem printEach_eq_map (needs : Formula → Bool) (fs : List Formula) :
    printEach needs fs = fs.map (enclosed needs) := by
  induction fs with
  | nil => rfl
  | cons f fs ih => rw [printEach, ih, List.map_cons, enclosed]

theorem print_all (first second : Formula) (more : List Formula) :
    (all first second more).print =
      joinWith ([' '] ++ ['&', '&'] ++ [' ']) ((first :: second :: more).map (enclosed isAll)) := by
  rw [print, printEach_eq_map]
  rfl

theorem print_any (first second : Formula) (more : List Formula) :
    (any first second more).print =
      joinWith ([' '] ++ ['|', '|'] ++ [' '])
        ((first :: second :: more).map (enclosed isCompound)) := by
  rw [print, printEach_eq_map]
  rfl

theorem meaningAll_eq (s : Scope) (fs : List Formula) :
    meaningAll s fs = allHold (meaning s) fs := by
  induction fs with
  | nil => rfl
  | cons f fs ih =>
    rw [meaningAll, allHold, ih]
    rcases f.meaning s with e | (_ | _) <;> rfl

theorem meaningAny_eq (s : Scope) (fs : List Formula) :
    meaningAny s fs = someHolds (meaning s) fs := by
  induction fs with
  | nil => rfl
  | cons f fs ih =>
    rw [meaningAny, someHolds, ih]
    rcases f.meaning s with e | (_ | _) <;> rfl

theorem meaning_all (s : Scope) (first second : Formula) (more : List Formula) :
    (all first second more).meaning s = allHold (meaning s) (first :: second :: more) := by
  rw [← meaningAll_eq, meaningAll, meaningAll, meaning]

theorem meaning_any (s : Scope) (first second : Formula) (more : List Formula) :
    (any first second more).meaning s = someHolds (meaning s) (first :: second :: more) := by
  rw [← meaningAny_eq, meaningAny, meaningAny, meaning]

theorem isAll_of_isCompound {f : Formula} (h : f.isCompound = false) : f.isAll = false := by
  cases f with
  | atom | neg => rfl
  | all | any => simp [isCompound] at h

/-- What the evaluation of a condition has to know of the formulas in it. -/
structure Readable (f : Formula) : Prop where
  balanced : Balanced f.print
  tight : Tight f.print
  ne_nil : f.print ≠ []
  isGroup : isGroup f.print = false
  /-- A negation of the formula is no inequality. -/
  head?_ne : f.print.head? ≠ some '='
  noTemplate : '\x7b' ∉ f.print
  /-- Conjunctions show outside all groups only if the formula is one. -/
  noAnd : f.isAll = false → '&' ∉ outside 0 f.print
  noOr : f.isCompound = false → '|' ∉ outside 0 f.print
  eval_eq : ∀ s, eval s f.print = f.meaning s

namespace Readable

variable {f : Formula} {needs : Formula → Bool}

theorem balanced_enclosed (h : Readable f) : Balanced (f.enclosed needs) := by
  unfold enclosed enclose
  split
  · exact h.balanced.group
  · exact h.balanced

theorem tight_enclosed (h : Readable f) : Tight (f.enclosed needs) := by
  unfold enclosed enclose
  split
  · exact tight_group _
  · exact h.tight

theorem enclosed_ne_nil (h : Readable f) : f.enclosed needs ≠ [] := by
  unfold enclosed enclose
  split
  · exact List.cons_ne_nil _ _
  · exact h.ne_nil

theorem head?_enclosed_ne (h : Readable f) : (f.enclosed needs).head? ≠ some '=' := by
  unfold enclosed enclose
  split
  · simp [group]
  · exact h.head?_ne

theorem noTemplate_enclosed (h : Readable f) : '\x7b' ∉ f.enclosed needs := by
  unfold enclosed enclose
  split
  · simp [group, h.noTemplate]
  · exact h.noTemplate

theorem notMem_outside_enclosed (h : Readable f) {c : Char}
    (hc : needs f = false → c ∉ outside 0 f.print) : c ∉ outside 0 (f.enclosed needs) := by
  unfold enclosed enclose
  split
  · rw [outside_group h.balanced]
    exact List.not_mem_nil
  · next hneeds => exact hc (by simpa using hneeds)

theorem eval_enclosed (h : Readable f) (s : Scope) :
    eval s (f.enclosed needs) = f.meaning s := by
  unfold enclosed enclose
  split
  · rw [eval_group s h.balanced, h.eval_eq]
  · exact h.eval_eq s

end Readable

/-! ## Conjunctions and disjunctions -/

section

variable (needs : Formula → Bool) {first second : Formula} {more : List Formula}

theorem forall_mem_enclosed {needs : Formula → Bool} {fs : List Formula} {P : List Char → Prop}
    (h : ∀ f ∈ fs, P (f.enclosed needs)) : ∀ part ∈ fs.map (enclosed needs), P part := by
  intro part hpart
  obtain ⟨f, hf, rfl⟩ := List.mem_map.1 hpart
  exact h f hf

theorem balanced_operands {sep : List Char} {fs : List Formula} (hsep : Balanced sep)
    (h : ∀ f ∈ fs, Readable f) : Balanced (joinWith sep (fs.map (enclosed needs))) :=
  balanced_joinWith hsep (forall_mem_enclosed fun f hf => (h f hf).balanced_enclosed)

theorem tight_operands (sep : List Char) {fs : List Formula} (h : ∀ f ∈ fs, Readable f) :
    Tight (joinWith sep (fs.map (enclosed needs))) :=
  tight_joinWith (forall_mem_enclosed fun f hf => (h f hf).enclosed_ne_nil)
    (forall_mem_enclosed fun f hf => (h f hf).tight_enclosed)

theorem noTemplate_operands {sep : List Char} {fs : List Formula} (hsep : '\x7b' ∉ sep)
    (h : ∀ f ∈ fs, Readable f) : '\x7b' ∉ joinWith sep (fs.map (enclosed needs)) := by
  intro hmem
  rcases mem_joinWith hmem with hmem | ⟨part, hpart, hmem⟩
  · exact hsep hmem
  · obtain ⟨f, hf, rfl⟩ := List.mem_map.1 hpart
    exact (h f hf).noTemplate_enclosed hmem

theorem notMem_outside_operands {sep : List Char} {fs : List Formula} {c : Char}
    (hsep : Balanced sep) (hcsep : c ∉ sep) (h : ∀ f ∈ fs, Readable f)
    (hc : ∀ f ∈ fs, needs f = false → c ∉ outside 0 f.print) :
    c ∉ outside 0 (joinWith sep (fs.map (enclosed needs))) :=
  notMem_outside_joinWith hsep (forall_mem_enclosed fun f hf => (h f hf).balanced_enclosed) hcsep
    (forall_mem_enclosed fun f hf => (h f hf).notMem_outside_enclosed (hc f hf))

/-- The first operand closes its parentheses before the second begins. -/
theorem isGroup_operands (second : Formula) (more : List Formula) {sep : List Char}
    (hsep : sep ≠ []) (hfirst : Readable first) :
    Condition.isGroup (joinWith sep ((first :: second :: more).map (enclosed needs))) = false := by
  rw [List.map_cons, Text.joinWith_cons sep _ (by simp), List.append_assoc]
  exact isGroup_append hfirst.balanced_enclosed hfirst.enclosed_ne_nil (by simp [hsep])

theorem head?_operands {sep : List Char} (hfirst : Readable first) :
    (joinWith sep ((first :: second :: more).map (enclosed needs))).head? ≠ some '=' := by
  rw [List.map_cons, Text.joinWith_cons sep _ (by simp), List.append_assoc,
    List.head?_append_of_ne_nil _ hfirst.enclosed_ne_nil]
  exact hfirst.head?_enclosed_ne

theorem operands_ne_nil {sep : List Char} (hfirst : Readable first) :
    joinWith sep ((first :: second :: more).map (enclosed needs)) ≠ [] := by
  rw [List.map_cons, Text.joinWith_cons sep _ (by simp)]
  simp [hfirst.enclosed_ne_nil]

/-- Operands with the parentheses they need are split where they were joined. -/
theorem split_operands (c : Char) (op : List Char) (hopen : c ≠ '(') (hclose : c ≠ ')')
    (hspace : c ≠ ' ') (h : ∀ f ∈ first :: second :: more, Readable f)
    (hc : ∀ f ∈ first :: second :: more, needs f = false → c ∉ outside 0 f.print) :
    ∃ parts, split (c :: op) (joinWith ([' '] ++ (c :: op) ++ [' '])
        ((first :: second :: more).map (enclosed needs))) = .parts parts ∧
      parts.map trim = (first :: second :: more).map (enclosed needs) := by
  have hoperands : ∀ part ∈ (first :: second :: more).map (enclosed needs), Operand c part :=
    forall_mem_enclosed fun f hf =>
      ⟨(h f hf).balanced_enclosed, (h f hf).notMem_outside_enclosed (hc f hf),
        (h f hf).tight_enclosed⟩
  exact split_joinWith hopen hclose hspace hoperands

end

theorem allHold_congr {α : Type} {f g : α → Except Error Bool} {xs : List α}
    (h : ∀ x ∈ xs, f x = g x) : allHold f xs = allHold g xs := by
  induction xs with
  | nil => rfl
  | cons x xs ih =>
    rw [allHold, allHold, h x List.mem_cons_self,
      ih fun y hy => h y (List.mem_cons_of_mem _ hy)]

theorem someHolds_congr {α : Type} {f g : α → Except Error Bool} {xs : List α}
    (h : ∀ x ∈ xs, f x = g x) : someHolds f xs = someHolds g xs := by
  induction xs with
  | nil => rfl
  | cons x xs ih =>
    rw [someHolds, someHolds, h x List.mem_cons_self,
      ih fun y hy => h y (List.mem_cons_of_mem _ hy)]

/-! ## One lemma for each form -/

theorem readable_atom (a : Atom) : Readable (atom a) := by
  have hnotMem : ∀ c ∈ ['(', ')', '&', '|', '\x7b'], c ∉ a.print := by
    intro c hc
    have hall : ∀ c ∈ ['(', ')', '&', '|', '\x7b'], isWordChar c = false ∧ c ∉ atomMarks :=
      List.all_iff_forall_prop.1 (by decide)
    exact a.notMem_print (hall c hc).1 (hall c hc).2
  have hprint : (atom a).print = a.print := by rw [print]
  have hbalanced : Balanced a.print :=
    balanced_of_plain (hnotMem '(' (by decide)) (hnotMem ')' (by decide))
  have hgroup : Condition.isGroup a.print = false :=
    isGroup_of_head? fun h => hnotMem '(' (by decide) (List.mem_of_mem_head? h)
  have hand : '&' ∉ outside 0 a.print :=
    fun h => hnotMem '&' (by decide) (mem_of_mem_outside h)
  have hor : '|' ∉ outside 0 a.print :=
    fun h => hnotMem '|' (by decide) (mem_of_mem_outside h)
  refine ⟨?_, ?_, ?_, ?_, ?_, ?_, ?_, ?_, ?_⟩ <;> rw [hprint]
  · exact hbalanced
  · exact a.tight
  · exact a.print_ne_nil
  · exact hgroup
  · exact a.head?_print_ne (by decide)
  · exact hnotMem '\x7b' (by decide)
  · exact fun _ => hand
  · exact fun _ => hor
  · intro s
    rw [eval_of_atom s (core_eq_self a.tight hgroup) (split_eq_whole hbalanced hand)
      (split_eq_whole hbalanced hor) (afterNot?_of_head? (a.head?_print_ne (by decide))),
      evalAtom_print, meaning]

theorem readable_neg {f : Formula} (h : Readable f) : Readable (neg f) := by
  have hprint : (neg f).print = '!' :: f.enclosed isCompound := by rw [print, enclosed]
  have hbalanced : Balanced ('!' :: f.enclosed isCompound) :=
    .plain (by decide) (by decide) h.balanced_enclosed
  have houtside : ∀ c, outside 0 ('!' :: c) = '!' :: outside 0 c := fun c => by simp [outside]
  have hgroup : Condition.isGroup ('!' :: f.enclosed isCompound) = false :=
    isGroup_of_head? (by simp)
  have htight : Tight ('!' :: f.enclosed isCompound) :=
    Text.tight_cons rfl h.enclosed_ne_nil h.tight_enclosed.2
  have hand : '&' ∉ outside 0 ('!' :: f.enclosed isCompound) := by
    rw [houtside, List.mem_cons, not_or]
    exact ⟨by decide, h.notMem_outside_enclosed fun hf => h.noAnd (isAll_of_isCompound hf)⟩
  have hor : '|' ∉ outside 0 ('!' :: f.enclosed isCompound) := by
    rw [houtside, List.mem_cons, not_or]
    exact ⟨by decide, h.notMem_outside_enclosed h.noOr⟩
  have hnot : afterNot? ('!' :: f.enclosed isCompound) = some (f.enclosed isCompound) := by
    simp [afterNot?, h.head?_enclosed_ne]
  refine ⟨?_, ?_, ?_, ?_, ?_, ?_, ?_, ?_, ?_⟩ <;> rw [hprint]
  · exact hbalanced
  · exact htight
  · exact List.cons_ne_nil _ _
  · exact hgroup
  · simp
  · rw [List.mem_cons, not_or]
    exact ⟨by decide, h.noTemplate_enclosed⟩
  · exact fun _ => hand
  · exact fun _ => hor
  · intro s
    rw [eval_of_not s (core_eq_self htight hgroup) (split_eq_whole hbalanced hand)
      (split_eq_whole hbalanced hor) hnot, h.eval_enclosed, meaning]
    rfl

theorem readable_all {first second : Formula} {more : List Formula}
    (h : ∀ f ∈ first :: second :: more, Readable f) : Readable (all first second more) := by
  have hfirst := h first List.mem_cons_self
  have hsep : Balanced ([' '] ++ ['&', '&'] ++ [' ']) := balanced_of_plain (by decide) (by decide)
  obtain ⟨parts, hsplit, hparts⟩ := split_operands isAll '&' ['&']
    (by decide) (by decide) (by decide) h fun f hf => (h f hf).noAnd
  have htight := tight_operands isAll ([' '] ++ ['&', '&'] ++ [' ']) h
  have hgroup : Condition.isGroup (joinWith ([' '] ++ ['&', '&'] ++ [' '])
      ((first :: second :: more).map (enclosed isAll))) = false :=
    isGroup_operands isAll second more (by decide) hfirst
  refine ⟨?_, ?_, ?_, ?_, ?_, ?_, ?_, ?_, ?_⟩
  any_goals rw [print_all]
  · exact balanced_operands isAll hsep h
  · exact htight
  · exact operands_ne_nil _ hfirst
  · exact hgroup
  · exact head?_operands _ hfirst
  · exact noTemplate_operands _ (by decide) h
  · exact fun hall => absurd hall (by simp [isAll])
  · exact fun hcompound => absurd hcompound (by simp [isCompound])
  · intro s
    rw [eval_of_and s (core_eq_self htight hgroup) hsplit, hparts, allHold_map,
      meaning_all]
    exact allHold_congr fun f hf => (h f hf).eval_enclosed s

theorem readable_any {first second : Formula} {more : List Formula}
    (h : ∀ f ∈ first :: second :: more, Readable f) : Readable (any first second more) := by
  have hfirst := h first List.mem_cons_self
  have hsep : Balanced ([' '] ++ ['|', '|'] ++ [' ']) := balanced_of_plain (by decide) (by decide)
  obtain ⟨parts, hsplit, hparts⟩ := split_operands isCompound '|' ['|']
    (by decide) (by decide) (by decide) h fun f hf => (h f hf).noOr
  have hbalanced := balanced_operands isCompound hsep h
  have htight := tight_operands isCompound ([' '] ++ ['|', '|'] ++ [' ']) h
  have hgroup : Condition.isGroup (joinWith ([' '] ++ ['|', '|'] ++ [' '])
      ((first :: second :: more).map (enclosed isCompound))) = false :=
    isGroup_operands isCompound second more (by decide) hfirst
  have hand := notMem_outside_operands isCompound hsep (by decide) h
    fun f hf hcompound => (h f hf).noAnd (isAll_of_isCompound hcompound)
  refine ⟨?_, ?_, ?_, ?_, ?_, ?_, ?_, ?_, ?_⟩
  any_goals rw [print_any]
  · exact hbalanced
  · exact htight
  · exact operands_ne_nil _ hfirst
  · exact hgroup
  · exact head?_operands _ hfirst
  · exact noTemplate_operands _ (by decide) h
  · exact fun _ => hand
  · exact fun hcompound => absurd hcompound (by simp [isCompound])
  · intro s
    rw [eval_of_or s (core_eq_self htight hgroup) (split_eq_whole hbalanced hand) hsplit,
      hparts, someHolds_map, meaning_any]
    exact someHolds_congr fun f hf => (h f hf).eval_enclosed s

mutual

theorem readable : (f : Formula) → Readable f
  | atom a => readable_atom a
  | neg f => readable_neg (readable f)
  | all first second more =>
    readable_all (List.forall_mem_cons.2 ⟨readable first,
      List.forall_mem_cons.2 ⟨readable second, readable_of_mem more⟩⟩)
  | any first second more =>
    readable_any (List.forall_mem_cons.2 ⟨readable first,
      List.forall_mem_cons.2 ⟨readable second, readable_of_mem more⟩⟩)

theorem readable_of_mem : (fs : List Formula) → ∀ f ∈ fs, Readable f
  | [] => fun _ hf => absurd hf List.not_mem_nil
  | f :: rest => List.forall_mem_cons.2 ⟨readable f, readable_of_mem rest⟩

end

end Formula

/-- What a formula is written as evaluates to its meaning in every scope: to the same truth value
or to the error of the same operand. -/
theorem evaluate_text (s : Scope) (f : Formula) : evaluate s f.text = f.meaning s := by
  have h := Formula.readable f
  have htrimmed : Text.trimmed f.text = String.ofList f.print := by
    rw [Text.trimmed, Formula.text, String.toList_ofList, Text.trim_of_tight h.tight]
  have hempty : (String.ofList f.print).isEmpty = false := by
    rw [← Bool.not_eq_true, String.isEmpty_iff, String.ofList_eq_empty_iff]
    exact h.ne_nil
  have htemplate : Template.hasTemplate (String.ofList f.print) = false := by
    rw [Template.hasTemplate, String.toList_ofList]
    exact Text.occursIn_eq_false_of_not_mem (a := '\x7b') (by decide) h.noTemplate
  unfold evaluate
  simp only [htrimmed, hempty, htemplate, String.toList_ofList, h.eval_eq]
  rfl

end RecipeRunner.Condition

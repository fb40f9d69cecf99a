import RecipeRunner.Proofs.Condition.Balance
/-!
# Laws of evaluation

What a condition evaluates to, one form at a time.  Blanks and parentheses around a whole
condition do not matter; behind them a condition is the conjunction of its parts, their
disjunction, a negation or an atom, whichever comes first.
-/

namespace RecipeRunner.Condition

open Text (trim Tight)

theorem allHold_map {α β : Type} (f : β → Except Error Bool) (g : α → β) (xs : List α) :
    allHold f (xs.map g) = allHold (fun x => f (g x)) xs := by
  induction xs with
  | nil => rfl
  | cons x xs ih => rw [List.map_cons, allHold, allHold, ih]

theorem someHolds_map {α β : Type} (f : β → Except Error Bool) (g : α → β) (xs : List α) :
    someHolds f (xs.map g) = someHolds (fun x => f (g x)) xs := by
  induction xs with
  | nil => rfl
  | cons x xs ih => rw [List.map_cons, someHolds, someHolds, ih]

theorem allHold_attach {α : Type} (f : α → Except Error Bool) (xs : List α) :
    allHold (fun x => f x.1) xs.attach = allHold f xs := by
  rw [← allHold_map f Subtype.val xs.attach, List.attach_map_subtype_val]

theorem someHolds_attach {α : Type} (f : α → Except Error Bool) (xs : List α) :
    someHolds (fun x => f x.1) xs.attach = someHolds f xs := by
  rw [← someHolds_map f Subtype.val xs.attach, List.attach_map_subtype_val]

/-- The forms of conditions in the order in which they are tried. -/
theorem eval_eq (s : Scope) (cs : List Char) :
    eval s cs =
      match split ['&', '&'] (core cs) with
      | .unbalanced => .error (fault .unbalanced (core cs))
      | .parts operands => allHold (eval s) operands
      | .whole =>
        match split ['|', '|'] (core cs) with
        | .unbalanced => .error (fault .unbalanced (core cs))
        | .parts operands => someHolds (eval s) operands
        | .whole =>
          match afterNot? (core cs) with
          | some rest => (eval s rest).map (!·)
          | none => evalAtom s (core cs) := by
  rw [eval]
  split
  · next hand => simp only [hand]
  · next operands hand =>
    simp only [hand]
    exact allHold_attach (eval s) operands
  · next hand =>
    simp only [hand]
    split
    · next hor => simp only [hor]
    · next operands hor =>
      simp only [hor]
      exact someHolds_attach (eval s) operands
    · next hor =>
      simp only [hor]
      split
      · next hnot => simp only [hnot]
      · next hnot => simp only [hnot]

/-- Conditions with the same core evaluate alike. -/
theorem eval_congr (s : Scope) {a b : List Char} (h : core a = core b) : eval s a = eval s b := by
  rw [eval_eq s a, eval_eq s b, h]

theorem eval_trim (s : Scope) (cs : List Char) : eval s (trim cs) = eval s cs :=
  eval_congr s (by rw [core, core, Text.trim_trim])

theorem allHold_congr {α : Type} {f g : α → Except Error Bool} {xs : List α}
    (h : ∀ x ∈ xs, f x = g x) : allHold f xs = allHold g xs := by
  induction xs with
  | nil => rfl
  | cons x xs ih =>
    rw [allHold, allHold, h x List.mem_cons_self, ih fun y hy => h y (List.mem_cons_of_mem _ hy)]

theorem someHolds_congr {α : Type} {f g : α → Except Error Bool} {xs : List α}
    (h : ∀ x ∈ xs, f x = g x) : someHolds f xs = someHolds g xs := by
  induction xs with
  | nil => rfl
  | cons x xs ih =>
    rw [someHolds, someHolds, h x List.mem_cons_self,
      ih fun y hy => h y (List.mem_cons_of_mem _ hy)]

/-- The scope with other random numbers. -/
def Scope.drawing (s : Scope) (c : Chance) : Scope :=
  { s with bindings := s.bindings.drawing c }

/-- Only templates draw random numbers. -/
theorem eval_drawing (s : Scope) (c : Chance) (cs : List Char) :
    eval (s.drawing c) cs = eval s cs := by
  induction hlength : cs.length using Nat.strong_induction_on generalizing cs with
  | h n ih =>
    have hcore := length_core_le cs
    have hparts : ∀ {sep : List Char} {parts : List (List Char)}, sep ≠ [] →
        split sep (core cs) = .parts parts →
          ∀ part ∈ parts, eval (s.drawing c) part = eval s part := by
      intro sep parts hsep hsplit part hpart
      have hpart := length_lt_of_mem_split hsep hsplit hpart
      exact ih part.length (by omega) part rfl
    rw [eval_eq, eval_eq s]
    split
    · rfl
    · next hand => exact allHold_congr (hparts (List.cons_ne_nil _ _) hand)
    · split
      · rfl
      · next hor => exact someHolds_congr (hparts (List.cons_ne_nil _ _) hor)
      · split
        · next rest hnot =>
          have hrest := length_afterNot? hnot
          rw [ih rest.length (by omega) rest rfl]
        · rfl

theorem tight_group (cs : List Char) : Tight (group cs) := by
  refine Text.tight_append (List.cons_ne_nil _ _) (List.cons_ne_nil _ _) (fun c hc => ?_)
    fun c hc => ?_
  · obtain rfl := Option.some.inj hc
    rfl
  · obtain rfl := Option.some.inj hc
    rfl

/-- Parentheses around a balanced condition do not matter. -/
theorem eval_group (s : Scope) {cs : List Char} (h : Balanced cs) :
    eval s (group cs) = eval s cs := by
  apply eval_congr
  rw [core, core, Text.trim_of_tight (tight_group cs), ungroup_group h]

theorem core_eq_self {cs : List Char} (htight : Tight cs) (hgroup : isGroup cs = false) :
    core cs = cs := by
  rw [core, Text.trim_of_tight htight, ungroup_of_not_isGroup hgroup]

theorem core_of_unblank {cs : List Char} (hblank : cs.all (!Text.isBlank ·) = true)
    (hgroup : isGroup cs = false) : core cs = cs :=
  core_eq_self (Text.tight_of_forall fun c hc => by simpa using List.all_eq_true.1 hblank c hc)
    hgroup

/-- A condition is evaluated part by part where a conjunction splits it. -/
theorem eval_of_and (s : Scope) {cs : List Char} {parts : List (List Char)} (hcore : core cs = cs)
    (h : split ['&', '&'] cs = .parts parts) :
    eval s cs = allHold (eval s) (parts.map trim) := by
  rw [eval_eq, hcore, h, allHold_map]
  simp only [eval_trim]

theorem eval_of_or (s : Scope) {cs : List Char} {parts : List (List Char)} (hcore : core cs = cs)
    (hand : split ['&', '&'] cs = .whole) (h : split ['|', '|'] cs = .parts parts) :
    eval s cs = someHolds (eval s) (parts.map trim) := by
  rw [eval_eq, hcore, hand, h, someHolds_map]
  simp only [eval_trim]

theorem eval_of_not (s : Scope) {cs rest : List Char} (hcore : core cs = cs)
    (hand : split ['&', '&'] cs = .whole) (hor : split ['|', '|'] cs = .whole)
    (h : afterNot? cs = some rest) : eval s cs = (eval s rest).map (!·) := by
  rw [eval_eq, hcore, hand, hor, h]

theorem eval_of_atom (s : Scope) {cs : List Char} (hcore : core cs = cs)
    (hand : split ['&', '&'] cs = .whole) (hor : split ['|', '|'] cs = .whole)
    (h : afterNot? cs = none) : eval s cs = evalAtom s cs := by
  rw [eval_eq, hcore, hand, hor, h]

/-- A condition without templates is evaluated as it stands. -/
theorem evaluate_of_plain (s : Scope) {condition : String}
    (hempty : (Text.trimmed condition).isEmpty = false)
    (hplain : Template.hasTemplate condition = false) :
    evaluate s condition = eval s condition.toList := by
  have htrimmed : Template.hasTemplate (Text.trimmed condition) = false := by
    rw [Template.hasTemplate, ← Bool.not_eq_true, Text.trimmed, String.toList_ofList,
      Text.occursIn_iff] at *
    rintro ⟨before, after, htrim⟩
    obtain ⟨front, back, heq, -⟩ := Text.exists_eq_append_trim condition.toList
    exact hplain ⟨front ++ before, after ++ back, by rw [heq, htrim]; simp⟩
  unfold evaluate
  simp only [hempty, htrimmed, Bool.false_eq_true, if_false]
  rw [Text.trimmed, String.toList_ofList, eval_trim]

end RecipeRunner.Condition

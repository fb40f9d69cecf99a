import RecipeRunner.Proofs.Condition.Formula
import Mathlib.Data.Bool.AllAny
import Mathlib.Data.List.Basic
/-!
# Reading atoms

An atom is written without parentheses and without the characters of conjunctions, disjunctions
and negations, and the searches for operators find the operator it was written with.
-/

namespace RecipeRunner.Condition

open Text (trim Tight isBlank)

/-! ## Words -/

/-- Letters, digits and `_` make words. -/
theorem isWordChar_of_isAlphanum {c : Char} (h : c.isAlphanum = true ∨ c = '_') :
    isWordChar c = true := by
  rcases h with h | rfl
  · exact Unicode.of_isAlphanum (P := fun c => isWordChar c = true) (by decide) h
  · rfl

theorem isBlank_space : ∀ c ∈ [' '], isBlank c = true :=
  List.forall_mem_singleton.2 rfl

theorem isBlank_of_isWordChar {c : Char} (h : isWordChar c = true) : isBlank c = false := by
  simp only [isWordChar, Bool.and_eq_true, Bool.not_eq_true'] at h
  exact h.1

namespace Word

variable (w : Word)

theorem notMem {c : Char} (h : isWordChar c = false) : c ∉ w.chars := by
  intro hmem
  rw [w.isWord c hmem] at h
  exact Bool.false_ne_true h.symm

theorem tight : Tight w.chars :=
  Text.tight_of_forall fun c hc => isBlank_of_isWordChar (w.isWord c hc)

theorem head?_ne {c : Char} (h : isWordChar c = false) : w.chars.head? ≠ some c :=
  fun hhead => w.notMem h (List.mem_of_mem_head? hhead)

theorem afterSigil?_eq_none : afterSigil? w.chars = none := by
  unfold afterSigil?
  split
  · next c rest hchars =>
    have hc : isWordChar c = true := w.isWord c (by simp [hchars])
    have hdollar : c ≠ '$' := by
      rintro rfl
      exact absurd hc (by decide)
    have hdot : c ≠ '.' := by
      rintro rfl
      exact absurd hc (by decide)
    simp [hdollar, hdot]
  · rfl

theorem unquote_eq : unquote (' ' :: w.chars) = w.chars := by
  have htrim : trim (' ' :: w.chars) = w.chars := by
    have := Text.trim_between [' '] [] isBlank_space w.tight (by simp)
    simpa using this
  have hdouble := w.head?_ne (c := '"') (by decide)
  have hsingle := w.head?_ne (c := '\'') (by decide)
  unfold unquote
  simp [htrim, hdouble, hsingle]

/-- An operand with the sign of a variable stands for the value of the variable. -/
theorem resolve_eq (s : Scope) {operand : List Char} (h : trim operand = '$' :: w.chars) :
    resolve s operand = w.value s := by
  have hsigil : afterSigil? ('$' :: w.chars) = some w.chars := rfl
  simp only [resolve, h, hsigil, valueText?, value, text]
  cases s.bindings.lookup (String.ofList w.chars) with
  | none => rfl
  | some v => rfl

theorem trim_left : trim ('$' :: w.chars ++ [' ']) = '$' :: w.chars := by
  have htight : Tight ('$' :: w.chars) := Text.tight_cons rfl w.ne_nil w.tight.2
  simpa using Text.trim_between [] [' '] (by simp) htight isBlank_space

theorem trim_right : trim (' ' :: '$' :: w.chars) = '$' :: w.chars := by
  have htight : Tight ('$' :: w.chars) := Text.tight_cons rfl w.ne_nil w.tight.2
  simpa using Text.trim_between [' '] [] isBlank_space htight (by simp)

end Word

/-! ## Operators -/

/-- The characters of atoms that are not characters of words. -/
def atomMarks : List Char :=
  [' ', '.', '$', '=', '!', '<', '>']

theorem Atom.mem_print {a : Atom} {c : Char} (h : c ∈ a.print) :
    isWordChar c = true ∨ c ∈ atomMarks := by
  have hword : ∀ {w : Word}, c ∈ w.chars → isWordChar c = true := fun {w} hc => w.isWord c hc
  cases a with
  | constant value =>
    have hall : ∀ c ∈ (Atom.constant value).print, isWordChar c = true := by
      cases value
      · exact List.all_iff_forall_prop.1 (by decide)
      · exact List.all_iff_forall_prop.1 (by decide)
    exact .inl (hall c h)
  | succeeded id =>
    have hall : ∀ c ∈ ".success".toList, isWordChar c = true ∨ c ∈ atomMarks :=
      List.all_iff_forall_prop.1 (by decide)
    rcases List.mem_append.1 h with h | h
    · exact .inl (hword h)
    · exact hall c h
  | failed id =>
    have hall : ∀ c ∈ ".failure".toList, isWordChar c = true ∨ c ∈ atomMarks :=
      List.all_iff_forall_prop.1 (by decide)
    rcases List.mem_append.1 h with h | h
    · exact .inl (hword h)
    · exact hall c h
  | compares left op right =>
    have hsymbol : ∀ c ∈ op.symbol, c ∈ atomMarks := by
      cases op <;> exact List.all_iff_forall_prop.1 (by decide)
    simp only [print, List.mem_append, List.mem_cons, List.not_mem_nil, or_false] at h
    rcases h with ((rfl | h) | rfl) | h | rfl | rfl | h
    · exact .inr (by decide)
    · exact .inl (hword h)
    · exact .inr (by decide)
    · exact .inr (hsymbol c h)
    · exact .inr (by decide)
    · exact .inr (by decide)
    · exact .inl (hword h)
  | equals name literal =>
    simp only [print, List.mem_append, List.mem_cons, List.not_mem_nil, or_false] at h
    rcases h with ((rfl | h) | rfl) | (rfl | rfl) | rfl | h
    any_goals exact .inl (hword h)
    all_goals exact .inr (by decide)
  | differs name literal =>
    simp only [print, List.mem_append, List.mem_cons, List.not_mem_nil, or_false] at h
    rcases h with ((rfl | h) | rfl) | (rfl | rfl) | rfl | h
    any_goals exact .inl (hword h)
    all_goals exact .inr (by decide)

theorem Atom.notMem_print (a : Atom) {c : Char} (hword : isWordChar c = false)
    (hmark : c ∉ atomMarks) : c ∉ a.print := by
  intro h
  rcases Atom.mem_print h with h | h
  · rw [hword] at h
    exact Bool.false_ne_true h
  · exact hmark h

theorem Atom.print_ne_nil (a : Atom) : a.print ≠ [] := by
  cases a with
  | constant value => cases value <;> decide
  | succeeded id => simp [print]
  | failed id => simp [print]
  | compares left op right => simp [print]
  | equals name literal => simp [print]
  | differs name literal => simp [print]

/-- An atom begins and ends like a word or a variable. -/
theorem Atom.tight (a : Atom) : Tight a.print := by
  have hvariable : ∀ (front : List Char) (w : Word), Tight ('$' :: front ++ w.chars) := by
    intro front w
    refine Text.tight_append (List.cons_ne_nil _ _) w.ne_nil (fun c hc => ?_) w.tight.2
    obtain rfl := Option.some.inj hc
    rfl
  have hresult : ∀ {w : Word} {back : List Char}, back ≠ [] → Tight back →
      Tight (w.chars ++ back) := fun {w _} hback htight =>
    Text.tight_append w.ne_nil hback w.tight.1 htight.2
  cases a with
  | constant value =>
    cases value
    · exact Text.tight_of_forall (List.all_iff_forall_prop.1 (by decide))
    · exact Text.tight_of_forall (List.all_iff_forall_prop.1 (by decide))
  | succeeded id =>
    exact hresult (by decide) (Text.tight_of_forall (List.all_iff_forall_prop.1 (by decide)))
  | failed id =>
    exact hresult (by decide) (Text.tight_of_forall (List.all_iff_forall_prop.1 (by decide)))
  | compares left op right =>
    have htext : (Atom.compares left op right).print =
        '$' :: (left.chars ++ [' '] ++ op.symbol ++ [' ', '$']) ++ right.chars := by
      simp [print]
    rw [htext]
    exact hvariable _ right
  | equals name literal =>
    have htext : (Atom.equals name literal).print =
        '$' :: (name.chars ++ [' ', '=', '=', ' ']) ++ literal.chars := by
      simp [print]
    rw [htext]
    exact hvariable _ literal
  | differs name literal =>
    have htext : (Atom.differs name literal).print =
        '$' :: (name.chars ++ [' ', '!', '=', ' ']) ++ literal.chars := by
      simp [print]
    rw [htext]
    exact hvariable _ literal

/-- No atom is a negation, nor would it end one before its operand. -/
theorem Atom.head?_print_ne (a : Atom) {c : Char} (hc : c ∈ ['!', '=']) :
    a.print.head? ≠ some c := by
  have hword : ∀ {w : Word} {back : List Char}, (w.chars ++ back).head? ≠ some c := by
    intro w back
    have hall : ∀ c ∈ ['!', '='], isWordChar c = false := List.all_iff_forall_prop.1 (by decide)
    rw [List.head?_append_of_ne_nil _ w.ne_nil]
    exact w.head?_ne (hall c hc)
  have hdollar : ∀ {rest : List Char}, ('$' :: rest).head? ≠ some c := by
    intro rest h
    obtain rfl := Option.some.inj h
    exact absurd hc (by decide)
  cases a with
  | constant value =>
    have hall : ∀ c ∈ ['!', '='], (Atom.constant value).print.head? ≠ some c := by
      cases value
      · exact List.all_iff_forall_prop.1 (by decide)
      · exact List.all_iff_forall_prop.1 (by decide)
    exact hall c hc
  | succeeded id => exact hword
  | failed id => exact hword
  | compares left op right => exact hdollar
  | equals name literal => exact hdollar
  | differs name literal => exact hdollar

theorem afterNot?_of_head? {cs : List Char} (h : cs.head? ≠ some '!') : afterNot? cs = none := by
  unfold afterNot?
  split
  · simp at h
  · rfl

/-! ## Evaluation -/

/-- The operand texts of the first numeric operator that a text holds. -/
def numericCut? (cs : List Char) : Option (Comparison × List Char × List Char) :=
  Comparison.all.findSome? fun op => (Text.cutAt? op.symbol cs).map fun sides => (op, sides)

theorem numericCut?_eq_none {cs : List Char} (habove : '>' ∉ cs) (hbelow : '<' ∉ cs) :
    numericCut? cs = none := by
  have hcut : ∀ op : Comparison, Text.cutAt? op.symbol cs = none := by
    intro op
    cases op with
    | atLeast => exact Text.cutAt?_eq_none_of_not_mem (a := '>') (by decide) habove
    | atMost => exact Text.cutAt?_eq_none_of_not_mem (a := '<') (by decide) hbelow
    | above => exact Text.cutAt?_eq_none_of_not_mem (a := '>') (by decide) habove
    | below => exact Text.cutAt?_eq_none_of_not_mem (a := '<') (by decide) hbelow
  simp [numericCut?, hcut]

/-- The numeric operator between operands without operators is found, those that are looked for
before it are not. -/
theorem numericCut?_append {left right : List Char} (op : Comparison)
    (hleft : ∀ c ∈ ['=', '<', '>'], c ∉ left) (hright : ∀ c ∈ ['=', '<', '>'], c ∉ right) :
    numericCut? (left ++ (op.symbol ++ right)) = some (op, left, right) := by
  have hnone : ∀ (mark : List Char) {cs : List Char} {c : Char}, c ∈ mark → c ∉ cs →
      Text.cutAt? mark cs = none :=
    fun _ _ _ hmark hcs => Text.cutAt?_eq_none_of_not_mem hmark hcs
  have hnotMem : ∀ (symbol : List Char) (c : Char), c ∈ ['=', '<', '>'] → c ∉ symbol →
      c ∉ left ++ (symbol ++ right) := by
    intro symbol c hc hsymbol
    simp [hleft c hc, hright c hc, hsymbol]
  cases op with
  | atLeast =>
    have hcut := Text.cutAt?_append ['='] right (hleft '>' (by decide))
    simp only [numericCut?, Comparison.all, Comparison.symbol, List.findSome?_cons]
    rw [show ['>', '='] ++ right = '>' :: ['='] ++ right from rfl, hcut]
    rfl
  | atMost =>
    have hcut := Text.cutAt?_append ['='] right (hleft '<' (by decide))
    have hskip := hnone ['>', '='] (by decide)
      (hnotMem ['<', '='] '>' (by decide) (by decide))
    simp only [numericCut?, Comparison.all, Comparison.symbol, List.findSome?_cons, hskip]
    rw [show ['<', '='] ++ right = '<' :: ['='] ++ right from rfl, hcut]
    rfl
  | above =>
    have hcut := Text.cutAt?_append [] right (hleft '>' (by decide))
    have hatLeast := hnone ['>', '='] (by decide)
      (hnotMem ['>'] '=' (by decide) (by decide))
    have hatMost := hnone ['<', '='] (by decide)
      (hnotMem ['>'] '=' (by decide) (by decide))
    simp only [numericCut?, Comparison.all, Comparison.symbol, List.findSome?_cons, hatLeast,
      hatMost, hcut]
    rfl
  | below =>
    have hcut := Text.cutAt?_append [] right (hleft '<' (by decide))
    have hatLeast := hnone ['>', '='] (by decide)
      (hnotMem ['<'] '=' (by decide) (by decide))
    have hatMost := hnone ['<', '='] (by decide)
      (hnotMem ['<'] '=' (by decide) (by decide))
    have habove := hnone ['>'] (by decide)
      (hnotMem ['<'] '>' (by decide) (by decide))
    simp only [numericCut?, Comparison.all, Comparison.symbol, List.findSome?_cons, hatLeast,
      hatMost, habove, hcut]
    rfl

theorem evalAtom_of_numeric (s : Scope) {cs left right : List Char} {op : Comparison}
    (h : numericCut? cs = some (op, left, right)) :
    evalAtom s cs = do
      let a ← operandNumber s cs left
      let b ← operandNumber s cs right
      return op.holds (a.compare b) := by
  unfold numericCut? at h
  simp only [evalAtom, h]

/-- Whether the operation of an id succeeded. -/
theorem Word.success_eq (s : Scope) (id : Word) :
    (s.result? (String.ofList ((afterSigil? (trim id.chars)).getD (trim id.chars)))).getD false =
      decide (s.result? id.text = some true) := by
  rw [Text.trim_of_tight id.tight, id.afterSigil?_eq_none, Option.getD_none, ← text]
  cases s.result? id.text with
  | none => rfl
  | some success => cases success <;> rfl

theorem evalAtom_succeeded (s : Scope) (id : Word) :
    evalAtom s (Atom.succeeded id).print = (Atom.succeeded id).meaning s := by
  have hnumeric : numericCut? (Atom.succeeded id).print = none :=
    numericCut?_eq_none (by simp [Atom.print, id.notMem (c := '>') (by decide)])
      (by simp [Atom.print, id.notMem (c := '<') (by decide)])
  have hend : Text.beforeEnd? ".success".toList (Atom.succeeded id).print = some id.chars :=
    Text.beforeEnd?_append _ _
  unfold numericCut? at hnumeric
  simp only [evalAtom, hnumeric, hend, id.success_eq s]
  rfl

theorem evalAtom_failed (s : Scope) (id : Word) :
    evalAtom s (Atom.failed id).print = (Atom.failed id).meaning s := by
  have hnumeric : numericCut? (Atom.failed id).print = none :=
    numericCut?_eq_none (by simp [Atom.print, id.notMem (c := '>') (by decide)])
      (by simp [Atom.print, id.notMem (c := '<') (by decide)])
  have hsuccess : Text.beforeEnd? ".success".toList (Atom.failed id).print = none := by
    simp [Text.beforeEnd?, Atom.print, Text.afterStart?]
  have hend : Text.beforeEnd? ".failure".toList (Atom.failed id).print = some id.chars :=
    Text.beforeEnd?_append _ _
  unfold numericCut? at hnumeric
  simp only [evalAtom, hnumeric, hsuccess, hend, id.success_eq s]
  simp [Atom.meaning]

theorem evalAtom_eq_evalEquality (s : Scope) {cs : List Char}
    (h : ∀ c ∈ ['<', '>', '.'], c ∉ cs) : evalAtom s cs = evalEquality s cs := by
  have hnumeric := numericCut?_eq_none (h '>' (by decide)) (h '<' (by decide))
  have hsuccess : Text.beforeEnd? ".success".toList cs = none :=
    Text.beforeEnd?_eq_none_of_not_mem (a := '.') (by decide) (h '.' (by decide))
  have hfailure : Text.beforeEnd? ".failure".toList cs = none :=
    Text.beforeEnd?_eq_none_of_not_mem (a := '.') (by decide) (h '.' (by decide))
  unfold numericCut? at hnumeric
  simp only [evalAtom, hnumeric, hsuccess, hfailure]

theorem notMem_equality {name literal : Word} {sign : Char} (hsign : sign ∈ ['=', '!'])
    {c : Char} (hc : c ∈ ['<', '>', '.']) :
    c ∉ '$' :: name.chars ++ [' '] ++ ([sign, '='] ++ (' ' :: literal.chars)) := by
  have hword : isWordChar c = false := by
    have hall : ∀ c ∈ ['<', '>', '.'], isWordChar c = false :=
      List.all_iff_forall_prop.1 (by decide)
    exact hall c hc
  have hall : ∀ c ∈ ['<', '>', '.'], c ≠ ' ' ∧ c ≠ '$' ∧ c ∉ ['=', '!'] :=
    List.all_iff_forall_prop.1 (by decide)
  obtain ⟨hspace, hdollar, hsigns⟩ := hall c hc
  have hsame : c ≠ sign := fun h => hsigns (h ▸ hsign)
  have hequals : c ≠ '=' := List.ne_of_not_mem_cons hsigns
  simp [name.notMem hword, literal.notMem hword, hspace, hdollar, hsame, hequals]

theorem evalAtom_differs (s : Scope) (name literal : Word) :
    evalAtom s (Atom.differs name literal).print = (Atom.differs name literal).meaning s := by
  have hnotMem : ∀ c ∈ ['<', '>', '.'], c ∉ (Atom.differs name literal).print :=
    fun c hc => notMem_equality (by decide) hc
  have hcut : Text.cutAt? ['!', '='] (Atom.differs name literal).print =
      some ('$' :: name.chars ++ [' '], ' ' :: literal.chars) :=
    Text.cutAt?_append _ _ (by simp [name.notMem (c := '!') (by decide)])
  rw [evalAtom_eq_evalEquality s hnotMem, evalEquality, hcut]
  simp only [name.resolve_eq s name.trim_left, literal.unquote_eq]
  simp [Atom.meaning, bne, beq_eq_decide]

theorem evalAtom_equals (s : Scope) (name literal : Word) :
    evalAtom s (Atom.equals name literal).print = (Atom.equals name literal).meaning s := by
  have hnotMem : ∀ c ∈ ['<', '>', '.'], c ∉ (Atom.equals name literal).print :=
    fun c hc => notMem_equality (by decide) hc
  have hdiffers : Text.cutAt? ['!', '='] (Atom.equals name literal).print = none :=
    Text.cutAt?_eq_none_of_not_mem (a := '!') (by decide) (by
      simp [Atom.print, name.notMem (c := '!') (by decide), literal.notMem (c := '!') (by decide)])
  have hcut : Text.cutAt? ['=', '='] (Atom.equals name literal).print =
      some ('$' :: name.chars ++ [' '], ' ' :: literal.chars) :=
    Text.cutAt?_append _ _ (by simp [name.notMem (c := '=') (by decide)])
  rw [evalAtom_eq_evalEquality s hnotMem, evalEquality, hdiffers, hcut]
  simp only [name.resolve_eq s name.trim_left, literal.unquote_eq]
  simp [Atom.meaning, beq_eq_decide]

end RecipeRunner.Condition

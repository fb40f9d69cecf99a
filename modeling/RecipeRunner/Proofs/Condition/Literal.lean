import RecipeRunner.Proofs.Condition.Unbalanced
/-!
# Quoted literals

What a comparison of a variable with a literal in quotes comes to.  The scans do not know of quotes:
a numeric operator in the literal makes the whole text a numeric comparison, and a connective that
no group of the literal hides splits it.  Everything else that a literal may hold is passed over, be
it parentheses that do not balance, tests for results or equalities.

* `Hides`: a connective occurs inside groups only.
* `split_quoted`: such a connective does not split the comparison.
* `evaluate_quoted`: the variable is compared with what stands between the quotes.
-/

namespace RecipeRunner.Condition

open Text (trim trimmed trim_cons Tight occursIn)

/-! ## Hidden connectives -/

/-- An operator occurs in a text at most inside groups that the text closes. -/
def Hides (op cs : List Char) : Prop :=
  occursIn op cs = false ∨
    Balanced cs ∧ ∀ front back, cs = front ++ (op ++ back) → ¬Balanced front

theorem hides_of_notMem_outside {c : Char} {op cs : List Char} (hopen : c ≠ '(') (hclose : c ≠ ')')
    (h : Balanced cs) (hc : c ∉ outside 0 cs) : Hides (c :: op) cs := by
  refine .inr ⟨h, ?_⟩
  rintro front back rfl hfront
  apply hc
  rw [outside_append hfront, List.cons_append, outside, if_neg hopen, if_neg hclose, if_pos rfl]
  simp

/-- A text whose groups hide an operator is one part. -/
theorem partsFrom_of_hides {op cs : List Char} {d e : Nat} (h : Nested d cs e) (he : e = 0)
    (hhides : ∀ front back, cs = front ++ (op ++ back) → ¬Nested d front 0) :
    partsFrom op 0 d cs = some [cs] := by
  induction h with
  | nil =>
    subst he
    rfl
  | @opens d e cs _ ih =>
    have hrest := ih he fun front back heq hfront =>
      hhides ('(' :: front) back (by rw [heq]; rfl) (.opens hfront)
    have hstep : partsFrom op 0 d ('(' :: cs) =
        (partsFrom op 0 (d + 1) cs).map (consFirst '(') := rfl
    rw [hstep, hrest]
    rfl
  | @closes d e cs _ ih =>
    have hrest := ih he fun front back heq hfront =>
      hhides (')' :: front) back (by rw [heq]; rfl) (.closes hfront)
    have hstep : partsFrom op 0 (d + 1) (')' :: cs) =
        (partsFrom op 0 d cs).map (consFirst ')') := rfl
    rw [hstep, hrest]
    rfl
  | @plain d e c cs hopen hclose _ ih =>
    have hrest := ih he fun front back heq hfront =>
      hhides (c :: front) back (by rw [heq]; rfl) (.plain hopen hclose hfront)
    have hstarts : (decide (d = 0) && Text.startsWith op (c :: cs)) = false := by
      by_contra hstarts
      simp only [Bool.not_eq_false, Bool.and_eq_true, decide_eq_true_eq] at hstarts
      obtain ⟨rfl, hstarts⟩ := hstarts
      obtain ⟨after, hafter⟩ := Option.isSome_iff_exists.1 hstarts
      exact hhides [] after (by simpa using Text.eq_append_of_afterStart? hafter) .nil
    cases d with
    | zero | succ =>
      rw [partsFrom, if_neg hopen, if_neg hclose, hstarts, if_neg Bool.false_ne_true, hrest]
      rfl

theorem split_of_hides {op cs : List Char} (h : Hides op cs) : split op cs = .whole := by
  unfold split
  rcases h with h | ⟨hbalanced, h⟩
  · rw [h, if_neg Bool.false_ne_true]
  · rw [partsFrom_of_hides hbalanced rfl h]
    split <;> rfl

/-- What stands around a text and has no character of an operator does not uncover it. -/
theorem Hides.between {op before cs after : List Char} (hop : op ≠ [])
    (hbefore : ∀ c ∈ before, c ∉ op ∧ c ≠ '(' ∧ c ≠ ')')
    (hafter : ∀ c ∈ after, c ∉ op ∧ c ≠ '(' ∧ c ≠ ')') (h : Hides op cs) :
    Hides op (before ++ cs ++ after) := by
  have hplain : ∀ {cs : List Char}, (∀ c ∈ cs, c ∉ op ∧ c ≠ '(' ∧ c ≠ ')') → '(' ∉ cs ∧ ')' ∉ cs :=
    fun h => ⟨fun hmem => (h _ hmem).2.1 rfl, fun hmem => (h _ hmem).2.2 rfl⟩
  obtain ⟨hopen, hclose⟩ := hplain hbefore
  have hhead : op.head hop ∉ before := fun hmem => (hbefore _ hmem).1 (List.head_mem hop)
  have hlast : op.getLast hop ∉ after := fun hmem => (hafter _ hmem).1 (List.getLast_mem hop)
  rcases h with h | ⟨hbalanced, h⟩
  · refine .inl ?_
    rw [← Bool.not_eq_true] at h ⊢
    exact mt (Text.occursIn_of_between hop hhead hlast) h
  · have hends := balanced_of_plain (hplain hafter).1 (hplain hafter).2
    refine .inr ⟨((balanced_of_plain hopen hclose).append hbalanced).append hends, ?_⟩
    intro front back heq hfront
    obtain ⟨left, right, rfl, hmid, -⟩ := Text.eq_append_of_between hop hhead hlast heq
    exact h left right hmid ((nested_append_iff hopen hclose).1 hfront)

/-! ## The text of the comparison -/

/-- What stands in front of the literal. -/
def quotedFront (x : Word) (sign : Char) : List Char :=
  '$' :: x.chars ++ [' ', sign, '=', ' ', '"']

/-- A variable compared with a literal in quotes; the sign is that of `==` or of `!=`. -/
def quoted (x : Word) (sign : Char) (literal : List Char) : List Char :=
  quotedFront x sign ++ literal ++ ['"']

section Quoted

variable {x : Word} {sign : Char} {literal : List Char}

theorem mem_quotedFront {c : Char} (h : c ∈ quotedFront x sign) :
    isWordChar c = true ∨ c ∈ ['$', ' ', sign, '=', '"'] := by
  simp only [quotedFront, List.cons_append, List.mem_cons, List.mem_append, List.not_mem_nil,
    or_false] at h ⊢
  rcases h with rfl | h | rfl | rfl | rfl | rfl | rfl
  · simp
  · exact .inl (x.isWord c h)
  all_goals simp

theorem notMem_quotedFront {c : Char} (hword : isWordChar c = false)
    (hc : c ∉ ['$', ' ', sign, '=', '"']) : c ∉ quotedFront x sign := by
  intro h
  rcases mem_quotedFront h with h | h
  · rw [hword] at h
    exact Bool.false_ne_true h
  · exact hc h

theorem core_quoted : core (quoted x sign literal) = quoted x sign literal := by
  refine core_eq_self ?_ (isGroup_of_head? (by simp [quoted, quotedFront]))
  refine Text.tight_append (by simp [quotedFront]) (by simp) (fun c hc => ?_) fun c hc => ?_
  · obtain rfl : '$' = c := by simpa [quotedFront] using hc
    decide
  · obtain rfl : '"' = c := by simpa using hc
    decide

/-- The comparison is not split at a connective that its literal hides. -/
theorem split_quoted {op : List Char} (hop : op ∈ connectives) (hsign : sign ∈ ['=', '!'])
    (h : Hides op literal) : split op (quoted x sign literal) = .whole := by
  have hmarks : ∀ op ∈ connectives, op ≠ [] := by decide
  have hfront : ∀ c ∈ ['&', '|', '(', ')'], c ∉ quotedFront x sign := by
    have hall : ∀ c ∈ ['&', '|', '(', ')'], isWordChar c = false ∧
        ∀ sign ∈ ['=', '!'], c ∉ ['$', ' ', sign, '=', '"'] := by decide
    exact fun c hc => notMem_quotedFront (hall c hc).1 ((hall c hc).2 sign hsign)
  have hchars : ∀ op ∈ connectives, ∀ c ∈ op, c ∈ ['&', '|', '(', ')'] ∧ c ≠ '"' := by decide
  refine split_of_hides (h.between (hmarks op hop) (fun c hc => ⟨?_, ?_, ?_⟩) ?_)
  · exact fun hmem => hfront c (hchars op hop c hmem).1 hc
  · rintro rfl
    exact hfront _ (by decide) hc
  · rintro rfl
    exact hfront _ (by decide) hc
  · rw [List.forall_mem_singleton]
    exact ⟨fun hmem => (hchars op hop '"' hmem).2 rfl, by decide, by decide⟩

/-- The quote at the end makes the text no test for a result. -/
theorem evalAtom_quoted (s : Scope) (hsign : sign ∈ ['=', '!']) (hbelow : '<' ∉ literal)
    (habove : '>' ∉ literal) :
    evalAtom s (quoted x sign literal) = evalEquality s (quoted x sign literal) := by
  have hnotMem : ∀ c ∈ ['<', '>'], c ∉ literal → c ∉ quoted x sign literal := by
    have hall : ∀ c ∈ ['<', '>'], isWordChar c = false ∧ c ∉ ['"'] ∧
        ∀ sign ∈ ['=', '!'], c ∉ ['$', ' ', sign, '=', '"'] := by decide
    intro c hc hliteral
    obtain ⟨hword, hquote, hmarks⟩ := hall c hc
    simp only [quoted, List.mem_append, not_or]
    exact ⟨⟨notMem_quotedFront hword (hmarks sign hsign), hliteral⟩, hquote⟩
  have hnumeric := numericCut?_eq_none (hnotMem '>' (by decide) habove)
    (hnotMem '<' (by decide) hbelow)
  have hsuccess : Text.beforeEnd? ".success".toList (quoted x sign literal) = none := by
    simp [Text.beforeEnd?, quoted, Text.afterStart?]
  have hfailure : Text.beforeEnd? ".failure".toList (quoted x sign literal) = none := by
    simp [Text.beforeEnd?, quoted, Text.afterStart?]
  unfold numericCut? at hnumeric
  simp only [evalAtom, hnumeric, hsuccess, hfailure]

theorem eval_quoted (s : Scope) (hsign : sign ∈ ['=', '!']) (hbelow : '<' ∉ literal)
    (habove : '>' ∉ literal) (hhides : ∀ op ∈ connectives, Hides op literal) :
    eval s (quoted x sign literal) = evalEquality s (quoted x sign literal) := by
  have hsplit : ∀ op ∈ connectives, split op (quoted x sign literal) = .whole :=
    fun op hop => split_quoted hop hsign (hhides op hop)
  rw [eval_of_atom s core_quoted (hsplit _ (by decide)) (hsplit _ (by decide))
    (afterNot?_of_head? (by simp [quoted, quotedFront])), evalAtom_quoted s hsign hbelow habove]

/-! ## The comparison -/

theorem getLast?_cons_concat (a b : Char) (cs : List Char) :
    (a :: (cs ++ [b])).getLast? = some b := by
  rw [← List.cons_append, List.getLast?_concat]

theorem unquote_quoted : unquote (' ' :: '"' :: literal ++ ['"']) = literal := by
  have htight : Tight ('"' :: literal ++ ['"']) :=
    Text.tight_append (List.cons_ne_nil _ _) (List.cons_ne_nil _ _)
      (by simpa using (by decide : Text.isBlank '"' = false))
      (by simpa using (by decide : Text.isBlank '"' = false))
  have htrim : trim (' ' :: '"' :: literal ++ ['"']) = '"' :: literal ++ ['"'] := by
    simpa using Text.trim_between [' '] [] isBlank_space htight (by simp)
  unfold unquote
  rw [htrim]
  simp [getLast?_cons_concat]

/-- The two sides are cut where the operator stands in front of the literal. -/
theorem cutAt?_quoted (hsign : sign ∈ ['=', '!']) :
    Text.cutAt? [sign, '='] (quoted x sign literal) =
      some ('$' :: x.chars ++ [' '], ' ' :: '"' :: literal ++ ['"']) := by
  have htext : quoted x sign literal =
      ('$' :: x.chars ++ [' ']) ++ (sign :: ['='] ++ (' ' :: '"' :: literal ++ ['"'])) := by
    simp [quoted, quotedFront]
  have hfront : ∀ sign ∈ ['=', '!'], sign ∉ '$' :: x.chars ++ [' '] := by
    have hall : ∀ sign ∈ ['=', '!'], isWordChar sign = false ∧ sign ≠ '$' ∧ sign ≠ ' ' := by decide
    intro sign hsign
    obtain ⟨hword, hdollar, hspace⟩ := hall sign hsign
    simp [x.notMem hword, hdollar, hspace]
  rw [htext]
  exact Text.cutAt?_append ['='] _ (hfront sign hsign)

theorem evalEquality_differs (s : Scope) :
    evalEquality s (quoted x '!' literal) = .ok (x.value s != literal) := by
  rw [evalEquality, cutAt?_quoted (by decide)]
  simp only [x.resolve_eq s x.trim_left, unquote_quoted]

theorem evalEquality_equals (s : Scope) (h : occursIn ['!', '='] literal = false) :
    evalEquality s (quoted x '=' literal) = .ok (x.value s == literal) := by
  have hfront : '!' ∉ quotedFront x '=' := notMem_quotedFront (by decide) (by decide)
  have hoccurs : ¬occursIn ['!', '='] (quoted x '=' literal) = true := fun hoccurs => by
    rw [Text.occursIn_of_between (by decide) hfront (by decide) hoccurs] at h
    cases h
  have hdiffers : Text.cutAt? ['!', '='] (quoted x '=' literal) = none := by
    simpa [occursIn] using hoccurs
  rw [evalEquality, hdiffers, cutAt?_quoted (by decide)]
  simp only [x.resolve_eq s x.trim_left, unquote_quoted]

/-- An operand with the sign of a variable and a quote in it is no variable. -/
theorem resolve_of_quote {s : Scope} (hnames : ∀ name, '"' ∈ name.toList →
    s.bindings.lookup name = none) {operand : List Char} (hquote : '"' ∈ operand) :
    resolve s ('$' :: operand) = ['f', 'a', 'l', 's', 'e'] := by
  have hname : '"' ∈ Text.trimEnd operand := by
    obtain ⟨dropped, heq, hblank⟩ := Text.dropEndWhile_append Text.isBlank operand
    rw [heq] at hquote
    refine (List.mem_append.1 hquote).resolve_right fun hmem => ?_
    exact absurd (hblank _ hmem) (by decide)
  have hsigil : afterSigil? ('$' :: Text.trimEnd operand) = some (Text.trimEnd operand) := rfl
  simp only [resolve, trim_cons (show Text.isBlank '$' = false by decide), hsigil, valueText?]
  rw [hnames _ (by simpa using hname)]
  rfl

/-- A single quote at the end is kept. -/
theorem unquote_append_quote {right : List Char} (h : '"' ∉ right) :
    unquote (right ++ ['"']) = Text.trimStart right ++ ['"'] := by
  have hmeet : ∀ first, Text.Meet first ['"'] := fun _ => .inr ⟨'"', rfl, by decide⟩
  have htrim : trim (right ++ ['"']) = Text.trimStart right ++ ['"'] := by
    rw [trim, Text.trimStart_append (hmeet _), Text.trimEnd_append (hmeet _)]
    rfl
  have hnotMem : '"' ∉ Text.trimStart right := fun hmem =>
    h ((List.dropWhile_sublist _).subset hmem)
  unfold unquote
  rw [htrim]
  cases hright : Text.trimStart right with
  | nil => rfl
  | cons c rest =>
    rw [hright] at hnotMem
    have hc : c ≠ '"' := fun heq => hnotMem (by simp [heq])
    simp [hc, getLast?_cons_concat]

/-- At an inequality in the literal the text is cut into two parts that differ. -/
theorem evalEquality_equals_of_names {s : Scope} (hquote : '"' ∉ literal)
    (hnames : ∀ name, '"' ∈ name.toList → s.bindings.lookup name = none)
    (h : occursIn ['!', '='] literal = true) :
    evalEquality s (quoted x '=' literal) = .ok true := by
  have hfront : '!' ∉ quotedFront x '=' := notMem_quotedFront (by decide) (by decide)
  have hoccurs : occursIn ['!', '='] (quoted x '=' literal) = true := by
    obtain ⟨left, right, rfl⟩ := Text.occursIn_iff.1 h
    exact Text.occursIn_iff.2 ⟨quotedFront x '=' ++ left, right ++ ['"'], by simp [quoted]⟩
  obtain ⟨⟨before, after⟩, hcut⟩ := Option.isSome_iff_exists.1 hoccurs
  have htext := Text.eq_append_of_cutAt? hcut
  rw [List.append_assoc] at htext
  obtain ⟨left, right, rfl, rfl, rfl⟩ :=
    Text.eq_append_of_between (by decide) hfront (by decide) htext
  have hright : '"' ∉ right := fun hmem => hquote (by simp [hmem])
  have hleft : resolve s (quotedFront x '=' ++ left) = ['f', 'a', 'l', 's', 'e'] :=
    resolve_of_quote hnames (by simp)
  have hne : resolve s (quotedFront x '=' ++ left) ≠ unquote (right ++ ['"']) := by
    rw [hleft, unquote_append_quote hright]
    intro heq
    have hlast := congrArg List.getLast? heq
    rw [List.getLast?_concat] at hlast
    exact absurd hlast (by decide)
  rw [evalEquality, hcut]
  simp [hne]

/-- A comparison whose literal has no templates has none. -/
theorem evaluate_ofList_quoted (s : Scope) (hsign : sign ∈ ['=', '!'])
    (hplain : occursIn Template.opening literal = false) :
    evaluate s (String.ofList (quoted x sign literal)) = eval s (quoted x sign literal) := by
  have htext : (String.ofList (quoted x sign literal)).toList = quoted x sign literal :=
    String.toList_ofList
  have hempty : (trimmed (String.ofList (quoted x sign literal))).isEmpty = false := by
    simp [trimmed, quoted, quotedFront, trim_cons (show Text.isBlank '$' = false by decide)]
  have hfront : '\x7b' ∉ quotedFront x sign := by
    have hall : ∀ sign ∈ ['=', '!'], '\x7b' ∉ ['$', ' ', sign, '=', '"'] := by decide
    exact notMem_quotedFront (by decide) (hall sign hsign)
  have htemplate : Template.hasTemplate (String.ofList (quoted x sign literal)) = false := by
    rw [← Bool.not_eq_true] at hplain ⊢
    rw [Template.hasTemplate, htext]
    exact mt (Text.occursIn_of_between (by decide) hfront (by decide)) hplain
  rw [evaluate_of_plain s hempty htemplate, htext]

end Quoted

theorem Word.value_of_vars {store : Store} {x : Word} {literal : String}
    (hvalue : store.vars.get? x.text = some (.str literal)) (htight : Tight literal.toList) :
    x.value store.scope = literal.toList := by
  have hlookup : store.scope.bindings.lookup x.text = some (.str literal) := by
    change (store.vars.get? x.text).or _ = _
    rw [hvalue]
    rfl
  rw [value, hlookup]
  exact Text.trim_of_tight htight

/-- A variable is compared with what stands in quotes, if no numeric operator stands there and no
connective outside groups.  An inequality that stands there does not matter either, unless there is
a variable or an output with a quote in its name. -/
theorem evaluate_quoted {store : Store} {x : Word} {literal : String}
    (hvalue : store.vars.get? x.text = some (.str literal)) (htight : Tight literal.toList)
    (hquote : '"' ∉ literal.toList) (hplain : Template.hasTemplate literal = false)
    (hbelow : '<' ∉ literal.toList) (habove : '>' ∉ literal.toList)
    (hhides : ∀ op ∈ connectives, Hides op literal.toList) :
    evaluate store.scope ("$" ++ x.text ++ " != \"" ++ literal ++ "\"") = .ok false ∧
      (occursIn ['!', '='] literal.toList = false ∨
          (∀ name, '"' ∈ name.toList → store.lookup name = none) →
        evaluate store.scope ("$" ++ x.text ++ " == \"" ++ literal ++ "\"") = .ok true) := by
  have hdiffers : "$" ++ x.text ++ " != \"" ++ literal ++ "\"" =
      String.ofList (quoted x '!' literal.toList) := by
    rw [← String.toList_inj]
    simp [quoted, quotedFront, Word.text]
  have hequals : "$" ++ x.text ++ " == \"" ++ literal ++ "\"" =
      String.ofList (quoted x '=' literal.toList) := by
    rw [← String.toList_inj]
    simp [quoted, quotedFront, Word.text]
  have heval : ∀ {sign}, sign ∈ ['=', '!'] →
      evaluate store.scope (String.ofList (quoted x sign literal.toList)) =
        evalEquality store.scope (quoted x sign literal.toList) := fun hsign => by
    rw [evaluate_ofList_quoted _ hsign hplain, eval_quoted _ hsign hbelow habove hhides]
  have hsides := Word.value_of_vars hvalue htight
  constructor
  · rw [hdiffers, heval (by decide), evalEquality_differs, hsides, bne_self_eq_false]
  · intro h
    rw [hequals, heval (by decide)]
    rcases hoccurs : occursIn ['!', '='] literal.toList with _ | _
    · rw [evalEquality_equals _ hoccurs, hsides, beq_self_eq_true]
    · have hnames := h.resolve_left (by simp [hoccurs])
      exact evalEquality_equals_of_names hquote hnames hoccurs

/-- A store with one variable. -/
def holding (literal : String) : Store :=
  Store.setVar {} "x" (.str literal)

theorem evaluate_quoted_group :
    evaluate (holding "(a && b).success").scope "$x != \"(a && b).success\"" = .ok false ∧
      evaluate (holding "(a && b).success").scope "$x == \"(a && b).success\"" = .ok true := by
  let x : Word := ⟨['x'], by decide, by decide⟩
  have hhides : ∀ op ∈ connectives, Hides op "(a && b).success".toList := by
    rw [connectives, List.forall_mem_cons, List.forall_mem_singleton]
    exact ⟨hides_of_notMem_outside (by decide) (by decide) (by decide) (by decide),
      .inl (by decide)⟩
  have hvalue : (holding "(a && b).success").vars.get? x.text = some (.str "(a && b).success") :=
    rfl
  have h := evaluate_quoted hvalue ⟨by decide, by decide⟩ (by decide) (by decide) (by decide)
    (by decide) hhides
  exact ⟨h.1, h.2 (.inl (by decide))⟩

/-- A connective in the literal splits the comparison, and the first part does not hold. -/
theorem evaluate_quoted_and :
    (holding "a && b").vars.get? "x" = some (.str "a && b") ∧ Tight "a && b".toList ∧
      (∀ c ∈ ['"', '\''], c ∉ "a && b".toList) ∧ Template.hasTemplate "a && b" = false ∧
      evaluate (holding "a && b").scope "$x == \"a && b\"" = .ok false := by
  refine ⟨rfl, ⟨by decide, by decide⟩, by decide, by decide, ?_⟩
  have hcore : core "$x == \"a && b\"".toList = "$x == \"a && b\"".toList :=
    core_eq_self ⟨by decide, by decide⟩ (by decide)
  have hfirst : core "$x == \"a".toList = "$x == \"a".toList :=
    core_eq_self ⟨by decide, by decide⟩ (by decide)
  have hparts : split ['&', '&'] "$x == \"a && b\"".toList =
      .parts ["$x == \"a ".toList, " b\"".toList] := by decide
  have hfalse : eval (holding "a && b").scope "$x == \"a".toList = .ok false := by
    rw [eval_of_atom _ hfirst (by decide) (by decide) (by decide)]
    rfl
  have htrim : trim "$x == \"a ".toList = "$x == \"a".toList := by decide
  rw [evaluate_of_plain _ (by decide) (by decide), eval_of_and _ hcore hparts, List.map_cons, htrim,
    allHold, hfalse]

end RecipeRunner.Condition

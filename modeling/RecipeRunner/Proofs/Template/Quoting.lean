import RecipeRunner.Proofs.Template.Trees
import RecipeRunner.Template.Evaluation
/-!
# Texts as literals

A text between quotes, with the quotes and backslashes in it escaped, as the only token of an
action.  The action ends where the first closing delimiter stands, and quotes do not hide one.  So
a text is read back unless an action closes in it; then the literal is cut off before its closing
quote.

* `Source.ofChars_quoting`: where such an action ends.
* `readQuoted?_of_prefix`: nothing that escaping writes ends a literal.
* `parse_quoting`: what is read, and what it comes to.
-/

namespace RecipeRunner.Template

open Text (trim trimEnd occursIn cutAt?)

/-- A text with its quotes and backslashes escaped. -/
def escaped (s : String) : String :=
  String.ofList (s.toList.flatMap escape)

/-- A template whose only action is a text between quotes. -/
def quoting (s : String) : String :=
  "\x7b\x7b \"" ++ escaped s ++ "\" \x7d\x7d"

theorem toList_quoting (s : String) : (quoting s).toList =
    opening ++ (' ' :: '"' :: s.toList.flatMap escape ++ ('"' :: ' ' :: closing)) := by
  simp [quoting, escaped, opening, closing]

/-! ## Texts in which no action closes -/

theorem quoting_eq_write (s : String) : quoting s = write true [.action [[.literal (.str s)]]] := by
  rw [← String.toList_inj, toList_quoting, write, String.toList_ofList]
  simp [Node.listItems, Node.items, Pipeline.tokens, Arg.commandsTokens, Arg.argsTokens, Arg.tokens,
    Arg.literalTokens, Item.write, writeBody, writeTokens, Text.joinWith, Token.write]

theorem parse_quoting_of_open {s : String} (h : occursIn closing s.toList = false) :
    parse (quoting s) = .ok [.action [[.literal (.str s)]]] := by
  have hreadable : Item.Readable (Node.listItems [.action [[.literal (.str s)]]]) :=
    ⟨List.cons_ne_nil _ _, List.forall_mem_singleton.2 h, trivial⟩
  rw [quoting_eq_write, parse, items_write true hreadable]
  rfl

/-! ## Texts in which one closes -/

theorem getLast?_flatMap_escape (s : List Char) : (s.flatMap escape).getLast? = s.getLast? := by
  rcases List.eq_nil_or_concat s with rfl | ⟨front, c, rfl⟩
  · rfl
  · have hlast : (escape c).getLast? = some c := by
      rw [escape]
      split <;> rfl
    simp [List.getLast?_append, hlast]

/-- The first place where an action closes in a text is the first one in the escaped text. -/
theorem cutAt?_flatMap_escape {s before after : List Char}
    (h : cutAt? closing s = some (before, after)) (rest : List Char) :
    cutAt? closing (s.flatMap escape ++ rest) =
      some (before.flatMap escape, after.flatMap escape ++ rest) := by
  have hs := Text.eq_append_of_cutAt? h
  have hopen : occursIn closing before = false := by
    rw [← Bool.not_eq_true, Text.occursIn_iff]
    rintro ⟨front, back, hbefore⟩
    have hsplit : s = front ++ (closing ++ (back ++ closing ++ after)) := by
      rw [hs, hbefore]
      simp
    have hlength := Text.length_le_of_cutAt? h hsplit
    rw [hbefore] at hlength
    simp [closing] at hlength
  have hlast : before.getLast? ≠ some '\x7d' := by
    intro hlast
    obtain ⟨front, rfl⟩ := List.getLast?_eq_some_iff.1 hlast
    have hsplit : s = front ++ (closing ++ '\x7d' :: after) := by
      rw [hs]
      simp [closing]
    have hlength := Text.length_le_of_cutAt? h hsplit
    simp at hlength
  have hopen' : occursIn ['\x7d', '\x7d'] (before.flatMap escape) = false := by
    rw [← Bool.not_eq_true] at hopen ⊢
    exact mt Token.occursIn_closing_of_flatMap_escape hopen
  have hlast' : (before.flatMap escape).getLast? ≠ some '\x7d' := by
    rwa [getLast?_flatMap_escape]
  have hcut := Text.cutAt?_pair_append hopen' hlast' (after.flatMap escape ++ rest)
  rw [hs, ← hcut]
  simp [closing, escape]

/-- Nothing that escaping writes ends a literal. -/
theorem readQuoted?_of_prefix {s front : List Char} (h : front <+: s.flatMap escape) :
    Token.readQuoted? front = none := by
  induction s generalizing front with
  | nil =>
    obtain rfl := List.prefix_nil.1 h
    rfl
  | cons c s ih =>
    rw [List.flatMap_cons, escape] at h
    cases front with
    | nil => rfl
    | cons d front =>
      split at h
      · obtain ⟨rfl, hmarked⟩ := List.cons_prefix_cons.1 h
        cases front with
        | nil => rfl
        | cons e front =>
          obtain ⟨-, hrest⟩ : e = c ∧ front <+: s.flatMap escape :=
            List.cons_prefix_cons.1 hmarked
          rw [Token.readQuoted?, ih hrest]
          rfl
      · next hplain =>
        obtain ⟨rfl, hrest⟩ : d = c ∧ front <+: s.flatMap escape := List.cons_prefix_cons.1 h
        rw [Token.readQuoted?, ih hrest]
        · rfl
        all_goals simp_all

/-- A dash or blanks before the closing delimiter leave the start of the literal. -/
theorem exists_inside_eq (cs : List Char) :
    ∃ front, front <+: cs ∧ Item.inside (' ' :: '"' :: cs) = '"' :: front := by
  have htrim : ∀ front : List Char, trim (' ' :: '"' :: front) = '"' :: trimEnd front := by
    intro front
    have hblank : trim (' ' :: '"' :: front) = trim ('"' :: front) := rfl
    rw [hblank, Text.trim_cons (by decide)]
  have hfront : ∀ front : List Char, trimEnd front <+: front := by
    intro front
    obtain ⟨dropped, heq, -⟩ := Text.dropEndWhile_append Text.isBlank front
    exact ⟨dropped, heq.symm⟩
  unfold Item.inside
  split
  · next hdash =>
    cases cs with
    | nil => exact absurd hdash (by decide)
    | cons c cs =>
      refine ⟨trimEnd (c :: cs).dropLast, (hfront _).trans (List.dropLast_prefix _), ?_⟩
      rw [← htrim]
      rfl
  · exact ⟨trimEnd cs, hfront cs, htrim cs⟩

theorem ofBody_of_prefix {s front : List Char} (h : front <+: s.flatMap escape) :
    Item.ofBody (' ' :: '"' :: front) = .error .unterminatedString := by
  obtain ⟨start, hstart, hinside⟩ := exists_inside_eq front
  have hnext : Token.next '"' start = .error .unterminatedString := by
    simp [Token.next, readQuoted?_of_prefix (hstart.trans h)]
  have htokens : tokenize ('"' :: start) = .error .unterminatedString := by
    rw [tokenize_cons (by decide), hnext]
    rfl
  have hcomment : Text.startsWith ['/', '*'] ('"' :: start) = false := rfl
  simp only [Item.ofBody, hinside, hcomment, htokens, Bool.false_eq_true, if_false,
    List.isEmpty_cons]
  rfl

/-- The action ends inside the literal. -/
theorem ofChars_quoting {s : String} {before after : List Char}
    (h : cutAt? closing s.toList = some (before, after)) :
    ∃ rest, Source.ofChars (quoting s).toList =
      .action [] ⟨false, ' ' :: '"' :: before.flatMap escape⟩ rest := by
  have hcut := cutAt?_flatMap_escape h ('"' :: ' ' :: closing)
  have hopening : cutAt? opening (quoting s).toList =
      some ([], ' ' :: '"' :: (s.toList.flatMap escape ++ ('"' :: ' ' :: closing))) := by
    rw [toList_quoting]
    exact Text.cutAt?_append ['\x7b'] _ List.not_mem_nil
  have hclosing : cutAt? closing
      (' ' :: '"' :: (s.toList.flatMap escape ++ ('"' :: ' ' :: closing))) =
        some (' ' :: '"' :: before.flatMap escape,
          after.flatMap escape ++ ('"' :: ' ' :: closing)) := by
    rw [cutAt?, cutAt?, hcut]
    rfl
  exact ⟨_, Source.ofChars_of_action hopening hclosing⟩

theorem parse_quoting_of_closing {s : String} (h : occursIn closing s.toList = true) :
    parse (quoting s) = .error .unterminatedString := by
  obtain ⟨⟨before, after⟩, hcut⟩ := Option.isSome_iff_exists.1 h
  obtain ⟨rest, hsource⟩ := ofChars_quoting hcut
  have hbody := ofBody_of_prefix (List.prefix_refl (before.flatMap escape))
  rw [parse, items, hsource, Item.ofSource, hbody]
  rfl

/-! ## What is read -/

theorem hasTemplate_quoting (s : String) : hasTemplate (quoting s) = true := by
  rw [hasTemplate, toList_quoting]
  exact Text.occursIn_append [] opening _

/-- A text between quotes is read as itself and comes to itself, unless an action closes in it: then
the action ends there, and the literal has no closing quote. -/
theorem parse_quoting (s : String) :
    parse (quoting s) =
        (if occursIn closing s.toList then .error .unterminatedString
        else .ok [.action [[.literal (.str s)]]]) ∧
      ∀ b : Bindings, renderRaw b (quoting s) =
        if occursIn closing s.toList then .error (.templateSyntax .unterminatedString)
        else .ok s := by
  by_cases h : occursIn closing s.toList = true
  · have hparse := parse_quoting_of_closing h
    refine ⟨by rw [hparse, if_pos h], fun b => ?_⟩
    rw [renderRaw, if_pos (hasTemplate_quoting s), hparse, if_pos h]
  · have hparse := parse_quoting_of_open (Bool.not_eq_true _ ▸ h)
    refine ⟨by rw [hparse, if_neg h], fun b => ?_⟩
    rw [renderRaw, if_pos (hasTemplate_quoting s), hparse, if_neg h]
    simp [renderNodes, renderNode, evalPipeline, evalCommands, evalCommand, evalArg, bind,
      Except.bind, pure, Except.pure]

example : (quoting "a\"\\b").toList = "\x7b\x7b \"a\\\"\\\\b\" \x7d\x7d".toList := by decide

/-- The delimiter that closes actions is no literal. -/
theorem parse_quoting_closing :
    quoting "\x7d\x7d" = "\x7b\x7b \"\x7d\x7d\" \x7d\x7d" ∧
      parse (quoting "\x7d\x7d") ≠ .ok [.action [[.literal (.str "\x7d\x7d")]]] := by
  refine ⟨rfl, fun h => ?_⟩
  rw [parse_quoting_of_closing (by decide)] at h
  cases h

end RecipeRunner.Template

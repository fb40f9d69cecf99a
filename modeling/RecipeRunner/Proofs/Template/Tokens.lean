import RecipeRunner.Proofs.Decimal.Integer
import RecipeRunner.Proofs.Template.Writing
import RecipeRunner.Proofs.Text.Blank
/-!
# Reading tokens

Tokens are read from what is written for them.  A token ends where the blank behind it stands: no
token goes on with a blank, except a text between its quotes, and that one ends at its quote.

* `Token.next_write`: one token, with a blank or nothing behind it.
* `tokenize_writeTokens`: tokens in a row.
-/

namespace RecipeRunner.Template

open Text (isBlank occursIn)

/-- Nothing or a blank: what stands behind a token. -/
def StartsBlank (rest : List Char) : Prop :=
  ∀ c ∈ rest.head?, c = ' '

theorem startsBlank_nil : StartsBlank [] := by
  intro c hc
  cases hc

theorem startsBlank_cons (rest : List Char) : StartsBlank (' ' :: rest) := by
  intro c hc
  exact (Option.some.inj hc).symm

theorem StartsBlank.not_head? {rest : List Char} (h : StartsBlank rest) {p : Char → Bool}
    (hp : p ' ' = false) : ∀ c ∈ rest.head?, p c = false := by
  intro c hc
  rw [h c hc, hp]

/-- What is taken of a text ends where the first character stands that does not satisfy the
predicate. -/
theorem takeWhile_append_of_head? {p : Char → Bool} {front rest : List Char}
    (hfront : ∀ c ∈ front, p c = true) (hrest : ∀ c ∈ rest.head?, p c = false) :
    (front ++ rest).takeWhile p = front := by
  rw [List.takeWhile_append_of_pos hfront]
  cases rest with
  | nil => exact List.append_nil front
  | cons c rest =>
    rw [List.takeWhile_cons_of_neg (by simp [hrest c rfl]), List.append_nil]

theorem dropWhile_append_of_head? {p : Char → Bool} {front rest : List Char}
    (hfront : ∀ c ∈ front, p c = true) (hrest : ∀ c ∈ rest.head?, p c = false) :
    (front ++ rest).dropWhile p = rest := by
  rw [List.dropWhile_append_of_pos hfront, Text.dropWhile_eq_self_of_head? hrest]

namespace Token

theorem isAlphanumeric_of_isFieldChar {c : Char} (h : isFieldChar c = true) :
    Unicode.isAlphanumeric c = true ∨ c = '_' ∨ c = '-' ∨ c = '.' := by
  simpa [isFieldChar, or_assoc] using h

theorem isBlank_of_isFieldChar {c : Char} (h : isFieldChar c = true) : isBlank c = false := by
  rcases isAlphanumeric_of_isFieldChar h with h | rfl | rfl | rfl
  · rw [← Bool.not_eq_true]
    intro hblank
    rw [Unicode.isAlphanumeric_of_isBlank hblank] at h
    cases h
  all_goals decide

theorem isFieldChar_of_isWordPart {c : Char} (h : isWordPart c = true) :
    isFieldChar c = true := by
  simp only [isWordPart, Bool.or_eq_true] at h
  rcases h with h | h <;> simp [isFieldChar, h]

/-! ## Texts -/

theorem readQuoted?_flatMap_escape (s rest : List Char) :
    readQuoted? (s.flatMap escape ++ '"' :: rest) = some (s, rest) := by
  induction s with
  | nil => rfl
  | cons c s ih =>
    rw [List.flatMap_cons, List.append_assoc, escape]
    split
    · next hescaped =>
      have hread : readQuoted? (['\\', c] ++ (s.flatMap escape ++ '"' :: rest)) =
          some (unescape c :: s, rest) := by
        rw [List.cons_append, List.singleton_append, readQuoted?, ih]
        rfl
      rw [hread]
      rcases hescaped with rfl | rfl <;> rfl
    · next hplain =>
      simp only [not_or] at hplain
      rw [List.singleton_append, readQuoted?, ih]
      · rfl
      all_goals simp_all

/-! ## One token -/

section

variable {c : Char} {cs rest : List Char}

theorem next_field (hne : cs ≠ []) (hcs : ∀ d ∈ cs, isFieldChar d = true)
    (hrest : StartsBlank rest) :
    next '.' (cs ++ rest) = .ok (.field (String.ofList cs), rest) := by
  have hblank := hrest.not_head? (p := isFieldChar) (by decide)
  have htake := takeWhile_append_of_head? hcs hblank
  have hdrop := dropWhile_append_of_head? hcs hblank
  simp [next, htake, hdrop, hne]

theorem next_dot (hrest : StartsBlank rest) : next '.' rest = .ok (.dot, rest) := by
  have hblank := hrest.not_head? (p := isFieldChar) (by decide)
  have hfront : ∀ c ∈ ([] : List Char), isFieldChar c = true := List.forall_mem_nil _
  have htake := takeWhile_append_of_head? hfront hblank
  rw [List.nil_append] at htake
  simp [next, htake]

theorem next_quote (s rest : List Char) :
    next '"' (s.flatMap escape ++ '"' :: rest) = .ok (.str (String.ofList s), rest) := by
  simp [next, readQuoted?_flatMap_escape]

theorem next_word (hc : isWordStart c = true) (hcs : ∀ d ∈ cs, isWordPart d = true)
    (hrest : StartsBlank rest) :
    next c (cs ++ rest) = .ok (ofWord (String.ofList (c :: cs)), rest) := by
  have hmark : c ∉ ['|', '(', ')', '"', '\x60', '.', '$', '-'] := by
    intro hmem
    have hall : ∀ d ∈ ['|', '(', ')', '"', '\x60', '.', '$', '-'], isWordStart d = false := by
      decide
    rw [hall c hmem] at hc
    cases hc
  have hdigit : Decimal.isDigit c = false := by
    rw [← Bool.not_eq_true]
    intro hdigit
    have := Decimal.of_isDigit (p := fun d => !isWordStart d) (by decide) hdigit
    simp [hc] at this
  have hblank := hrest.not_head? (p := isWordPart) (by decide)
  have htake := takeWhile_append_of_head? hcs hblank
  have hdrop := dropWhile_append_of_head? hcs hblank
  simp only [List.mem_cons, List.not_mem_nil, or_false, not_or] at hmark
  simp [next, hmark, hdigit, hc, htake, hdrop]

theorem readNumeral_append (hcs : ∀ d ∈ cs, Decimal.isDigit d = true) (hrest : StartsBlank rest) :
    readNumeral (cs ++ rest) = (cs, false, rest) := by
  have hblank := hrest.not_head? (p := Decimal.isDigit) (by decide)
  have htake := takeWhile_append_of_head? hcs hblank
  have hdrop := dropWhile_append_of_head? hcs hblank
  simp only [readNumeral, htake, hdrop]
  split
  · exact absurd (hrest '.' rfl) (by decide)
  · rfl

theorem next_numeral (hc : Decimal.isDigit c = true ∨ c = '-' ∧ cs ≠ [])
    (hcs : ∀ d ∈ cs, Decimal.isDigit d = true) {n : Int}
    (hread : Decimal.readBounded? (c :: cs) = some n) (hrest : StartsBlank rest) :
    next c (cs ++ rest) = .ok (.int n, rest) := by
  have hmark : c ∉ ['|', '(', ')', '"', '\x60', '.', '$'] := by
    intro hmem
    have hall : ∀ d ∈ ['|', '(', ')', '"', '\x60', '.', '$'],
      Decimal.isDigit d = false ∧ d ≠ '-' := by decide
    rcases hc with hc | hc
    · rw [(hall c hmem).1] at hc
      cases hc
    · exact (hall c hmem).2 hc.1
  have hstart : (Decimal.isDigit c || (c = '-' && startsWithDigit (cs ++ rest))) = true := by
    rcases hc with hc | ⟨rfl, hne⟩
    · simp [hc]
    · obtain ⟨d, ds, rfl⟩ := List.exists_cons_of_ne_nil hne
      simp [startsWithDigit, hcs d List.mem_cons_self]
  simp only [List.mem_cons, List.not_mem_nil, or_false, not_or] at hmark
  simp only [next, hmark, if_false, decide_false, Bool.or_self, hstart, if_true,
    readNumeral_append hcs hrest, ofNumeral?, hread, Option.map_some]
  rfl

theorem next_int {n : Int} (h : Decimal.fits n = true) (hrest : StartsBlank rest)
    (hwrite : (toString n).toList = c :: cs) : next c (cs ++ rest) = .ok (.int n, rest) := by
  have hread := Decimal.readBounded?_toString h
  rw [hwrite] at hread
  rw [Decimal.toList_toString] at hwrite
  split at hwrite
  · obtain ⟨rfl, rfl⟩ := List.cons.inj hwrite
    exact next_numeral (.inr ⟨rfl, Nat.toDigits_ne_nil⟩)
      (fun _ => Decimal.isDigit_of_mem_toDigits) hread hrest
  · have hdigit : ∀ d ∈ c :: cs, Decimal.isDigit d = true := by
      rw [← hwrite]
      exact fun _ => Decimal.isDigit_of_mem_toDigits
    exact next_numeral (.inl (hdigit c List.mem_cons_self))
      (fun d hd => hdigit d (List.mem_cons_of_mem c hd)) hread hrest

end

/-- A token is read from what is written for it, if a blank or nothing stands behind it. -/
theorem next_write {t : Token} (h : t.WellFormed) {rest : List Char} (hrest : StartsBlank rest) :
    ∃ c cs, t.write = c :: cs ∧ next c (cs ++ rest) = .ok (t, rest) := by
  cases t with
  | field name =>
    refine ⟨'.', name.toList, rfl, ?_⟩
    rw [next_field h.1 h.2 hrest, String.ofList_toList]
  | dot => exact ⟨'.', [], rfl, next_dot hrest⟩
  | word name =>
    obtain ⟨hne, hstart, hpart, htrue, hfalse⟩ := h
    obtain ⟨c, cs, hname⟩ := List.exists_cons_of_ne_nil hne
    rw [hname] at hstart hpart
    refine ⟨c, cs, hname, ?_⟩
    rw [next_word (hstart c rfl) (fun d hd => hpart d (List.mem_cons_of_mem c hd)) hrest, ← hname,
      String.ofList_toList, ofWord, if_neg htrue, if_neg hfalse]
  | str s =>
    refine ⟨'"', s.toList.flatMap escape ++ ['"'], rfl, ?_⟩
    rw [List.append_assoc, List.singleton_append, next_quote, String.ofList_toList]
  | int n =>
    obtain ⟨c, cs, hwrite⟩ : ∃ c cs, (toString n).toList = c :: cs := by
      refine List.exists_cons_of_ne_nil ?_
      rw [Decimal.toList_toString]
      exact List.append_ne_nil_of_right_ne_nil _ Nat.toDigits_ne_nil
    exact ⟨c, cs, hwrite, next_int h hrest hwrite⟩
  | float x => exact h.elim
  | bool b =>
    cases b with
    | true => exact ⟨'t', "rue".toList, rfl, next_word (by decide) (by decide) hrest⟩
    | false => exact ⟨'f', "alse".toList, rfl, next_word (by decide) (by decide) hrest⟩
  | pipe => exact ⟨'|', [], rfl, rfl⟩
  | openGroup => exact ⟨'(', [], rfl, rfl⟩
  | closeGroup => exact ⟨')', [], rfl, rfl⟩

/-! ## The characters of a token -/

/-- Characters that neither end a token nor belong to what closes an action. -/
def IsSolid (c : Char) : Prop :=
  isBlank c = false ∧ c ≠ '\x7d'

theorem isSolid_of_isFieldChar {c : Char} (h : isFieldChar c = true) : IsSolid c := by
  refine ⟨isBlank_of_isFieldChar h, ?_⟩
  rintro rfl
  revert h
  decide

/-- Only texts between quotes have other characters. -/
theorem isSolid_of_mem_write {t : Token} (h : t.WellFormed) (hstr : ∀ s, t ≠ .str s) {c : Char}
    (hc : c ∈ t.write) : IsSolid c := by
  cases t with
  | field name =>
    rcases List.mem_cons.1 hc with rfl | hc
    · exact ⟨by decide, by decide⟩
    · exact isSolid_of_isFieldChar (h.2 c hc)
  | word name =>
    obtain ⟨-, -, hpart, -⟩ := h
    exact isSolid_of_isFieldChar (isFieldChar_of_isWordPart (hpart c hc))
  | str s => exact absurd rfl (hstr s)
  | int n =>
    rw [write, Decimal.toList_toString] at hc
    rcases List.mem_append.1 hc with hc | hc
    · split at hc
      · obtain rfl := List.mem_singleton.1 hc
        exact ⟨by decide, by decide⟩
      · cases hc
    · exact isSolid_of_isFieldChar
        (Decimal.of_isDigit (by decide) (Decimal.isDigit_of_mem_toDigits hc))
  | float x => exact h.elim
  | bool b =>
    cases b with
    | true => exact isSolid_of_isFieldChar (List.all_eq_true.1 (by decide) c hc)
    | false => exact isSolid_of_isFieldChar (List.all_eq_true.1 (by decide) c hc)
  | dot | pipe | openGroup | closeGroup =>
    obtain rfl := List.mem_singleton.1 hc
    exact ⟨by decide, by decide⟩

theorem write_ne_nil {t : Token} (h : t.WellFormed) : t.write ≠ [] := by
  obtain ⟨c, cs, hwrite, -⟩ := next_write h startsBlank_nil
  rw [hwrite]
  exact List.cons_ne_nil c cs

theorem isSolid_head?_write {t : Token} (h : t.WellFormed) :
    ∀ c ∈ t.write.head?, IsSolid c := by
  intro c hc
  by_cases hstr : ∃ s, t = .str s
  · obtain ⟨s, rfl⟩ := hstr
    obtain rfl := Option.some.inj hc
    exact ⟨by decide, by decide⟩
  · exact isSolid_of_mem_write h (fun s hs => hstr ⟨s, hs⟩) (List.mem_of_mem_head? hc)

theorem isSolid_getLast?_write {t : Token} (h : t.WellFormed) :
    ∀ c ∈ t.write.getLast?, IsSolid c := by
  intro c hc
  by_cases hstr : ∃ s, t = .str s
  · obtain ⟨s, rfl⟩ := hstr
    rw [write, ← List.cons_append, List.getLast?_concat] at hc
    obtain rfl := Option.some.inj hc
    exact ⟨by decide, by decide⟩
  · exact isSolid_of_mem_write h (fun s hs => hstr ⟨s, hs⟩) (List.mem_of_getLast? hc)

theorem head?_flatMap_escape {s : List Char} {c : Char} (hc : c ≠ '\\')
    (h : (s.flatMap escape).head? = some c) : s.head? = some c := by
  cases s with
  | nil => exact h
  | cons d s =>
    rw [List.flatMap_cons, escape] at h
    split at h
    · exact absurd (Option.some.inj h).symm hc
    · exact h

/-- Escaping lets no action close that did not close before. -/
theorem occursIn_closing_of_flatMap_escape {s : List Char}
    (h : occursIn closing (s.flatMap escape) = true) : occursIn closing s = true := by
  induction s with
  | nil => exact h
  | cons c s ih =>
    rw [List.flatMap_cons, escape] at h
    refine Text.occursIn_pair_cons.2 ?_
    split at h
    · next hescaped =>
      have hc : c ≠ '\x7d' := by rcases hescaped with rfl | rfl <;> decide
      rw [List.cons_append, List.singleton_append] at h
      rcases Text.occursIn_pair_cons.1 h with ⟨hslash, -⟩ | h
      · exact absurd hslash (by decide)
      · rcases Text.occursIn_pair_cons.1 h with ⟨hbrace, -⟩ | h
        · exact absurd hbrace hc
        · exact .inr (ih h)
    · rcases Text.occursIn_pair_cons.1 h with ⟨hc, hhead⟩ | h
      · exact .inl ⟨hc, head?_flatMap_escape (by decide) hhead⟩
      · exact .inr (ih h)

/-- No action closes in what is written for a token. -/
theorem occursIn_closing_write {t : Token} (h : t.WellFormed) :
    occursIn closing t.write = false := by
  by_cases hstr : ∃ s, t = .str s
  · obtain ⟨s, rfl⟩ := hstr
    rw [← Bool.not_eq_true]
    intro hclosing
    rcases Text.occursIn_pair_cons.1 hclosing with ⟨hquote, -⟩ | hclosing
    · exact absurd hquote (by decide)
    · rcases Text.occursIn_append_cons (by decide) (by decide) hclosing with hin | hend
      · have hs : occursIn closing s.toList = false := h
        rw [occursIn_closing_of_flatMap_escape hin] at hs
        cases hs
      · cases hend
  · have hnot : '\x7d' ∉ t.write := by
      intro hmem
      exact (isSolid_of_mem_write h (fun s hs => hstr ⟨s, hs⟩) hmem).2 rfl
    exact Text.occursIn_eq_false_of_not_mem List.mem_cons_self hnot

/-! ## Dashes -/

/-- A dash in front belongs to a number. -/
theorem startsWithDigit_of_next {cs : List Char} {found : Token × List Char}
    (h : next '-' cs = .ok found) : startsWithDigit cs = true := by
  rw [← Bool.not_eq_false]
  intro hdigit
  have hnext : next '-' cs = .error (.unexpectedChar '-') := by
    simp [next, hdigit, show Decimal.isDigit '-' = false by decide,
      show isWordStart '-' = false by decide]
  rw [hnext] at h
  cases h

theorem isBlank_of_isDashBlank {c : Char} (h : isDashBlank c = true) : isBlank c = true := by
  simp only [isDashBlank, Bool.or_eq_true, decide_eq_true_eq] at h
  rcases h with (rfl | rfl) | rfl <;> decide

theorem isDashBlank_of_startsWithDash {cs : List Char} (h : startsWithDash cs = true) :
    ∃ c rest, cs = '-' :: c :: rest ∧ isDashBlank c = true := by
  unfold startsWithDash at h
  split at h
  · next c rest => exact ⟨c, rest, rfl, h⟩
  · cases h

/-- A token at the start of an action is not taken for a dash that trims. -/
theorem startsWithDash_write_append {t : Token} (h : t.WellFormed) (rest : List Char) :
    startsWithDash (t.write ++ rest) = false := by
  rw [← Bool.not_eq_true]
  intro hdash
  obtain ⟨b, more, heq, hb⟩ := isDashBlank_of_startsWithDash hdash
  obtain ⟨c, cs, hwrite, hnext⟩ := next_write h startsBlank_nil
  rw [hwrite, List.cons_append] at heq
  obtain ⟨rfl, htail⟩ := List.cons.inj heq
  have hdigit := startsWithDigit_of_next hnext
  cases cs with
  | nil => cases hdigit
  | cons d cs =>
    obtain ⟨rfl, -⟩ := List.cons.inj htail
    have hsolid := Decimal.of_isDigit (p := fun d => !isBlank d) (by decide) hdigit
    simp [isBlank_of_isDashBlank hb] at hsolid

/-- Nor is one at the end. -/
theorem endsWithDash_append_write {t : Token} (h : t.WellFormed) (front : List Char) :
    endsWithDash (front ++ t.write) = false := by
  rw [← Bool.not_eq_true]
  intro hdash
  obtain ⟨b, more, heq, hb⟩ := isDashBlank_of_startsWithDash hdash
  rw [List.reverse_append] at heq
  obtain ⟨c, cs, hcs⟩ : ∃ c cs, t.write.reverse = c :: cs :=
    List.exists_cons_of_ne_nil (by simpa using write_ne_nil h)
  rw [hcs, List.cons_append] at heq
  obtain ⟨rfl, htail⟩ := List.cons.inj heq
  cases cs with
  | nil =>
    -- The token would be a dash by itself.
    have hwrite : t.write = ['-'] := by simpa using congrArg List.reverse hcs
    obtain ⟨c, cs, hcons, hnext⟩ := next_write h startsBlank_nil
    obtain ⟨rfl, rfl⟩ := List.cons.inj (hwrite.symm.trans hcons)
    exact absurd (startsWithDigit_of_next hnext) (by decide)
  | cons d cs =>
    obtain ⟨rfl, -⟩ := List.cons.inj htail
    have hstr : ∀ s, t ≠ .str s := by
      rintro s rfl
      simp [write] at hcs
    have hmem : d ∈ t.write := List.mem_reverse.1 (by rw [hcs]; simp)
    have hsolid := (isSolid_of_mem_write h hstr hmem).1
    rw [isBlank_of_isDashBlank hb] at hsolid
    cases hsolid

/-- A token at the start of an action does not start a comment. -/
theorem startsWith_comment_write_append {t : Token} (h : t.WellFormed) (rest : List Char) :
    Text.startsWith ['/', '*'] (t.write ++ rest) = false := by
  obtain ⟨c, cs, hwrite, hnext⟩ := next_write h startsBlank_nil
  have hc : '/' ≠ c := by
    rintro rfl
    have hslash : ∀ cs, next '/' cs = .error (.unexpectedChar '/') := by
      simp [next, show Decimal.isDigit '/' = false by decide,
        show isWordStart '/' = false by decide]
    rw [hslash] at hnext
    cases hnext
  simp [hwrite, Text.startsWith, Text.afterStart?, hc]

end Token

/-! ## Tokens in a row -/

theorem writeTokens_cons_cons (t u : Token) (ts : List Token) :
    writeTokens (t :: u :: ts) = t.write ++ ' ' :: writeTokens (u :: ts) := by
  simp [writeTokens, Text.joinWith]

theorem writeTokens_singleton (t : Token) : writeTokens [t] = t.write := rfl

theorem tokenize_blank_cons {c : Char} (hc : isBlank c = true) (cs : List Char) :
    tokenize (c :: cs) = tokenize cs := by
  rw [tokenize, if_pos hc]

/-- What is not blank starts a token, and the other tokens are read behind it. -/
theorem tokenize_cons {c : Char} (hc : isBlank c = false) (cs : List Char) :
    tokenize (c :: cs) =
      Token.next c cs >>= fun (token, tail) => (tokenize tail).map (token :: ·) := by
  let others (found : Token × List Char) := (tokenize found.2).map (found.1 :: ·)
  rw [tokenize, if_neg (by simp [hc])]
  split
  · next hnext => exact (congrArg (· >>= others) hnext).symm
  · next hnext => exact (congrArg (· >>= others) hnext).symm

theorem tokenize_write_append {t : Token} (h : t.WellFormed) {rest : List Char}
    (hrest : StartsBlank rest) :
    tokenize (t.write ++ rest) = (tokenize rest).map (t :: ·) := by
  obtain ⟨c, cs, hwrite, hnext⟩ := Token.next_write h hrest
  have hblank : isBlank c = false := by
    have hsolid := Token.isSolid_head?_write h
    rw [hwrite] at hsolid
    exact (hsolid c rfl).1
  rw [hwrite, List.cons_append, tokenize_cons hblank, hnext]
  rfl

/-- Tokens are read from what is written for them. -/
theorem tokenize_writeTokens {tokens : List Token} (h : ∀ t ∈ tokens, t.WellFormed) :
    tokenize (writeTokens tokens) = .ok tokens := by
  induction tokens with
  | nil => exact tokenize.eq_1
  | cons t ts ih =>
    have ht := h t List.mem_cons_self
    have hts := ih fun u hu => h u (List.mem_cons_of_mem t hu)
    cases ts with
    | nil =>
      rw [writeTokens_singleton, ← List.append_nil t.write,
        tokenize_write_append ht startsBlank_nil]
      exact congrArg _ hts
    | cons u ts =>
      rw [writeTokens_cons_cons, tokenize_write_append ht (startsBlank_cons _),
        tokenize_blank_cons (by decide), hts]
      rfl

end RecipeRunner.Template

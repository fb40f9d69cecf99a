import RecipeRunner.Proofs.Pattern.Matching
import RecipeRunner.Redaction
/-!
# What redaction hides

The patterns of secrets are applied one after the other, so the pattern of passwords finds what
those of keys and of bearer tokens have left.  A password at the end of a text is hidden whenever
its keyword is still there then, and it is unless the text before the keyword ends in the start of a
key or of a token: the keyword is long enough to be taken for the rest of one.

* `Led.exists_append`: a text behind which a pattern does not go on is redacted by itself.
* `stays_of_not_endsOpen`: the keyword is left where no key or token is open before it.
* `exists_redactChars_append`: what comes of a text with a password behind it.
* `not_occursIn_redactChars`: the password is not in it, however its characters are written.
-/

namespace RecipeRunner.Redaction

open Pattern

variable {pattern start : Pattern} {chars last : CharSet} {t rest : List Char}

/-- How keys start. -/
def keyStart : Pattern :=
  oneWord ["sk-", "key-", "token-"]

/-- How bearer tokens start. -/
def bearerStart : Pattern :=
  seq (word "Bearer") (atLeast 1 (one blanks))

/-- A text that ends in a start and characters of a set. -/
def EndsOpen (start : Pattern) (chars : CharSet) (t : List Char) : Prop :=
  ∃ front head body, t = front ++ (head ++ body) ∧ start.Reads head ∧
    ∀ c ∈ body, chars.contains c = true

/-- A password behind its keyword. -/
def assignment (v : String) : List Char :=
  ("password=" ++ v).toList

/-- The patterns of keys and of bearer tokens leave a password and its keyword at the end of a
text. -/
def Stays (p v : String) : Prop :=
  assignment v <:+ bearerPattern.replaceIn mark.toList
    (keyPattern.replaceIn mark.toList (p.toList ++ assignment v))

/-- A text with its control characters written as on a line of a log. -/
def escaped (s : String) : String :=
  String.ofList (s.toList.flatMap escape)

theorem mark_toList : mark.toList = '[' :: ("REDACTED".toList ++ [']']) := by
  decide

theorem exists_of_blots {u : List Char} (h : Blots mark.toList t (u ++ rest))
    (hclose : ']' ∉ rest) : ∃ v, t = v ++ rest ∧ Blots mark.toList v u := by
  rw [mark_toList, ← List.cons_append] at h ⊢
  exact h.exists_of_append hclose

/-! ## Letters and digits -/

theorem blanks_of_isAlphanum {c : Char} (hc : c.isAlphanum = true) : blanks.contains c = false :=
  Unicode.of_isAlphanum (P := fun c => blanks.contains c = false) (by decide +kernel) hc

theorem hyphen_of_isAlphanum {c : Char} (hc : c.isAlphanum = true) :
    (CharSet.anyCase (.single '-')).contains c = false :=
  Unicode.of_isAlphanum (P := fun c => (CharSet.anyCase (.single '-')).contains c = false)
    (by decide +kernel) hc

theorem assignment_eq (v : String) : assignment v = "password=".toList ++ v.toList :=
  String.toList_append

theorem forall_mem_assignment {P : Char → Prop} {v : String}
    (hkeyword : ∀ c ∈ "password=".toList, P c) (hall : ∀ c, c.isAlphanum = true → P c)
    (hv : ∀ c ∈ v.toList, c.isAlphanum = true) : ∀ c ∈ assignment v, P c := by
  rw [assignment_eq]
  exact List.forall_mem_append.2 ⟨hkeyword, fun c hc => hall c (hv c hc)⟩

/-! ## Keys and bearer tokens -/

/-- A pattern that reads a start and then characters of a set, where a start has a last character
that tells it. -/
structure Led (pattern start : Pattern) (chars last : CharSet) : Prop where
  reads : ∀ w, pattern.Reads w → ∃ head body, w = head ++ body ∧ start.Reads head ∧
    ∀ c ∈ body, chars.contains c = true
  ends : start.EndsIn last

theorem led_keyPattern :
    Led keyPattern keyStart (keyChars ['_', '-']) (.anyCase (.single '-')) where
  reads w h := by
    obtain ⟨head, body, rfl, hhead, hbody⟩ := reads_seq_iff.1 h
    exact ⟨head, body, rfl, hhead, (forall_contains_of_reads hbody).2⟩
  ends := by
    have hword (s : String) : (seqs (s.toList.map (fun c => one (.anyCase (.single c))) ++
        [one (.anyCase (.single '-'))])).EndsIn (.anyCase (.single '-')) := (endsIn_one _).seqs _
    exact .alt (hword "sk") (.alt (hword "key") (hword "token"))

theorem led_bearerPattern :
    Led bearerPattern bearerStart (keyChars ['_', '-', '.']) blanks where
  reads w h := by
    obtain ⟨name, back, rfl, hname, hback⟩ := reads_seq_iff.1 h
    obtain ⟨gap, back, rfl, hgap, hback⟩ := reads_seq_iff.1 hback
    obtain ⟨body, none, rfl, hbody, hnone⟩ := reads_seq_iff.1 hback
    refine ⟨name ++ gap, body, ?_, .seq hname hgap, (forall_contains_of_reads hbody).2⟩
    rw [reads_empty_iff.1 hnone, List.append_nil, List.append_assoc]
  ends := (endsIn_atLeast 0 blanks).seq _

/-- A pattern does not start in a text in which no start can end. -/
theorem Led.matchAt?_eq_none (h : Led pattern start chars last)
    (hrest : ∀ c ∈ rest, last.contains c = false) (before : List Char) :
    pattern.matchAt? ⟨before, rest⟩ = none := by
  rw [Option.eq_none_iff_forall_ne_some]
  intro q hq
  obtain ⟨w, hafter, hw⟩ := exists_reads_of_matchAt? hq
  obtain ⟨head, body, rfl, hhead, -⟩ := h.reads w hw
  obtain ⟨front, c, rfl, hc⟩ := h.ends head hhead
  have hmem : c ∈ rest := by
    rw [show rest = _ from hafter]
    simp
  exact absurd hc (by simp [hrest c hmem])

/-- Where no start can end in a text, and the text before it does not end in an open one, no match
reaches into it. -/
theorem Led.length_le_of_matchAt? (h : Led pattern start chars last)
    (hrest : ∀ c ∈ rest, last.contains c = false) (hopen : ¬EndsOpen start chars t)
    {part : List Char} (hpart : part <:+ t) {before : List Char} {q : Pattern.Place}
    (hq : pattern.matchAt? ⟨before, part ++ rest⟩ = some q) : rest.length ≤ q.after.length := by
  obtain ⟨w, hafter, hw⟩ := exists_reads_of_matchAt? hq
  obtain ⟨head, body, rfl, hhead, hbody⟩ := h.reads w hw
  rw [List.append_assoc] at hafter
  change part ++ rest = _ at hafter
  obtain ⟨gap, rfl, hback⟩ | ⟨gap, hsplit, hback⟩ := List.append_eq_append_iff.1 hafter
  · obtain ⟨front, c, hlast, hc⟩ := h.ends _ hhead
    -- a start that ends behind the first text ends in a character of the second one
    rcases List.eq_nil_or_concat gap with rfl | ⟨gap, d, rfl⟩
    · obtain ⟨front, rfl⟩ := hpart
      exact absurd ⟨front, part, [], by simp, by simpa using hhead, List.forall_mem_nil _⟩ hopen
    · rw [List.concat_eq_append, ← List.append_assoc] at hlast
      obtain rfl := (List.cons.inj (List.append_inj' hlast rfl).2).1
      have hmem : d ∈ rest := by simp [hback]
      exact absurd hc (by simp [hrest d hmem])
  · obtain ⟨_, -, hrest'⟩ | ⟨_, rfl, -⟩ := List.append_eq_append_iff.1 hback
    · rw [hrest', List.length_append]
      exact Nat.le_add_left _ _
    · obtain ⟨front, rfl⟩ := hpart
      refine absurd ⟨front, head, gap, by rw [hsplit], hhead, fun c hc => ?_⟩ hopen
      exact hbody c (List.mem_append_left _ hc)

/-- A text behind which a pattern does not go on is redacted by itself. -/
theorem Led.exists_append (h : Led pattern start chars last)
    (hrest : ∀ c ∈ rest, last.contains c = false) (hopen : ¬EndsOpen start chars t)
    (mark : List Char) :
    ∃ u, pattern.replaceIn mark (t ++ rest) = u ++ rest ∧ Blots mark t u := by
  refine (rewrites_replaceIn pattern mark (t ++ rest)).exists_append ?_ ?_
  · exact fun part hpart _ before q => h.length_le_of_matchAt? hrest hopen hpart
  · exact fun part hpart _ before =>
      h.matchAt?_eq_none (fun c hc => hrest c (hpart.subset hc)) before

/-- A text is not open behind a character that neither ends a start nor stands behind one. -/
theorem Led.not_endsOpen (h : Led pattern start chars last) {c : Char}
    (hchars : chars.contains c = false) (hlast : last.contains c = false) (t : List Char) :
    ¬EndsOpen start chars (t ++ [c]) := by
  rintro ⟨front, head, body, heq, hhead, hbody⟩
  rcases List.eq_nil_or_concat body with rfl | ⟨body, d, rfl⟩
  · obtain ⟨head, d, rfl, hd⟩ := h.ends head hhead
    rw [List.append_nil, ← List.append_assoc] at heq
    obtain rfl := (List.cons.inj (List.append_inj' heq rfl).2).1
    exact absurd hd (by simp [hlast])
  · rw [List.concat_eq_append, ← List.append_assoc, ← List.append_assoc] at heq
    obtain rfl := (List.cons.inj (List.append_inj' heq rfl).2).1
    exact absurd (hbody c (by simp)) (by simp [hchars])

/-- Marks in a text are no part of an open start. -/
theorem EndsOpen.of_blots {u : List Char} (h : EndsOpen start chars u)
    (hblots : Blots mark.toList t u) (hstart : start.mentions ']' = false)
    (hchars : chars.contains ']' = false) : EndsOpen start chars t := by
  obtain ⟨front, head, body, rfl, hhead, hbody⟩ := h
  have hclose : ']' ∉ head ++ body := by
    intro hmem
    rcases List.mem_append.1 hmem with hmem | hmem
    · exact absurd (hhead.mentions _ hmem) (by simp [hstart])
    · exact absurd (hbody _ hmem) (by simp [hchars])
  obtain ⟨front', rfl, -⟩ := exists_of_blots hblots hclose
  exact ⟨front', head, body, rfl, hhead, hbody⟩

theorem stays_of_not_endsOpen {p v : String} (hv : ∀ c ∈ v.toList, c.isAlphanum = true)
    (hkey : ¬EndsOpen keyStart (keyChars ['_', '-']) p.toList)
    (hbearer : ¬EndsOpen bearerStart (keyChars ['_', '-', '.']) p.toList) : Stays p v := by
  have hhyphens : ∀ c ∈ assignment v, (CharSet.anyCase (.single '-')).contains c = false :=
    forall_mem_assignment (by decide) (fun c => hyphen_of_isAlphanum) hv
  have hblanks : ∀ c ∈ assignment v, blanks.contains c = false :=
    forall_mem_assignment (by decide) (fun c => blanks_of_isAlphanum) hv
  obtain ⟨first, hfirst, hblots⟩ := led_keyPattern.exists_append hhyphens hkey mark.toList
  have hopen : ¬EndsOpen bearerStart (keyChars ['_', '-', '.']) first :=
    fun h => hbearer (h.of_blots hblots (by decide) (by decide))
  obtain ⟨second, hsecond, -⟩ := led_bearerPattern.exists_append hblanks hopen mark.toList
  exact ⟨second, by rw [hfirst, hsecond]⟩

/-! ## Passwords -/

theorem matchAt?_word (s : String)
    (hs : ∀ c ∈ s.toList, (CharSet.anyCase (.single c)).contains c = true)
    (before after : List Char) :
    (word s).matchAt? ⟨before, s.toList ++ after⟩ =
      some ⟨s.toList.reverse ++ before, after⟩ := by
  unfold word
  generalize s.toList = cs at hs
  induction cs generalizing before with
  | nil => rfl
  | cons c cs ih =>
    obtain ⟨hc, hcs⟩ := List.forall_mem_cons.1 hs
    rw [List.reverse_cons, List.append_assoc]
    exact matchAt?_seq_of_some (matchAt?_one hc before _) (ih (c :: before) hcs)

/-- A password without blanks is matched with its keyword, up to its end. -/
theorem matchAt?_passwordPattern {v : List Char} (hne : v ≠ [])
    (hv : ∀ c ∈ v, blanks.contains c = false) (before : List Char) :
    ∃ q, passwordPattern.matchAt? ⟨before, "password=".toList ++ v⟩ = some q ∧ q.after = [] := by
  have hkeyword : (oneWord ["password", "passwd", "pwd"]).matchAt?
      ⟨before, "password".toList ++ ("=".toList ++ v)⟩ =
        some ⟨"password".toList.reverse ++ before, "=".toList ++ v⟩ := by
    rw [oneWord, matchAt?_alt, matchAt?_word _ (by decide), Option.some_or]
    nofun
  have hgap (before : List Char) : (star (one blanks)).matchAt? ⟨before, "=".toList ++ v⟩ =
      some ⟨before, "=".toList ++ v⟩ := by
    refine matchAt?_star_of_not fun c hc => ?_
    obtain rfl : '=' = c := Option.some.inj hc
    decide
  have hequals := matchAt?_word "=" (by decide) ("password".toList.reverse ++ before) v
  have hgap' (before : List Char) : (star (one blanks)).matchAt? ⟨before, v⟩ = some ⟨before, v⟩ :=
    matchAt?_star_of_not fun c hc => hv c (List.mem_of_mem_head? hc)
  have hvalue (before : List Char) :
      (seq (atLeast 1 (one (.complement blanks))) empty).matchAt? ⟨before, v⟩ =
        some ⟨v.reverse ++ before, []⟩ := by
    rw [matchAt?_seq_empty]
    refine matchAt?_atLeast_of_forall (fun c hc => ?_) (List.length_pos_iff.2 hne)
    simp [hv c hc]
  exact ⟨_, matchAt?_seq_of_some hkeyword (matchAt?_seq_of_some (hgap _)
    (matchAt?_seq_of_some hequals (matchAt?_seq_of_some (hgap' _) (hvalue _)))), rfl⟩

/-- A password goes on to a blank or to the end of the text. -/
theorem head?_of_matchAt?_passwordPattern {p q : Pattern.Place}
    (h : passwordPattern.matchAt? p = some q) : ∀ c ∈ q.after.head?, blanks.contains c = true := by
  let P (q : Pattern.Place) : Prop := ∀ c ∈ q.after.head?, blanks.contains c = true
  have hvalue : ∀ p q,
      (seq (atLeast 1 (one (.complement blanks))) empty).matchAt? p = some q → P q := by
    intro p q hq c hc
    rw [matchAt?_seq_empty] at hq
    simpa using head?_of_matchAt?_atLeast hq c hc
  have hback := of_matchAt?_seq (P := P) (a := word "=")
    (of_matchAt?_seq (P := P) (a := star (one blanks)) hvalue)
  exact of_matchAt?_seq (P := P) (of_matchAt?_seq (P := P) (a := star (one blanks)) hback) p q h

/-- A match that reaches into a text without blanks goes on to its end. -/
theorem length_le_of_matchAt?_passwordPattern (hrest : ∀ c ∈ rest, blanks.contains c = false)
    {part before : List Char} {q : Pattern.Place}
    (hq : passwordPattern.matchAt? ⟨before, part ++ rest⟩ = some q) :
    rest.length ≤ q.after.length ∨ q.after = [] := by
  obtain ⟨w, hafter, -⟩ := exists_reads_of_matchAt? hq
  obtain ⟨gap, -, hsplit⟩ | ⟨gap, -, hback⟩ := List.append_eq_append_iff.1 hafter
  · refine .inr (List.eq_nil_iff_forall_not_mem.2 fun c hc => ?_)
    obtain ⟨d, back, hcons⟩ := List.exists_cons_of_ne_nil (List.ne_nil_of_mem hc)
    have hblank := head?_of_matchAt?_passwordPattern hq d (by rw [hcons]; rfl)
    have hmem : d ∈ rest := by simp [hsplit, hcons]
    exact absurd hblank (by simp [hrest d hmem])
  · rw [hback, List.length_append]
    exact .inl (Nat.le_add_left _ _)

/-- A text with a password behind it is redacted in three steps: the first two replace parts of the
text before the keyword, and the last one replaces the rest with what is left of its end. -/
theorem exists_redactChars_append {p v : String} (hne : v ≠ "")
    (hv : ∀ c ∈ v.toList, c.isAlphanum = true) (hstays : Stays p v) :
    ∃ first second part u, Blots mark.toList p.toList first ∧ Blots mark.toList first second ∧
      part <+: second ∧ Blots mark.toList part u ∧
        redactChars (p.toList ++ assignment v) = u ++ mark.toList := by
  have hother : ∀ c ∈ assignment v, c ≠ ']' :=
    forall_mem_assignment (by decide) (fun c hc h => by simp [h] at hc) hv
  have hclose : ']' ∉ assignment v := fun hmem => hother _ hmem rfl
  -- a mark that covered some of the keyword or password would leave its last character in them
  obtain ⟨second, hsecond⟩ := hstays
  obtain ⟨first, hfirst, hblots'⟩ :=
    exists_of_blots (hsecond ▸ (rewrites_replaceIn _ _ _).blots) hclose
  obtain ⟨text, htext, hblots⟩ :=
    exists_of_blots (hfirst ▸ (rewrites_replaceIn _ _ _).blots) hclose
  obtain rfl := List.append_cancel_right htext
  have hblanks : ∀ c ∈ assignment v, blanks.contains c = false :=
    forall_mem_assignment (by decide) (fun c => blanks_of_isAlphanum) hv
  have hlast := rewrites_replaceIn passwordPattern mark.toList (second ++ assignment v)
  have hmatches := matchAt?_passwordPattern (v := v.toList) (by simpa using hne)
    fun c hc => blanks_of_isAlphanum (hv c hc)
  rw [← assignment_eq] at hmatches
  have hempty : assignment v ≠ [] := by simp [assignment_eq]
  obtain ⟨part, u, hpart, hu, hresult⟩ := hlast.exists_append_mark hempty
    (fun part _ _ before q => length_le_of_matchAt?_passwordPattern hblanks) hmatches
  refine ⟨first, second, part, u, hblots, hblots', hpart, hu, ?_⟩
  rw [← hresult, hsecond]
  rfl

/-- What letters and digits spell stands in a text with parts replaced only where it stood before,
whatever is written for the characters one by one. -/
theorem occursIn_of_blots {f : Char → List Char} (hf : mark.toList.flatMap f = mark.toList)
    {w t u : List Char} (hne : w ≠ []) (hw : ∀ c ∈ w, c.isAlphanum = true)
    (hmark : Text.occursIn w "REDACTED".toList = false) (h : Blots mark.toList t u)
    (hoccurs : Text.occursIn w (u.flatMap f) = true) : Text.occursIn w (t.flatMap f) = true := by
  have hwritten := h.flatMap f
  rw [hf, mark_toList] at hwritten
  refine (hwritten.occursIn hne (fun h => ?_) (fun h => ?_) hoccurs).resolve_right
    (Bool.not_eq_true _ ▸ hmark)
  · exact absurd (hw _ h) (by decide)
  · exact absurd (hw _ h) (by decide)

/-- A password behind its keyword is not in the redacted text, nor in what is written for its
characters one by one. -/
theorem not_occursIn_redactChars {f : Char → List Char}
    (hf : mark.toList.flatMap f = mark.toList) {p v : String} (hne : v ≠ "")
    (hv : ∀ c ∈ v.toList, c.isAlphanum = true)
    (hp : Text.occursIn v.toList (p.toList.flatMap f) = false)
    (hmark : Text.occursIn v.toList "REDACTED".toList = false) (hstays : Stays p v) :
    Text.occursIn v.toList ((redactChars (p.toList ++ assignment v)).flatMap f) = false := by
  obtain ⟨first, second, part, u, hfirst, hsecond, ⟨back, rfl⟩, hu, hresult⟩ :=
    exists_redactChars_append hne hv hstays
  have hnonempty : v.toList ≠ [] := by simpa using hne
  have hback {t u : List Char} := occursIn_of_blots hf (t := t) (u := u) hnonempty hv hmark
  rw [hresult, ← Bool.not_eq_true]
  intro hoccurs
  have hmarked : Blots mark.toList (part ++ []) (u ++ mark.toList) := hu.append (.blot [] .nil)
  rw [List.append_nil] at hmarked
  have hpart := hback hmarked hoccurs
  obtain ⟨before, after, hmid⟩ := Text.occursIn_iff.1 hpart
  have hwhole : Text.occursIn v.toList ((part ++ back).flatMap f) = true := by
    rw [List.flatMap_append, hmid, List.append_assoc, List.append_assoc]
    exact Text.occursIn_append _ _ _
  exact absurd (hback hfirst (hback hsecond hwhole)) (by simp [hp])

/-- A password is hidden, whatever stands before its keyword, if the patterns of keys and of bearer
tokens leave the keyword; they do unless the text before it ends in the start of a key or token.  In
a line of a log, an escape can still be written with the letters of the password. -/
theorem not_contains_redact_password {p v : String} (hne : v ≠ "")
    (hv : ∀ c ∈ v.toList, c.isAlphanum = true) (hp : Text.contains v p = false)
    (hmark : Text.contains v "REDACTED" = false) :
    (¬EndsOpen keyStart (keyChars ['_', '-']) p.toList →
      ¬EndsOpen bearerStart (keyChars ['_', '-', '.']) p.toList → Stays p v) ∧
    (Stays p v → Text.contains v (redact (p ++ "password=" ++ v)) = false ∧
      (Text.contains v (escaped p) = false →
        Text.contains v (sanitize (p ++ "password=" ++ v)) = false)) := by
  have hsplit : (p ++ "password=" ++ v).toList = p.toList ++ assignment v := by
    rw [String.append_assoc, String.toList_append, assignment]
  refine ⟨stays_of_not_endsOpen hv, fun hstays => ⟨?_, fun hescaped => ?_⟩⟩
  · have hsame (cs : List Char) : cs.flatMap ([·]) = cs := List.flatMap_singleton' cs
    have h := not_occursIn_redactChars (hsame _) hne hv (by rwa [hsame]) hmark hstays
    rwa [hsame, ← hsplit, ← String.toList_ofList (l := redactChars _)] at h
  · rw [Text.contains, escaped, String.toList_ofList] at hescaped
    have h := not_occursIn_redactChars (f := escape) (by decide) hne hv hescaped hmark hstays
    rwa [← hsplit, ← String.toList_ofList (l := List.flatMap _ _)] at h

theorem not_contains_redact_password_behind_key :
    (∀ c ∈ "hunter2".toList, c.isAlphanum = true) ∧
      ¬EndsOpen keyStart (keyChars ['_', '-']) "\tkey sk-abcdefgh1;".toList ∧
      ¬EndsOpen bearerStart (keyChars ['_', '-', '.']) "\tkey sk-abcdefgh1;".toList ∧
      Text.contains "hunter2" (redact ("\tkey sk-abcdefgh1;" ++ "password=" ++ "hunter2")) = false ∧
      Text.contains "hunter2" (sanitize ("\tkey sk-abcdefgh1;" ++ "password=" ++ "hunter2")) =
        false := by
  have hletters : ∀ c ∈ "hunter2".toList, c.isAlphanum = true := by decide
  have htext : "\tkey sk-abcdefgh1;".toList = "\tkey sk-abcdefgh1".toList ++ [';'] := by decide
  have hkey : ¬EndsOpen keyStart (keyChars ['_', '-']) "\tkey sk-abcdefgh1;".toList :=
    htext ▸ led_keyPattern.not_endsOpen (by decide) (by decide) _
  have hbearer : ¬EndsOpen bearerStart (keyChars ['_', '-', '.']) "\tkey sk-abcdefgh1;".toList :=
    htext ▸ led_bearerPattern.not_endsOpen (by decide) (by decide) _
  obtain ⟨hstays, hhides⟩ :=
    not_contains_redact_password (p := "\tkey sk-abcdefgh1;") (by decide) hletters (by decide)
      (by decide)
  obtain ⟨hredact, hsanitize⟩ := hhides (hstays hkey hbearer)
  exact ⟨hletters, hkey, hbearer, hredact, hsanitize (by decide)⟩

/-- The keyword is taken for the rest of a key that has only started, and a line feed is written
with a letter. -/
theorem redact_password_gaps :
    ((∀ c ∈ "hunter2".toList, c.isAlphanum = true) ∧ Text.contains "hunter2" "token-" = false ∧
      Text.contains "hunter2" "password" = false ∧ Text.contains "hunter2" "REDACTED" = false ∧
      redact ("token-" ++ "password=" ++ "hunter2") = "[REDACTED]=hunter2" ∧
      Text.contains "hunter2" (redact ("token-" ++ "password=" ++ "hunter2")) = true) ∧
    ((∀ c ∈ "n".toList, c.isAlphanum = true) ∧ Text.contains "n" "\n" = false ∧
      Text.contains "n" "password" = false ∧ Text.contains "n" "REDACTED" = false ∧
      sanitize ("\n" ++ "password=" ++ "n") = "\\n[REDACTED]" ∧
      Text.contains "n" (sanitize ("\n" ++ "password=" ++ "n")) = true) := by
  have hkeyword : redact ("token-" ++ "password=" ++ "hunter2") = "[REDACTED]=hunter2" := by decide
  have hescape : sanitize ("\n" ++ "password=" ++ "n") = "\\n[REDACTED]" := by decide
  refine ⟨⟨by decide, by decide, by decide, by decide, hkeyword, ?_⟩,
    ⟨by decide, by decide, by decide, by decide, hescape, ?_⟩⟩
  · rw [hkeyword]
    decide
  · rw [hescape]
    decide

end RecipeRunner.Redaction

import RecipeRunner.Proofs.Template.Source
import RecipeRunner.Proofs.Template.Tokens
/-!
# Reading items

Items are read from what is written for them.  The inside of an action has no delimiter in it, no
dash that trims and no mark of a comment, and a text has no delimiter in it, so a template is cut
where the items meet.

* `Item.ofBody_writeBody`: one action.
* `Item.ofSource_write`: items in a row.
-/

namespace RecipeRunner.Template

open Text (isBlank occursIn Tight)

/-! ## Actions -/

section

variable {tokens : List Token}

theorem exists_writeTokens_eq_append (hne : tokens ≠ []) :
    ∃ t ∈ tokens, ∃ rest, writeTokens tokens = t.write ++ rest := by
  match tokens, hne with
  | [t], _ => exact ⟨t, List.mem_cons_self, [], (List.append_nil _).symm⟩
  | t :: u :: ts, _ => exact ⟨t, List.mem_cons_self, _, writeTokens_cons_cons t u ts⟩

theorem exists_writeTokens_append_eq (hne : tokens ≠ []) :
    ∃ t ∈ tokens, ∃ front, writeTokens tokens = front ++ t.write := by
  induction tokens with
  | nil => exact absurd rfl hne
  | cons t ts ih =>
    cases ts with
    | nil => exact ⟨t, List.mem_cons_self, [], rfl⟩
    | cons u ts =>
      obtain ⟨v, hv, front, hfront⟩ := ih (List.cons_ne_nil u ts)
      refine ⟨v, List.mem_cons_of_mem t hv, t.write ++ ' ' :: front, ?_⟩
      rw [writeTokens_cons_cons, hfront, List.append_assoc, List.cons_append]

/-- No action closes between the tokens of another. -/
theorem occursIn_closing_writeTokens (h : ∀ t ∈ tokens, t.WellFormed) :
    occursIn closing (writeTokens tokens) = false := by
  induction tokens with
  | nil => rfl
  | cons t ts ih =>
    have ht := Token.occursIn_closing_write (h t List.mem_cons_self)
    have hts := ih fun u hu => h u (List.mem_cons_of_mem t hu)
    cases ts with
    | nil => exact ht
    | cons u ts =>
      rw [← Bool.not_eq_true]
      intro hclosing
      rw [writeTokens_cons_cons] at hclosing
      rcases Text.occursIn_append_cons (by decide) (by decide) hclosing with hin | hin
      · cases ht.symm.trans hin
      · cases hts.symm.trans hin

variable (hne : tokens ≠ []) (h : ∀ t ∈ tokens, t.WellFormed)

include hne h

theorem isSolid_head?_writeTokens : ∀ c ∈ (writeTokens tokens).head?, Token.IsSolid c := by
  obtain ⟨t, ht, rest, hwrite⟩ := exists_writeTokens_eq_append hne
  rw [hwrite, List.head?_append_of_ne_nil _ (Token.write_ne_nil (h t ht))]
  exact Token.isSolid_head?_write (h t ht)

theorem isSolid_getLast?_writeTokens : ∀ c ∈ (writeTokens tokens).getLast?, Token.IsSolid c := by
  obtain ⟨t, ht, front, hwrite⟩ := exists_writeTokens_append_eq hne
  rw [hwrite, List.getLast?_append_of_ne_nil _ (Token.write_ne_nil (h t ht))]
  exact Token.isSolid_getLast?_write (h t ht)

theorem tight_writeTokens : Tight (writeTokens tokens) :=
  ⟨fun c hc => (isSolid_head?_writeTokens hne h c hc).1,
    fun c hc => (isSolid_getLast?_writeTokens hne h c hc).1⟩

theorem writeTokens_ne_nil : writeTokens tokens ≠ [] := by
  obtain ⟨t, ht, rest, hwrite⟩ := exists_writeTokens_eq_append hne
  rw [hwrite]
  exact List.append_ne_nil_of_left_ne_nil (Token.write_ne_nil (h t ht)) rest

end

section

variable {tokens : List Token} (hne : tokens ≠ []) (h : ∀ t ∈ tokens, t.WellFormed)
  (padded : Bool)

include h

theorem occursIn_closing_writeBody : occursIn closing (writeBody padded tokens) = false := by
  have hclosing := occursIn_closing_writeTokens h
  cases padded with
  | false => exact hclosing
  | true =>
    rw [← Bool.not_eq_true]
    intro hbody
    rcases Text.occursIn_pair_cons.1 hbody with ⟨hblank, -⟩ | hin
    · exact absurd hblank (by decide)
    · rcases Text.occursIn_append_cons (by decide) (by decide) hin with hin | hin
      · cases hclosing.symm.trans hin
      · cases hin

include hne

theorem getLast?_writeBody_ne : (writeBody padded tokens).getLast? ≠ some '\x7d' := by
  cases padded with
  | false => exact fun hlast => (isSolid_getLast?_writeTokens hne h _ hlast).2 rfl
  | true =>
    rw [writeBody, if_pos rfl, ← List.cons_append, List.getLast?_concat]
    decide

theorem startsWithDash_writeBody_append (rest : List Char) :
    startsWithDash (writeBody padded tokens ++ rest) = false := by
  cases padded with
  | true => rfl
  | false =>
    obtain ⟨t, ht, more, hwrite⟩ := exists_writeTokens_eq_append hne
    have hbody : writeBody false tokens ++ rest = t.write ++ (more ++ rest) := by
      rw [← List.append_assoc, ← hwrite]
      rfl
    rw [hbody, Token.startsWithDash_write_append (h t ht)]

theorem endsWithDash_writeBody : endsWithDash (writeBody padded tokens) = false := by
  cases padded with
  | true => simp [endsWithDash, writeBody, startsWithDash]
  | false =>
    obtain ⟨t, ht, front, hwrite⟩ := exists_writeTokens_append_eq hne
    have hbody : writeBody false tokens = front ++ t.write := hwrite
    rw [hbody, Token.endsWithDash_append_write (h t ht)]

/-- A template is cut at the delimiters of an action that is written in it. -/
theorem ofChars_writeBody {before : List Char} (hbefore : occursIn opening before = false)
    (hlast : before.getLast? ≠ some '\x7b') (rest : List Char) :
    Source.ofChars (before ++ (opening ++ (writeBody padded tokens ++ closing)) ++ rest) =
      .action before ⟨false, writeBody padded tokens⟩ (Source.ofChars rest) := by
  have hopening : Text.cutAt? opening
      (before ++ (opening ++ (writeBody padded tokens ++ closing)) ++ rest) =
        some (before, writeBody padded tokens ++ (closing ++ rest)) := by
    rw [List.append_assoc, List.append_assoc, List.append_assoc]
    exact Text.cutAt?_pair_append hbefore hlast _
  have hsplit : Source.splitDash (writeBody padded tokens ++ (closing ++ rest)) =
      (false, writeBody padded tokens ++ (closing ++ rest)) := by
    rw [Source.splitDash, startsWithDash_writeBody_append hne h, if_neg Bool.false_ne_true]
  have hclosing : Text.cutAt? closing (writeBody padded tokens ++ (closing ++ rest)) =
      some (writeBody padded tokens, rest) :=
    Text.cutAt?_pair_append (occursIn_closing_writeBody h padded)
      (getLast?_writeBody_ne hne h padded) rest
  rw [Source.ofChars_of_action hopening (by rw [hsplit, hclosing]), hsplit]

namespace Item

theorem inside_writeBody : inside (writeBody padded tokens) = writeTokens tokens := by
  have htight := tight_writeTokens hne h
  rw [inside, endsWithDash_writeBody hne h, if_neg Bool.false_ne_true]
  cases padded with
  | false => exact Text.trim_of_tight htight
  | true => exact Text.trim_between [' '] [' '] (by decide) htight (by decide)

/-- An action is read from its tokens. -/
theorem ofBody_writeBody : ofBody (writeBody padded tokens) = .ok [.action tokens] := by
  have hcomment : Text.startsWith ['/', '*'] (writeTokens tokens) = false := by
    obtain ⟨t, ht, rest, hwrite⟩ := exists_writeTokens_eq_append hne
    rw [hwrite, Token.startsWith_comment_write_append (h t ht)]
  simp only [ofBody, inside_writeBody hne h, hcomment, Bool.false_eq_true, if_false,
    List.isEmpty_iff, writeTokens_ne_nil hne h, tokenize_writeTokens h]
  rfl

end Item

end

/-! ## Items in a row -/

namespace Item

/-- Whether an item is a text. -/
def isText : Item → Bool
  | .text _ => true
  | .action _ => false

/-- Items that are read from what is written for them: no two texts in a row. -/
def Readable : List Item → Prop
  | [] => True
  | .text t :: rest =>
    IsPlainText t ∧ (∀ item ∈ rest.head?, item.isText = false) ∧ Readable rest
  | .action tokens :: rest => tokens ≠ [] ∧ (∀ t ∈ tokens, t.WellFormed) ∧ Readable rest

theorem ofText_toList {t : String} (h : t.toList ≠ []) :
    ofText false false t.toList = [.text t] := by
  simp [ofText, h]

/-- Items are read from what is written for them behind a text that is still open. -/
theorem ofSource_write (padded : Bool) {found : List Item} (h : Readable found)
    {before : List Char} (hbefore : occursIn opening before = false)
    (hlast : before.getLast? ≠ some '\x7b')
    (hmeet : before = [] ∨ ∀ item ∈ found.head?, item.isText = false) (offset : Nat) :
    ofSource offset false (Source.ofChars (before ++ found.flatMap (write padded))) =
      .ok (ofText false false before ++ found) := by
  induction found generalizing before offset with
  | nil =>
    have hcut : Text.cutAt? opening before = none := by
      simpa [occursIn] using hbefore
    rw [List.flatMap_nil, List.append_nil, Source.ofChars_of_none hcut, ofSource,
      List.append_nil]
  | cons item rest ih =>
    cases item with
    | text t =>
      obtain ⟨⟨hne, hopening, hbrace⟩, hnext, hrest⟩ := h
      have hnone : before = [] := by
        refine hmeet.resolve_right fun hhead => ?_
        cases hhead _ rfl
      rw [List.flatMap_cons, hnone, List.nil_append, write,
        ih hrest hopening hbrace (.inr hnext), ofText_toList hne]
      rfl
    | action tokens =>
      obtain ⟨hne, htokens, hrest⟩ := h
      have hnone : occursIn opening [] = false := rfl
      have hread := ih hrest hnone (by decide) (.inl rfl)
      simp only [List.nil_append] at hread
      rw [List.flatMap_cons, write, ← List.append_assoc,
        ofChars_writeBody hne htokens padded hbefore hlast, ofSource,
        ofBody_writeBody hne htokens]
      simp only [endsWithDash_writeBody hne htokens, hread]
      simp [ofText, bind, Except.bind, pure, Except.pure]

end Item

end RecipeRunner.Template

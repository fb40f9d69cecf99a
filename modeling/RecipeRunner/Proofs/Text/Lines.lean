import RecipeRunner.Proofs.Text.Blank
import RecipeRunner.Recipe.Basic
/-!
# Items of texts

The items of a text depend on what stands between its line feeds only, and there not on the blanks
around it.  So blanks around the whole text do not matter either, and a text of items, one a line,
has these items again.

* `items_eq`: the items, from the pieces between line feeds.
* `items_append_newline`: line feeds part the items.
* `items_trim`, `items_intercalate`: trimming a text, and reading items that were written.
* `itemsOf_apply`: the items of an output, whatever its format.
-/

namespace RecipeRunner.Text

/-- Blanks around a text do not matter to trimming, whatever the text is. -/
theorem trim_blanks {before after : List Char} (hbefore : ∀ c ∈ before, isBlank c = true)
    (hafter : ∀ c ∈ after, isBlank c = true) (cs : List Char) :
    trim (before ++ cs ++ after) = trim cs := by
  obtain ⟨front, back, hcs, hfront, hback⟩ := exists_eq_append_trim cs
  have hlong : before ++ cs ++ after = (before ++ front) ++ trim cs ++ (back ++ after) := by
    conv_lhs => rw [hcs]
    simp only [List.append_assoc]
  rw [hlong]
  exact trim_between _ _ (List.forall_mem_append.2 ⟨hbefore, hfront⟩) (tight_trim cs)
    (List.forall_mem_append.2 ⟨hback, hafter⟩)

theorem trim_dropReturn (line : List Char) : trim (dropReturn line) = trim line := by
  unfold dropReturn
  split
  · next hreturn =>
    obtain ⟨front, rfl⟩ := List.getLast?_eq_some_iff.1 hreturn
    have hblank : ∀ c ∈ ['\r'], isBlank c = true := by decide
    rw [List.dropLast_concat]
    exact (trim_blanks (List.forall_mem_nil _) hblank front).symm
  · rfl

/-- The items are the trimmed pieces between line feeds that are not empty: a piece that is not a
line by itself has no item. -/
theorem items_eq (text : List Char) :
    items text = ((cutLines text).map trim).filter fun line => !line.isEmpty := by
  obtain ⟨front, last, hcut⟩ := (cutLines text).eq_nil_or_concat.resolve_left (cutLines_ne_nil text)
  have hfront : (front.map dropReturn).map trim = front.map trim := by
    rw [List.map_map]
    exact List.map_congr_left fun line _ => trim_dropReturn line
  rw [items, lines, hcut, List.concat_eq_append, List.dropLast_concat, List.getLast?_concat,
    Option.toList_some, List.map_append, List.filter_append, hfront, List.map_append,
    List.filter_append]
  congr 1
  cases last with
  | nil => rfl
  | cons c last => rfl

/-! ## Pieces -/

theorem cutLines_append_newline (front back : List Char) :
    cutLines (front ++ '\n' :: back) = cutLines front ++ cutLines back := by
  induction front with
  | nil => rfl
  | cons c front ih =>
    rw [List.cons_append, cutLines, cutLines, ih]
    split
    · rfl
    · obtain ⟨line, more, hcut⟩ := List.exists_cons_of_ne_nil (cutLines_ne_nil front)
      rw [hcut]
      rfl

theorem cutLines_of_notMem {line : List Char} (h : '\n' ∉ line) : cutLines line = [line] := by
  induction line with
  | nil => rfl
  | cons c line ih =>
    obtain ⟨hc, hline⟩ := not_or.1 (fun hmem => h (List.mem_cons.2 hmem))
    rw [cutLines, if_neg (Ne.symm hc), ih hline]

/-- No item lies on both sides of a line feed. -/
theorem items_append_newline (front back : List Char) :
    items (front ++ '\n' :: back) = items front ++ items back := by
  simp only [items_eq, cutLines_append_newline, List.map_append, List.filter_append]

/-- Blanks around a line do not matter to its item. -/
theorem items_of_blanks {before after line : List Char} (hbefore : ∀ c ∈ before, isBlank c = true)
    (hafter : ∀ c ∈ after, isBlank c = true) (h : '\n' ∉ before ++ line ++ after) :
    items (before ++ line ++ after) = items line := by
  have hline : '\n' ∉ line := fun hmem =>
    h (List.mem_append_left _ (List.mem_append_right _ hmem))
  rw [items_eq, items_eq, cutLines_of_notMem h, cutLines_of_notMem hline, List.map_singleton,
    List.map_singleton, trim_blanks hbefore hafter]

/-! ## Blanks around a text -/

theorem items_cons_blank {c : Char} (hc : isBlank c = true) (text : List Char) :
    items (c :: text) = items text := by
  by_cases hnewline : c = '\n'
  · subst hnewline
    exact items_append_newline [] text
  · have hfirst : ∀ line : List Char, '\n' ∉ line → items (c :: line) = items line := by
      intro line hline
      have hmem : '\n' ∉ [c] ++ line ++ [] := by simp [hline, Ne.symm hnewline]
      simpa using items_of_blanks (List.forall_mem_singleton.2 hc) (List.forall_mem_nil _) hmem
    by_cases hmem : '\n' ∈ text
    · obtain ⟨line, rest, rfl, hline⟩ := List.eq_append_cons_of_mem hmem
      rw [← List.cons_append, items_append_newline, items_append_newline, hfirst line hline]
    · exact hfirst text hmem

theorem items_append_blank {c : Char} (hc : isBlank c = true) (text : List Char) :
    items (text ++ [c]) = items text := by
  by_cases hnewline : c = '\n'
  · subst hnewline
    rw [items_append_newline]
    exact List.append_nil _
  · have hlast : ∀ line : List Char, '\n' ∉ line → items (line ++ [c]) = items line := by
      intro line hline
      have hmem : '\n' ∉ [] ++ line ++ [c] := by simp [hline, Ne.symm hnewline]
      simpa using items_of_blanks (List.forall_mem_nil _) (List.forall_mem_singleton.2 hc) hmem
    by_cases hmem : '\n' ∈ text
    · -- The last line feed of the text is the first one of its reverse.
      obtain ⟨line, rest, hreverse, hline⟩ := List.eq_append_cons_of_mem (List.mem_reverse.2 hmem)
      obtain rfl : text = rest.reverse ++ '\n' :: line.reverse := by
        rw [← List.reverse_reverse text, hreverse]
        simp
      rw [List.append_assoc, List.cons_append, items_append_newline, items_append_newline,
        hlast _ (by simpa using hline)]
    · exact hlast text hmem

/-- Trimming a text does not change its items. -/
theorem items_trim (text : List Char) : items (trim text) = items text := by
  obtain ⟨before, after, htext, hbefore, hafter⟩ := exists_eq_append_trim text
  have hfront : ∀ cs, items (before ++ cs) = items cs := by
    intro cs
    clear htext
    induction before with
    | nil => rfl
    | cons c before ih =>
      obtain ⟨hc, hrest⟩ := List.forall_mem_cons.1 hbefore
      rw [List.cons_append, items_cons_blank hc, ih hrest]
  have hback : ∀ cs, items (cs ++ after) = items cs := by
    intro cs
    clear htext
    induction after generalizing cs with
    | nil => rw [List.append_nil]
    | cons c after ih =>
      obtain ⟨hc, hrest⟩ := List.forall_mem_cons.1 hafter
      rw [List.append_cons, ih hrest, items_append_blank hc]
  conv_rhs => rw [htext, hback, hfront]

/-! ## Items that are written -/

/-- A text that is the item of a line of its own. -/
structure IsItem (cs : List Char) : Prop where
  ne_nil : cs ≠ []
  tight : Tight cs
  oneLine : '\n' ∉ cs

theorem isItem_of_mem_items {text item : List Char} (h : item ∈ items text) : IsItem item := by
  have hne := ne_nil_of_mem_items h
  rw [items_eq] at h
  obtain ⟨line, hline, rfl⟩ := List.mem_map.1 (List.mem_filter.1 h).1
  refine ⟨hne, tight_trim line, fun hmem => newline_not_mem_of_mem_cutLines hline ?_⟩
  obtain ⟨before, after, heq, -, -⟩ := exists_eq_append_trim line
  rw [heq]
  exact List.mem_append_left _ (List.mem_append_right _ hmem)

theorem IsItem.items_eq {item : List Char} (h : IsItem item) : items item = [item] := by
  rw [Text.items_eq, cutLines_of_notMem h.oneLine, List.map_singleton, trim_of_tight h.tight]
  exact List.filter_cons_of_pos (by simpa using h.ne_nil)

/-- Items that are written one a line are read again. -/
theorem items_intercalate {texts : List (List Char)} (h : ∀ item ∈ texts, IsItem item) :
    items (['\n'].intercalate texts) = texts := by
  match texts, h with
  | [], _ => rfl
  | [item], h =>
    rw [List.intercalate_singleton]
    exact (h item List.mem_cons_self).items_eq
  | item :: next :: rest, h =>
    obtain ⟨hitem, hrest⟩ := List.forall_mem_cons.1 h
    rw [List.intercalate_cons_cons, List.append_assoc, List.singleton_append, items_append_newline,
      hitem.items_eq, items_intercalate hrest]
    rfl

theorem itemsOf_intercalate (s : String) : itemsOf ("\n".intercalate (itemsOf s)) = itemsOf s := by
  have htexts : (itemsOf s).map String.toList = items s.toList := by
    rw [itemsOf, List.map_map]
    exact List.map_id'' (fun _ => String.toList_ofList) _
  rw [itemsOf, String.toList_intercalate, htexts]
  exact congrArg _ (items_intercalate fun item => isItem_of_mem_items)

theorem itemsOf_trimmed (s : String) : itemsOf (trimmed s) = itemsOf s := by
  rw [itemsOf, trimmed, String.toList_ofList, items_trim]
  rfl

end RecipeRunner.Text

namespace RecipeRunner.OutputFormat

open Text (itemsOf itemsOf_intercalate itemsOf_trimmed trimmed)

theorem itemsOf_apply (format : OutputFormat) (output : String) :
    itemsOf (format.apply output) = itemsOf output := by
  cases format with
  | raw => rfl
  | trim => exact itemsOf_trimmed output
  | lines => exact itemsOf_intercalate output

/-- What is kept of an output has the items of the output itself, whatever its format is, and the
items of an output that are written one a line are its items again. -/
theorem itemsOf_trimmed_apply (format : OutputFormat) (output : String) :
    itemsOf (trimmed (format.apply output)) = itemsOf output ∧
      itemsOf ("\n".intercalate (itemsOf output)) = itemsOf output :=
  ⟨(itemsOf_trimmed _).trans (itemsOf_apply format output), itemsOf_intercalate output⟩

end RecipeRunner.OutputFormat

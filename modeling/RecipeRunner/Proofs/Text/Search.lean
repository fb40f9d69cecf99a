import RecipeRunner.Text.Search
import Mathlib.Data.List.Induction
/-!
# Where a search succeeds

A mark is not found in a text that lacks one of its characters, and it is found at its first
occurrence when its first character does not occur earlier.  What is found in a text is found at
the same place when the text goes on.
-/

namespace RecipeRunner.Text

/-- What holds of all characters of a text is decided by going through the text. -/
instance decidableForallMem (p : Char → Prop) [DecidablePred p] (cs : List Char) :
    Decidable (∀ c ∈ cs, p c) :=
  List.decidableBAll p cs

/-- What holds of a character, if there is one, is decided by looking at it. -/
instance decidableForallMem? (p : Char → Prop) [DecidablePred p] :
    (c? : Option Char) → Decidable (∀ c ∈ c?, p c)
  | none => isTrue nofun
  | some c => decidable_of_iff (p c) ⟨fun h _ hd => Option.some.inj hd ▸ h, fun h => h c rfl⟩

variable {α : Type} [BEq α] [LawfulBEq α]

theorem afterStart?_eq_none_of_not_mem {mark text : List α} {a : α} (hmark : a ∈ mark)
    (htext : a ∉ text) : afterStart? mark text = none := by
  rw [Option.eq_none_iff_forall_not_mem]
  intro rest hrest
  apply htext
  rw [eq_append_of_afterStart? hrest]
  exact List.mem_append_left _ hmark

theorem cutAt?_eq_none_of_not_mem {mark text : List α} {a : α} (hmark : a ∈ mark)
    (htext : a ∉ text) : cutAt? mark text = none := by
  induction text with
  | nil =>
    cases mark with
    | nil => simp at hmark
    | cons b mark => rfl
  | cons c rest ih =>
    rw [cutAt?, afterStart?_eq_none_of_not_mem hmark htext]
    simp only [List.mem_cons, not_or] at htext
    rw [ih htext.2]
    rfl

/-- A cut is made where the first character of the mark first occurs, if the mark is there. -/
theorem cutAt?_append (mark after : List α) {a : α} {before : List α} (h : a ∉ before) :
    cutAt? (a :: mark) (before ++ (a :: mark ++ after)) = some (before, after) := by
  induction before with
  | nil =>
    rw [List.nil_append, List.cons_append, cutAt?, ← List.cons_append, afterStart?_append]
  | cons c before ih =>
    simp only [List.mem_cons, not_or] at h
    have hstart : afterStart? (a :: mark) (c :: (before ++ (a :: mark ++ after))) = none := by
      simp [afterStart?, h.1]
    rw [List.cons_append, cutAt?, hstart, ih h.2]
    rfl

theorem beforeEnd?_append (back text : List α) : beforeEnd? back (text ++ back) = some text := by
  simp [beforeEnd?, afterStart?_append]

theorem beforeEnd?_eq_none_of_not_mem {back text : List α} {a : α} (hback : a ∈ back)
    (htext : a ∉ text) : beforeEnd? back text = none := by
  unfold beforeEnd?
  rw [afterStart?_eq_none_of_not_mem (List.mem_reverse.2 hback) (by simpa using htext)]
  rfl

theorem occursIn_eq_false_of_not_mem {mark text : List α} {a : α} (hmark : a ∈ mark)
    (htext : a ∉ text) : occursIn mark text = false := by
  unfold occursIn
  rw [cutAt?_eq_none_of_not_mem hmark htext]
  rfl

/-- What a text begins with somewhere inside occurs in it. -/
theorem occursIn_append (before mark after : List α) :
    occursIn mark (before ++ (mark ++ after)) = true := by
  unfold occursIn
  induction before with
  | nil =>
    cases mark with
    | nil => cases after <;> rfl
    | cons a mark =>
      rw [List.nil_append, List.cons_append, cutAt?, ← List.cons_append, afterStart?_append]
      rfl
  | cons c before ih =>
    rw [List.cons_append, cutAt?]
    split
    · rfl
    · simpa using ih

theorem occursIn_iff {mark text : List α} :
    occursIn mark text = true ↔ ∃ before after, text = before ++ (mark ++ after) := by
  constructor
  · intro h
    obtain ⟨⟨before, after⟩, hcut⟩ := Option.isSome_iff_exists.1 h
    exact ⟨before, after, by rw [eq_append_of_cutAt? hcut, List.append_assoc]⟩
  · rintro ⟨before, after, rfl⟩
    exact occursIn_append before mark after

/-- A mark does not reach over a character that it lacks. -/
theorem occursIn_append_cons {mark : List α} {c : α} (hc : c ∉ mark) (hmark : mark ≠ [])
    {front back : List α} (h : occursIn mark (front ++ c :: back) = true) :
    occursIn mark front = true ∨ occursIn mark back = true := by
  obtain ⟨before, after, heq⟩ := occursIn_iff.1 h
  rcases List.append_eq_append_iff.1 heq with ⟨gap, rfl, hback⟩ | ⟨gap, rfl, hmid⟩
  · cases gap with
    | nil =>
      obtain ⟨a, mark, rfl⟩ := List.exists_cons_of_ne_nil hmark
      obtain ⟨rfl, -⟩ := List.cons.inj hback
      exact absurd List.mem_cons_self hc
    | cons a gap =>
      obtain ⟨-, rfl⟩ := List.cons.inj hback
      exact .inr (occursIn_append gap mark after)
  · rcases List.append_eq_append_iff.1 hmid with ⟨rest, rfl, -⟩ | ⟨rest, hsplit, hback⟩
    · exact .inl (occursIn_append before mark rest)
    · cases rest with
      | nil =>
        rw [List.append_nil] at hsplit
        exact .inl (occursIn_iff.2 ⟨before, [], by rw [hsplit, List.append_nil]⟩)
      | cons a rest =>
        obtain ⟨rfl, -⟩ := List.cons.inj hback
        exact absurd (by simp [hsplit]) hc

omit [LawfulBEq α] in
/-- A mark that does not start a text which is long enough for it does not start any longer one. -/
theorem afterStart?_append_of_none {mark text : List α} (h : afterStart? mark text = none)
    (hlength : mark.length ≤ text.length) (rest : List α) :
    afterStart? mark (text ++ rest) = none := by
  induction mark generalizing text with
  | nil => cases h
  | cons a mark ih =>
    cases text with
    | nil => cases hlength
    | cons b text =>
      rw [List.cons_append]
      unfold afterStart? at h ⊢
      split at h
      · next hab => rw [if_pos hab, ih h (Nat.le_of_succ_le_succ hlength)]
      · next hab => rw [if_neg hab]

theorem afterStart?_append_of_some {mark text after : List α}
    (h : afterStart? mark text = some after) (rest : List α) :
    afterStart? mark (text ++ rest) = some (after ++ rest) := by
  rw [eq_append_of_afterStart? h, List.append_assoc, afterStart?_append]

/-- The cut of a text stays where it is when the text goes on. -/
theorem cutAt?_append_of_some {mark text before after : List α}
    (h : cutAt? mark text = some (before, after)) (rest : List α) :
    cutAt? mark (text ++ rest) = some (before, after ++ rest) := by
  induction text generalizing before with
  | nil =>
    unfold cutAt? at h
    split at h
    · next hmark =>
      obtain ⟨rfl, rfl⟩ := Prod.mk.inj (Option.some.inj h)
      obtain rfl := List.isEmpty_iff.1 hmark
      cases rest <;> rfl
    · cases h
  | cons c text ih =>
    unfold cutAt? at h
    rw [List.cons_append, cutAt?]
    split at h
    · next tail htail =>
      obtain ⟨rfl, rfl⟩ := Prod.mk.inj (Option.some.inj h)
      rw [← List.cons_append, afterStart?_append_of_some htail]
    · next hstart =>
      obtain ⟨⟨b, a⟩, hcut, heq⟩ := Option.map_eq_some_iff.1 h
      obtain ⟨rfl, rfl⟩ := Prod.mk.inj heq
      have hlength : mark.length ≤ (c :: text).length := by
        have := congrArg List.length (eq_append_of_cutAt? hcut)
        simp only [List.length_append, List.length_cons] at this ⊢
        omega
      rw [← List.cons_append, afterStart?_append_of_none hstart hlength, ih hcut]
      rfl

/-- A cut is made at the leftmost occurrence. -/
theorem length_le_of_cutAt? {mark text before after front back : List α}
    (h : cutAt? mark text = some (before, after)) (htext : text = front ++ (mark ++ back)) :
    before.length ≤ front.length := by
  induction text generalizing before front with
  | nil =>
    have hbefore := congrArg List.length (eq_append_of_cutAt? h)
    simp only [List.length_nil, List.length_append] at hbefore
    omega
  | cons c text ih =>
    unfold cutAt? at h
    split at h
    · obtain ⟨rfl, -⟩ := Prod.mk.inj (Option.some.inj h)
      exact Nat.zero_le _
    · next hstart =>
      obtain ⟨⟨b, a⟩, hcut, heq⟩ := Option.map_eq_some_iff.1 h
      obtain ⟨rfl, rfl⟩ := Prod.mk.inj heq
      cases front with
      | nil => rw [htext, List.nil_append, afterStart?_append] at hstart; cases hstart
      | cons d front =>
        obtain ⟨-, htail⟩ := List.cons.inj htext
        exact Nat.succ_le_succ (ih hcut htail)

/-- No mark ends before the one that is put behind the text does. -/
def FirstBehind (mark text : List α) : Prop :=
  ∀ front back, text ++ mark = front ++ (mark ++ back) → front = text

/-- A text is cut behind what the first mark stands behind. -/
theorem cutAt?_eq_some_iff {mark text before after : List α} :
    cutAt? mark text = some (before, after) ↔
      text = before ++ (mark ++ after) ∧ FirstBehind mark before := by
  constructor
  · intro h
    have htext : text = before ++ (mark ++ after) := by
      rw [eq_append_of_cutAt? h, List.append_assoc]
    refine ⟨htext, fun front back heq => ?_⟩
    have hfront : text = front ++ (mark ++ (back ++ after)) := by
      rw [htext, ← List.append_assoc, heq, List.append_assoc, List.append_assoc]
    have hle := length_le_of_cutAt? h hfront
    have hlength := congrArg List.length heq
    simp only [List.length_append] at hlength
    exact (List.append_inj (htext.symm.trans hfront) (by omega)).1.symm
  · rintro ⟨htext, hfirst⟩
    have hoccurs : occursIn mark text = true := occursIn_iff.2 ⟨before, after, htext⟩
    obtain ⟨⟨front, rest⟩, hcut⟩ := Option.isSome_iff_exists.1 hoccurs
    have hle := length_le_of_cutAt? hcut htext
    have hfront : before ++ mark ++ after = front ++ mark ++ rest := by
      rw [← eq_append_of_cutAt? hcut, htext, List.append_assoc]
    obtain ⟨back, hback, -⟩ | ⟨back, hback, hrest⟩ := List.append_eq_append_iff.1 hfront
    · have hlength := congrArg List.length hback
      simp only [List.length_append] at hlength
      obtain rfl := List.eq_nil_of_length_eq_zero (l := back) (by omega)
      rw [List.append_nil] at hback
      obtain ⟨rfl, -⟩ := List.append_inj hback.symm (by omega)
      rw [hcut, List.append_cancel_left hfront]
    · obtain rfl := hfirst front back (by rw [hback, List.append_assoc])
      rw [hcut, List.append_cancel_left hfront]

omit [BEq α] [LawfulBEq α] in
/-- A character with which the mark does not start is passed over. -/
theorem firstBehind_cons {a c : α} {mark text : List α} (hc : a ≠ c) :
    FirstBehind (a :: mark) (c :: text) ↔ FirstBehind (a :: mark) text := by
  constructor
  · intro h front back heq
    exact (List.cons.inj (h (c :: front) back (congrArg (c :: ·) heq))).2
  · intro h front back heq
    cases front with
    | nil => exact absurd (List.cons.inj heq).1.symm hc
    | cons d front =>
      obtain ⟨rfl, htext⟩ := List.cons.inj heq
      rw [h front back htext]

/-! ## Replacement -/

/-- A mark whose first character does not come back in it is found where it starts, whatever stands
before it. -/
theorem cutAt?_append_mark {a : α} {mark text : List α} (ha : a ∉ mark)
    (h : cutAt? (a :: mark) text = none) (rest : List α) :
    cutAt? (a :: mark) (text ++ a :: (mark ++ rest)) = some (text, rest) := by
  induction text with
  | nil =>
    have hstart := afterStart?_append (a :: mark) rest
    rw [List.cons_append] at hstart
    rw [List.nil_append, cutAt?, hstart]
  | cons c text ih =>
    rw [cutAt?] at h
    split at h
    · cases h
    · next hstart =>
      have hstart' : afterStart? (a :: mark) (c :: (text ++ a :: (mark ++ rest))) = none := by
        rw [afterStart?] at hstart ⊢
        split at hstart
        · next hac => rw [if_pos hac, afterStart?_append_cons ha, hstart]; rfl
        · next hac => rw [if_neg hac]
      rw [List.cons_append, cutAt?, hstart', ih (Option.map_eq_none_iff.1 h)]
      rfl

/-- No occurrence lies across the start of another one. -/
theorem replaceAll_append_mark {a : α} {mark : List α} (ha : a ∉ mark)
    (substitute text rest : List α) :
    replaceAll (a :: mark) substitute (text ++ a :: (mark ++ rest)) =
      replaceAll (a :: mark) substitute text ++ substitute ++
        replaceAll (a :: mark) substitute rest := by
  have hmark : a :: mark ≠ [] := List.cons_ne_nil a mark
  induction hlength : text.length using Nat.strongRecOn generalizing text with
  | ind n ih =>
    match hcut : cutAt? (a :: mark) text with
    | none =>
      rw [replaceAll_of_some hmark (cutAt?_append_mark ha hcut rest),
        replaceAll_of_none hmark hcut]
    | some (before, after) =>
      have hshorter : after.length < n := by
        have := congrArg List.length (eq_append_of_cutAt? hcut)
        simp only [List.length_append, List.length_cons] at this
        omega
      rw [replaceAll_of_some hmark (cutAt?_append_of_some hcut _), replaceAll_of_some hmark hcut,
        ih _ hshorter after rfl]
      simp

/-- A shorter substitute shortens a text in which the mark occurs, and leaves other texts. -/
theorem length_replaceAll_of_lt {mark substitute : List α}
    (hsubstitute : substitute.length < mark.length) (text : List α) :
    (replaceAll mark substitute text).length ≤ text.length ∧
      (replaceAll mark substitute text = text ↔ occursIn mark text = false) := by
  have hmark : mark ≠ [] := List.ne_nil_of_length_pos (Nat.zero_lt_of_lt hsubstitute)
  induction hlength : text.length using Nat.strongRecOn generalizing text with
  | ind n ih =>
    rw [occursIn]
    match hcut : cutAt? mark text with
    | none => simp [replaceAll_of_none hmark hcut, hlength]
    | some (before, after) =>
      have htext := congrArg List.length (eq_append_of_cutAt? hcut)
      simp only [List.length_append] at htext
      have hafter := (ih after.length (by omega) after rfl).1
      have hshorter : (replaceAll mark substitute text).length < text.length := by
        rw [replaceAll_of_some hmark hcut]
        simp only [List.length_append]
        omega
      refine ⟨hlength ▸ Nat.le_of_lt hshorter, fun heq => ?_, fun hnot => Bool.noConfusion hnot⟩
      rw [heq] at hshorter
      exact absurd hshorter (Nat.lt_irrefl _)

/-! ## Marks between other texts -/

omit [BEq α] [LawfulBEq α] in
/-- A mark does not start in a text without its first character, nor end in one without its last. -/
theorem eq_append_of_between {mark before mid after front back : List α} (hmark : mark ≠ [])
    (hbefore : mark.head hmark ∉ before) (hafter : mark.getLast hmark ∉ after)
    (h : before ++ mid ++ after = front ++ (mark ++ back)) :
    ∃ left right, front = before ++ left ∧ mid = left ++ (mark ++ right) ∧
      back = right ++ after := by
  induction before generalizing front with
  | nil =>
    induction after using List.reverseRecOn generalizing back with
    | nil => exact ⟨front, back, rfl, by simpa using h, by simp⟩
    | append_singleton after c ih =>
      rw [List.mem_append, not_or] at hafter
      rcases List.eq_nil_or_concat back with rfl | ⟨back, d, rfl⟩
      · obtain ⟨inner, last, rfl⟩ := (List.eq_nil_or_concat mark).resolve_left hmark
        simp only [List.append_nil, List.concat_eq_append, ← List.append_assoc] at h
        obtain ⟨-, hlast⟩ := List.append_inj' h rfl
        exact absurd (by simpa using hlast.symm) hafter.2
      · simp only [List.concat_eq_append, ← List.append_assoc] at h
        obtain ⟨hfront, hlast⟩ := List.append_inj' h rfl
        obtain ⟨left, right, hleft, hmid, rfl⟩ := ih hafter.1 (by simpa using hfront)
        refine ⟨left, right, hleft, hmid, ?_⟩
        rw [List.concat_eq_append, ← hlast, List.append_assoc]
  | cons c before ih =>
    rw [List.mem_cons, not_or] at hbefore
    cases front with
    | nil =>
      obtain ⟨a, mark, rfl⟩ := List.exists_cons_of_ne_nil hmark
      exact absurd (List.cons.inj h).1.symm hbefore.1
    | cons d front =>
      simp only [List.cons_append, List.cons.injEq] at h
      obtain ⟨rfl, h⟩ := h
      obtain ⟨left, right, rfl, hmid⟩ := ih hbefore.2 h
      exact ⟨left, right, rfl, hmid⟩

theorem occursIn_of_between {mark before mid after : List α} (hmark : mark ≠ [])
    (hbefore : mark.head hmark ∉ before) (hafter : mark.getLast hmark ∉ after)
    (h : occursIn mark (before ++ mid ++ after) = true) : occursIn mark mid = true := by
  obtain ⟨front, back, heq⟩ := occursIn_iff.1 h
  obtain ⟨left, right, -, hmid, -⟩ := eq_append_of_between hmark hbefore hafter heq
  exact occursIn_iff.2 ⟨left, right, hmid⟩

/-! ## Marks of one character twice -/

/-- A character that stands twice at the start of a text, or further inside. -/
theorem occursIn_pair_cons {a c : α} {text : List α} :
    occursIn [a, a] (c :: text) = true ↔
      (c = a ∧ text.head? = some a) ∨ occursIn [a, a] text = true := by
  have hstart : (afterStart? [a, a] (c :: text)).isSome = true ↔ c = a ∧ text.head? = some a := by
    cases text with
    | nil => simp [afterStart?]
    | cons d text =>
      simp only [afterStart?, List.head?_cons, Option.some.injEq]
      split
      · next hc =>
        split
        · next hd => exact ⟨fun _ => ⟨(eq_of_beq hc).symm, (eq_of_beq hd).symm⟩, fun _ => rfl⟩
        · next hd => exact ⟨fun h => absurd h (by simp), fun h => absurd (by simp [h.2]) hd⟩
      · next hc => exact ⟨fun h => absurd h (by simp), fun h => absurd (by simp [h.1]) hc⟩
  unfold occursIn
  rw [cutAt?, ← hstart]
  split
  · next hfound => simp [hfound]
  · next hnone => simp [hnone]

/-- The cut is made behind a text in which the mark does not occur and which does not end like
it. -/
theorem cutAt?_pair_append {a : α} {text : List α} (h : occursIn [a, a] text = false)
    (hlast : text.getLast? ≠ some a) (rest : List α) :
    cutAt? [a, a] (text ++ a :: a :: rest) = some (text, rest) := by
  induction text with
  | nil => exact cutAt?_append [a] rest (List.not_mem_nil)
  | cons c text ih =>
    rw [← Bool.not_eq_true, occursIn_pair_cons, not_or, Bool.not_eq_true] at h
    have hlast' : text.getLast? ≠ some a := by
      intro htext
      rw [List.getLast?_cons, htext] at hlast
      exact hlast rfl
    have hstart : afterStart? [a, a] (c :: (text ++ a :: a :: rest)) = none := by
      cases text with
      | nil =>
        have hc : a ≠ c := by simpa [eq_comm] using hlast
        simp [afterStart?, hc]
      | cons d text =>
        have hfirst : a = c → a ≠ d := by simpa [eq_comm] using h.1
        simpa [afterStart?] using hfirst
    rw [List.cons_append, cutAt?, hstart, ih h.2 hlast']
    rfl

end RecipeRunner.Text

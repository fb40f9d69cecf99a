/-!
# Search in lists of characters

Finding, cutting and replacing one list inside another.  A cut is always made at the leftmost
occurrence, and the search goes on behind it, so occurrences never overlap.
-/

namespace RecipeRunner.Text

/-- What follows `front` in a text that begins with it. -/
def afterStart? {α : Type} [BEq α] : (front text : List α) → Option (List α)
  | [], text => some text
  | _ :: _, [] => none
  | a :: front, b :: text => if a == b then afterStart? front text else none

/-- Whether a text begins with `front`. -/
def startsWith {α : Type} [BEq α] (front text : List α) : Bool :=
  (afterStart? front text).isSome

/-- What precedes `back` in a text that ends with it. -/
def beforeEnd? {α : Type} [BEq α] (back text : List α) : Option (List α) :=
  (afterStart? back.reverse text.reverse).map List.reverse

/-- Whether a text ends with `back`. -/
def endsWith {α : Type} [BEq α] (back text : List α) : Bool :=
  (beforeEnd? back text).isSome

/-- The parts of a text before and after the leftmost occurrence of `mark`. -/
def cutAt? {α : Type} [BEq α] (mark : List α) : (text : List α) → Option (List α × List α)
  | [] => if mark.isEmpty then some ([], []) else none
  | c :: rest =>
    match afterStart? mark (c :: rest) with
    | some tail => some ([], tail)
    | none => (cutAt? mark rest).map fun (before, after) => (c :: before, after)

/-- Whether `mark` occurs in a text. -/
def occursIn {α : Type} [BEq α] (mark text : List α) : Bool :=
  (cutAt? mark text).isSome

/-- The pieces of a text between occurrences of a separator that is not empty.  `skip` counts
the members of the separator still to be passed over. -/
private def piecesFrom {α : Type} [BEq α] (sep : List α) :
    (skip : Nat) → (text : List α) → (current : List α) → List (List α)
  | _, [], current => [current.reverse]
  | skip + 1, _ :: rest, current => piecesFrom sep skip rest current
  | 0, c :: rest, current =>
    if startsWith sep (c :: rest) then current.reverse :: piecesFrom sep (sep.length - 1) rest []
    else piecesFrom sep 0 rest (c :: current)

/-- The pieces of a text between occurrences of a separator.  The empty separator occurs
between all characters and at both ends. -/
def pieces {α : Type} [BEq α] (sep text : List α) : List (List α) :=
  if sep.isEmpty then [] :: text.map (fun c => [c]) ++ [[]]
  else piecesFrom sep 0 text []

/-- Joins pieces with a separator between them. -/
def joinWith {α : Type} (sep : List α) : List (List α) → List α
  | [] => []
  | [piece] => piece
  | piece :: rest => piece ++ sep ++ joinWith sep rest

/-- Replaces every occurrence of `mark`. -/
def replaceAll {α : Type} [BEq α] (mark substitute text : List α) : List α :=
  joinWith substitute (pieces mark text)

theorem afterStart?_append {α : Type} [BEq α] [LawfulBEq α] (front rest : List α) :
    afterStart? front (front ++ rest) = some rest := by
  induction front with
  | nil => rfl
  | cons a front ih => simp [afterStart?, ih]

theorem eq_append_of_afterStart? {α : Type} [BEq α] [LawfulBEq α] {front text rest : List α}
    (h : afterStart? front text = some rest) : text = front ++ rest := by
  induction front generalizing text with
  | nil => simpa [afterStart?] using h
  | cons a front ih =>
    cases text with
    | nil => simp [afterStart?] at h
    | cons b text =>
      simp only [afterStart?] at h
      split at h
      · next hab => rw [ih h, eq_of_beq hab]; rfl
      · simp at h

/-- A cut loses nothing but the mark. -/
theorem eq_append_of_cutAt? {α : Type} [BEq α] [LawfulBEq α] {mark text before after : List α}
    (h : cutAt? mark text = some (before, after)) : text = before ++ mark ++ after := by
  induction text generalizing before with
  | nil =>
    simp only [cutAt?] at h
    split at h
    · simp_all
    · simp at h
  | cons c rest ih =>
    simp only [cutAt?] at h
    split at h
    · next tail ht =>
      obtain ⟨rfl, rfl⟩ := Prod.mk.inj (Option.some.inj h)
      simpa using eq_append_of_afterStart? ht
    · obtain ⟨⟨b, a⟩, hcut, heq⟩ := Option.map_eq_some_iff.1 h
      obtain ⟨rfl, rfl⟩ := Prod.mk.inj heq
      simp [ih hcut]

theorem joinWith_cons {α : Type} (sep piece : List α) {pieces : List (List α)}
    (h : pieces ≠ []) : joinWith sep (piece :: pieces) = piece ++ sep ++ joinWith sep pieces := by
  match pieces, h with
  | next :: rest, _ => rfl

section

variable {α : Type} [BEq α]

private theorem piecesFrom_ne_nil (sep : List α) (skip : Nat) (text current : List α) :
    piecesFrom sep skip text current ≠ [] := by
  fun_induction piecesFrom sep skip text current <;> simp_all

private theorem joinWith_piecesFrom (sep substitute : List α) (skip : Nat)
    (text current : List α) :
    joinWith substitute (piecesFrom sep skip text current) =
      current.reverse ++ joinWith substitute (piecesFrom sep skip text []) := by
  induction text generalizing skip current with
  | nil => cases skip <;> simp [piecesFrom, joinWith]
  | cons c rest ih =>
    cases skip with
    | succ skip => exact ih skip current
    | zero =>
      rw [piecesFrom, piecesFrom]
      split
      · rw [joinWith_cons _ _ (piecesFrom_ne_nil _ _ _ _),
          joinWith_cons _ _ (piecesFrom_ne_nil _ _ _ _)]
        simp
      · rw [ih 0 (c :: current), ih 0 [c]]
        simp

private theorem piecesFrom_append (sep front rest current : List α) :
    piecesFrom sep front.length (front ++ rest) current = piecesFrom sep 0 rest current := by
  induction front with
  | nil => rfl
  | cons a front ih => exact ih

private theorem piecesFrom_of_none {mark text : List α} (h : cutAt? mark text = none)
    (current : List α) : piecesFrom mark 0 text current = [current.reverse ++ text] := by
  induction text generalizing current with
  | nil => simp [piecesFrom]
  | cons c rest ih =>
    rw [cutAt?] at h
    split at h
    · cases h
    · next hstart =>
      have hnot : startsWith mark (c :: rest) = false := by rw [startsWith, hstart]; rfl
      rw [piecesFrom, hnot, if_neg Bool.false_ne_true, ih (Option.map_eq_none_iff.1 h)]
      simp

/-- A text in which the mark does not occur stays as it is. -/
theorem replaceAll_of_none {mark text : List α} (hmark : mark ≠ [])
    (h : cutAt? mark text = none) (substitute : List α) :
    replaceAll mark substitute text = text := by
  rw [replaceAll, pieces, if_neg (by simpa using hmark), piecesFrom_of_none h]
  rfl

variable [LawfulBEq α]

theorem afterStart?_append_cons {mark : List α} {c : α} (hc : c ∉ mark) (text rest : List α) :
    afterStart? mark (text ++ c :: rest) = (afterStart? mark text).map (· ++ c :: rest) := by
  induction mark generalizing text with
  | nil => rfl
  | cons a mark ih =>
    simp only [List.mem_cons, not_or] at hc
    cases text with
    | nil => simp [afterStart?, Ne.symm hc.1]
    | cons b text =>
      rw [List.cons_append, afterStart?, afterStart?, ih hc.2]
      split <;> rfl

private theorem piecesFrom_of_some {mark text before after : List α} (hmark : mark ≠ [])
    (h : cutAt? mark text = some (before, after)) (current : List α) :
    piecesFrom mark 0 text current =
      (current.reverse ++ before) :: piecesFrom mark 0 after [] := by
  induction text generalizing before current with
  | nil =>
    rw [cutAt?, if_neg (by simpa using hmark)] at h
    cases h
  | cons c rest ih =>
    rw [cutAt?] at h
    split at h
    · next tail htail =>
      obtain ⟨rfl, rfl⟩ := Prod.mk.inj (Option.some.inj h)
      obtain ⟨a, back, rfl⟩ := List.exists_cons_of_ne_nil hmark
      have hstart : startsWith (a :: back) (c :: rest) = true := by rw [startsWith, htail]; rfl
      obtain ⟨-, rfl⟩ := List.cons.inj (eq_append_of_afterStart? htail)
      rw [piecesFrom, hstart, if_pos rfl, List.append_nil]
      exact congrArg _ (piecesFrom_append _ back tail [])
    · next hstart =>
      obtain ⟨⟨front, back⟩, hcut, heq⟩ := Option.map_eq_some_iff.1 h
      obtain ⟨rfl, rfl⟩ := Prod.mk.inj heq
      have hnot : startsWith mark (c :: rest) = false := by rw [startsWith, hstart]; rfl
      rw [piecesFrom, hnot, if_neg Bool.false_ne_true, ih hcut]
      simp

/-- The leftmost occurrence is replaced first, and what follows it as if it stood alone. -/
theorem replaceAll_of_some {mark text before after : List α} (hmark : mark ≠ [])
    (h : cutAt? mark text = some (before, after)) (substitute : List α) :
    replaceAll mark substitute text =
      before ++ substitute ++ replaceAll mark substitute after := by
  have hempty : ¬mark.isEmpty = true := by simpa using hmark
  simp only [replaceAll, pieces, if_neg hempty]
  rw [piecesFrom_of_some hmark h, joinWith_cons _ _ (piecesFrom_ne_nil _ _ _ _)]
  rfl

private theorem joinWith_piecesFrom_append {mark : List α} {c : α} (hc : c ∉ mark)
    (hmark : mark ≠ []) (substitute : List α) {skip : Nat} {text : List α}
    (hskip : skip ≤ text.length) (current rest : List α) :
    joinWith substitute (piecesFrom mark skip (text ++ c :: rest) current) =
      joinWith substitute (piecesFrom mark skip text current) ++
        c :: joinWith substitute (piecesFrom mark 0 rest []) := by
  have hstarts : ∀ text : List α, startsWith mark (text ++ c :: rest) = startsWith mark text := by
    intro text
    rw [startsWith, startsWith, afterStart?_append_cons hc, Option.isSome_map]
  induction text generalizing skip current with
  | nil =>
    obtain rfl := Nat.le_zero.1 hskip
    have hnil : startsWith mark (c :: rest) = false := by
      rw [← List.nil_append (c :: rest), hstarts]
      cases mark with
      | nil => exact absurd rfl hmark
      | cons a mark => rfl
    have hcons : piecesFrom mark 0 (c :: rest) current = piecesFrom mark 0 rest (c :: current) := by
      rw [piecesFrom, hnil, if_neg Bool.false_ne_true]
    rw [List.nil_append, hcons, joinWith_piecesFrom]
    simp [piecesFrom, joinWith]
  | cons d text ih =>
    cases skip with
    | succ skip => exact ih (Nat.le_of_succ_le_succ hskip) current
    | zero =>
      have hd := hstarts (d :: text)
      rw [List.cons_append] at hd ⊢
      rw [piecesFrom, piecesFrom, hd]
      split
      · next hmarked =>
        obtain ⟨after, hafter⟩ := Option.isSome_iff_exists.1 hmarked
        have hlength := congrArg List.length (eq_append_of_afterStart? hafter)
        rw [List.length_append, List.length_cons] at hlength
        rw [joinWith_cons _ _ (piecesFrom_ne_nil _ _ _ _),
          joinWith_cons _ _ (piecesFrom_ne_nil _ _ _ _), ih (by omega), List.append_assoc _ (joinWith _ _)]
      · exact ih (Nat.zero_le _) (d :: current)

/-- Where a character is not one of the mark, a replacement goes on as if the text started there. -/
theorem replaceAll_append_cons {mark : List α} {c : α} (hc : c ∉ mark) (hmark : mark ≠ [])
    (substitute text rest : List α) :
    replaceAll mark substitute (text ++ c :: rest) =
      replaceAll mark substitute text ++ c :: replaceAll mark substitute rest := by
  have hempty : ¬mark.isEmpty = true := by simpa using hmark
  simp only [replaceAll, pieces, if_neg hempty]
  exact joinWith_piecesFrom_append hc hmark substitute (Nat.zero_le _) [] rest

end

end RecipeRunner.Text

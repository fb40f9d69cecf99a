import RecipeRunner.Condition.Evaluation
import RecipeRunner.Proofs.Text.Blank
import RecipeRunner.Proofs.Text.Search
/-!
# Balanced conditions

How the scans of conditions go through a text whose parentheses balance.  A group is passed over
as a whole: no operator inside it is seen by a split, and no pair of parentheses that closes early
is taken to hold the whole text.

* `split_eq_whole`: an operator that only occurs inside groups does not split a text.
* `split_joinWith`: texts joined by an operator are split into these texts again.
* `ungroup_group`: the parentheses around a balanced text are taken away.
* `isGroup_append`: no parentheses are taken away that a balanced front opens and closes.
-/

namespace RecipeRunner.Condition

open Text (trim Tight)

/-- With `d` groups open before a text, `e` are open behind it, and the text closes no group that
is not open. -/
inductive Nested : (d : Nat) → List Char → (e : Nat) → Prop
  | nil {d : Nat} : Nested d [] d
  | opens {d e : Nat} {cs : List Char} : Nested (d + 1) cs e → Nested d ('(' :: cs) e
  | closes {d e : Nat} {cs : List Char} : Nested d cs e → Nested (d + 1) (')' :: cs) e
  | plain {d e : Nat} {c : Char} {cs : List Char} : c ≠ '(' → c ≠ ')' → Nested d cs e →
      Nested d (c :: cs) e

/-- Every group that a text opens it closes, and no other. -/
def Balanced (cs : List Char) : Prop :=
  Nested 0 cs 0

/-- The characters outside all groups. -/
def outside : (depth : Nat) → List Char → List Char
  | _, [] => []
  | depth, c :: rest =>
    if c = '(' then outside (depth + 1) rest
    else if c = ')' then outside (depth - 1) rest
    else if depth = 0 then c :: outside 0 rest
    else outside depth rest

/-- A text in parentheses. -/
def group (cs : List Char) : List Char :=
  '(' :: cs ++ [')']

/-! ## Nesting -/

theorem Nested.append {a b : List Char} {d e f : Nat} (ha : Nested d a e) (hb : Nested e b f) :
    Nested d (a ++ b) f := by
  induction ha with
  | nil => exact hb
  | opens _ ih => exact .opens (ih hb)
  | closes _ ih => exact .closes (ih hb)
  | plain hopen hclose _ ih => exact .plain hopen hclose (ih hb)

theorem Nested.add {cs : List Char} {d e : Nat} (h : Nested d cs e) (k : Nat) :
    Nested (d + k) cs (e + k) := by
  induction h with
  | nil => exact .nil
  | opens _ ih =>
    refine .opens ?_
    rw [Nat.add_right_comm]
    exact ih
  | closes _ ih =>
    rw [Nat.add_right_comm]
    exact .closes ih
  | plain hopen hclose _ ih => exact .plain hopen hclose ih

theorem Balanced.nested {cs : List Char} (h : Balanced cs) (d : Nat) : Nested d cs d := by
  simpa using h.add d

theorem Balanced.append {a b : List Char} (ha : Balanced a) (hb : Balanced b) :
    Balanced (a ++ b) :=
  Nested.append ha hb

theorem Balanced.group {cs : List Char} (h : Balanced cs) : Balanced (group cs) :=
  .opens ((h.nested 1).append (.closes .nil))

theorem balanced_of_plain {cs : List Char} (hopen : '(' ∉ cs) (hclose : ')' ∉ cs) :
    Balanced cs := by
  unfold Balanced
  induction cs with
  | nil => exact .nil
  | cons c cs ih =>
    simp only [List.mem_cons, not_or] at hopen hclose
    exact .plain (Ne.symm hopen.1) (Ne.symm hclose.1) (ih hopen.2 hclose.2)

theorem Nested.of_append {a b : List Char} {d f : Nat} (h : Nested d (a ++ b) f) :
    ∃ e, Nested d a e ∧ Nested e b f := by
  induction a generalizing d with
  | nil => exact ⟨d, .nil, h⟩
  | cons c a ih =>
    cases h with
    | opens h =>
      obtain ⟨e, ha, hb⟩ := ih h
      exact ⟨e, .opens ha, hb⟩
    | closes h =>
      obtain ⟨e, ha, hb⟩ := ih h
      exact ⟨e, .closes ha, hb⟩
    | plain hopen hclose h =>
      obtain ⟨e, ha, hb⟩ := ih h
      exact ⟨e, .plain hopen hclose ha, hb⟩

theorem Nested.eq_of_plain {cs : List Char} {d e : Nat} (h : Nested d cs e) (hopen : '(' ∉ cs)
    (hclose : ')' ∉ cs) : e = d := by
  induction h with
  | nil => rfl
  | opens => exact absurd List.mem_cons_self hopen
  | closes => exact absurd List.mem_cons_self hclose
  | plain _ _ _ ih =>
    exact ih (fun h => hopen (List.mem_cons_of_mem _ h)) fun h =>
      hclose (List.mem_cons_of_mem _ h)

/-- Blanks open and close nothing. -/
theorem Balanced.trim {cs : List Char} (h : Balanced cs) : Balanced (trim cs) := by
  obtain ⟨before, after, heq, hbefore, hafter⟩ := Text.exists_eq_append_trim cs
  have hparens : ∀ {blanks : List Char}, (∀ c ∈ blanks, Text.isBlank c = true) →
      '(' ∉ blanks ∧ ')' ∉ blanks := by
    intro blanks hblanks
    exact ⟨fun hmem => absurd (hblanks _ hmem) (by decide),
      fun hmem => absurd (hblanks _ hmem) (by decide)⟩
  unfold Balanced at h
  rw [heq] at h
  obtain ⟨e, hfront, hback⟩ := h.of_append
  obtain ⟨d, hstart, htext⟩ := hfront.of_append
  obtain rfl := hstart.eq_of_plain (hparens hbefore).1 (hparens hbefore).2
  obtain rfl := hback.eq_of_plain (hparens hafter).1 (hparens hafter).2
  exact htext

/-- A text that closes a group which was open before it holds the end of that group. -/
theorem Nested.exists_close {cs : List Char} {d e k : Nat} (h : Nested (d + 1 + k) cs e)
    (he : e ≤ k) : ∃ inner rest, cs = inner ++ ')' :: rest ∧ Nested d inner 0 := by
  generalize hn : d + 1 + k = n at h
  induction h generalizing d with
  | nil => omega
  | opens _ ih =>
    obtain ⟨inner, rest, rfl, hinner⟩ := ih (d := d + 1) he (by omega)
    exact ⟨'(' :: inner, rest, rfl, .opens hinner⟩
  | closes _ ih =>
    cases d with
    | zero => exact ⟨[], _, rfl, .nil⟩
    | succ d =>
      obtain ⟨inner, rest, rfl, hinner⟩ := ih (d := d) he (by omega)
      exact ⟨')' :: inner, rest, rfl, .closes hinner⟩
  | plain hopen hclose _ ih =>
    obtain ⟨inner, rest, rfl, hinner⟩ := ih he hn
    exact ⟨_ :: inner, rest, rfl, .plain hopen hclose hinner⟩

/-- A balanced text that begins with a parenthesis begins with a group. -/
theorem Balanced.exists_group {cs : List Char} (h : Balanced ('(' :: cs)) :
    ∃ inner rest, '(' :: cs = Condition.group inner ++ rest ∧ Balanced inner := by
  cases h with
  | opens h =>
    obtain ⟨inner, rest, rfl, hinner⟩ := Nested.exists_close (d := 0) (k := 0) h (Nat.le_refl 0)
    exact ⟨inner, rest, by simp [Condition.group], hinner⟩
  | plain hopen _ _ => exact absurd rfl hopen

/-! ## Outside all groups -/

theorem outside_append {a : List Char} {d e : Nat} (h : Nested d a e) (b : List Char) :
    outside d (a ++ b) = outside d a ++ outside e b := by
  induction h with
  | nil => rfl
  | opens _ ih => exact ih
  | closes _ ih => exact ih
  | @plain d e c cs hopen hclose _ ih =>
    rw [List.cons_append, outside, outside, if_neg hopen, if_neg hopen, if_neg hclose,
      if_neg hclose]
    cases d with
    | zero => rw [if_pos rfl, if_pos rfl, ih, List.cons_append]
    | succ d => exact ih

theorem outside_succ {cs : List Char} {d e : Nat} (h : Nested d cs e) :
    outside (d + 1) cs = [] := by
  induction h with
  | nil => rfl
  | opens _ ih => exact ih
  | closes _ ih => exact ih
  | plain hopen hclose _ ih =>
    rw [outside, if_neg hopen, if_neg hclose, if_neg (Nat.succ_ne_zero _), ih]

theorem outside_group {cs : List Char} (h : Balanced cs) : outside 0 (group cs) = [] := by
  have hinside : outside 1 (cs ++ [')']) = [] := by
    rw [outside_append (h.nested 1), outside_succ h]
    rfl
  exact hinside

theorem mem_of_mem_outside {cs : List Char} {d : Nat} {c : Char} (h : c ∈ outside d cs) :
    c ∈ cs := by
  induction cs generalizing d with
  | nil => simp [outside] at h
  | cons a cs ih =>
    rw [outside] at h
    split at h
    · exact List.mem_cons_of_mem _ (ih h)
    · split at h
      · exact List.mem_cons_of_mem _ (ih h)
      · split at h
        · rcases List.mem_cons.1 h with rfl | h
          · exact List.mem_cons_self
          · exact List.mem_cons_of_mem _ (ih h)
        · exact List.mem_cons_of_mem _ (ih h)

/-! ## Groups that hold a whole text -/

theorem closesEarly_append {cs : List Char} {d e : Nat} (h : Nested d cs e) (rest : List Char) :
    closesEarly ((d : Int) + 1) (cs ++ rest) = closesEarly ((e : Int) + 1) rest := by
  induction h with
  | nil => rfl
  | opens _ ih => exact ih
  | @closes d e cs _ ih =>
    have hdepth : decide (((d + 1 : Nat) : Int) + 1 = 1) = false := by
      rw [decide_eq_false_iff_not]
      omega
    have hback : ((d + 1 : Nat) : Int) + 1 - 1 = (d : Int) + 1 := by omega
    rw [List.cons_append, closesEarly, if_neg (by decide), if_pos rfl, hback, ih, hdepth,
      Bool.false_and, if_neg (by decide)]
  | plain hopen hclose _ ih =>
    rw [List.cons_append, closesEarly, if_neg hopen, if_neg hclose]
    exact ih

theorem isGroup_group {cs : List Char} (h : Balanced cs) : isGroup (group cs) = true := by
  have hearly : closesEarly 0 (group cs) = closesEarly 1 [')'] := closesEarly_append h [')']
  have hlast : (group cs).getLast? = some ')' := by
    rw [group, List.getLast?_append]
    rfl
  rw [isGroup, hearly, hlast]
  simp [group, closesEarly]

theorem ungroup_of_not_isGroup {cs : List Char} (h : isGroup cs = false) : ungroup cs = cs := by
  rw [ungroup, dif_neg (by simp [h])]

theorem ungroup_group {cs : List Char} (h : Balanced cs) :
    ungroup (group cs) = ungroup (trim cs) := by
  rw [ungroup, dif_pos (isGroup_group h)]
  simp [groupInside, group]

theorem isGroup_of_head? {cs : List Char} (h : cs.head? ≠ some '(') : isGroup cs = false := by
  simp [isGroup, h]

/-- A balanced front closes what it opens, so no pair of parentheses holds what goes on behind
it. -/
theorem isGroup_append {front rest : List Char} (h : Balanced front) (hfront : front ≠ [])
    (hrest : rest ≠ []) : isGroup (front ++ rest) = false := by
  cases front with
  | nil => exact absurd rfl hfront
  | cons c cs =>
    by_cases hc : c = '('
    · subst hc
      obtain ⟨inner, more, heq, hinner⟩ := h.exists_group
      have hearly : closesEarly 0 ('(' :: cs ++ rest) = true := by
        have := closesEarly_append hinner ([')'] ++ (more ++ rest))
        rw [heq, group, List.append_assoc, List.append_assoc, List.cons_append, closesEarly,
          if_pos rfl, show (0 : Int) + 1 = ((0 : Nat) : Int) + 1 from rfl, this]
        simp [closesEarly, hrest]
      rw [isGroup, hearly, Bool.not_true, Bool.and_false]
    · exact isGroup_of_head? (by simpa using hc)

/-! ## Splits -/

/-- Puts a text in front of the first part. -/
def prependFirst (front : List Char) (parts : List (List Char)) : List (List Char) :=
  front.foldr consFirst parts

theorem prependFirst_cons (front part : List Char) (parts : List (List Char)) :
    prependFirst front (part :: parts) = (front ++ part) :: parts := by
  induction front with
  | nil => rfl
  | cons c front ih =>
    rw [prependFirst, List.foldr_cons, ← prependFirst, ih]
    rfl

/-- A split passes over a text in which the operator does not begin outside all groups. -/
theorem partsFrom_append {c : Char} {op cs : List Char} {d e : Nat} (h : Nested d cs e)
    (hc : c ∉ outside d cs) (rest : List Char) :
    partsFrom (c :: op) 0 d (cs ++ rest) =
      (partsFrom (c :: op) 0 e rest).map (prependFirst cs) := by
  have hcons : ∀ (a : Char) (as : List Char),
      prependFirst (a :: as) = consFirst a ∘ prependFirst as := fun _ _ => rfl
  induction h with
  | nil =>
    rw [show prependFirst [] = id from rfl, Option.map_id]
    rfl
  | opens _ ih =>
    rw [hcons, ← Option.map_map, ← ih hc]
    rfl
  | closes _ ih =>
    rw [hcons, ← Option.map_map, ← ih hc]
    rfl
  | @plain d e a cs hopen hclose _ ih =>
    rw [outside, if_neg hopen, if_neg hclose] at hc
    rw [List.cons_append, hcons, ← Option.map_map]
    cases d with
    | zero =>
      simp only [if_true, List.mem_cons, not_or] at hc
      have hstarts : Text.startsWith (c :: op) (a :: (cs ++ rest)) = false := by
        simp [Text.startsWith, Text.afterStart?, hc.1]
      rw [partsFrom, if_neg hopen, if_neg hclose, hstarts, if_neg (by simp), ih hc.2]
    | succ d => rw [partsFrom, if_neg hopen, if_neg hclose, if_neg (by simp), ih hc]

theorem partsFrom_skip (op front rest : List Char) (d : Nat) :
    partsFrom op front.length d (front ++ rest) = partsFrom op 0 d rest := by
  induction front with
  | nil => rfl
  | cons a front ih => rw [List.length_cons, List.cons_append, partsFrom, ih]

/-- An operator outside all groups ends a part. -/
theorem partsFrom_operator {c : Char} {op : List Char} (hopen : c ≠ '(') (hclose : c ≠ ')')
    (rest : List Char) :
    partsFrom (c :: op) 0 0 (c :: op ++ rest) = (partsFrom (c :: op) 0 0 rest).map ([] :: ·) := by
  have hstarts : Text.startsWith (c :: op) (c :: op ++ rest) = true := by
    rw [Text.startsWith, Text.afterStart?_append]
    rfl
  rw [List.cons_append] at hstarts ⊢
  rw [partsFrom, if_neg hopen, if_neg hclose, if_pos (by simp [hstarts]), List.length_cons,
    Nat.add_sub_cancel, partsFrom_skip]

/-- A text in which the operator does not begin outside all groups is one part. -/
theorem partsFrom_of_notMem {c : Char} {op cs : List Char} (h : Balanced cs)
    (hc : c ∉ outside 0 cs) : partsFrom (c :: op) 0 0 cs = some [cs] := by
  have hnil : partsFrom (c :: op) 0 0 [] = some [[]] := rfl
  have hparts : partsFrom (c :: op) 0 0 (cs ++ []) =
      (partsFrom (c :: op) 0 0 []).map (prependFirst cs) := partsFrom_append h hc []
  rw [List.append_nil, hnil, Option.map_some, prependFirst_cons, List.append_nil] at hparts
  exact hparts

theorem split_eq_whole {c : Char} {op cs : List Char} (h : Balanced cs) (hc : c ∉ outside 0 cs) :
    split (c :: op) cs = .whole := by
  unfold split
  rw [partsFrom_of_notMem h hc]
  split <;> rfl

/-- What an operator may be joined with: a balanced text that the operator does not split and
whose ends are not blank. -/
structure Operand (c : Char) (cs : List Char) : Prop where
  balanced : Balanced cs
  notMem : c ∉ outside 0 cs
  tight : Tight cs

theorem Operand.spaced {c : Char} {cs : List Char} (h : Operand c cs) (before after : List Char)
    (hc : c ≠ ' ')    (hbefore : ∀ a ∈ before, a = ' ') (hafter : ∀ a ∈ after, a = ' ') :
    Balanced (before ++ cs ++ after) ∧ c ∉ outside 0 (before ++ cs ++ after) ∧
      trim (before ++ cs ++ after) = cs := by
  have hspaces : ∀ {spaces : List Char}, (∀ a ∈ spaces, a = ' ') →
      Balanced spaces ∧ c ∉ outside 0 spaces := by
    intro spaces hs
    refine ⟨balanced_of_plain ?_ ?_, fun hmem => hc (hs c (mem_of_mem_outside hmem))⟩
    · exact fun hmem => absurd (hs _ hmem) (by decide)
    · exact fun hmem => absurd (hs _ hmem) (by decide)
  have hblank : ∀ {spaces : List Char}, (∀ a ∈ spaces, a = ' ') →
      ∀ a ∈ spaces, Text.isBlank a = true := by
    intro spaces hs a ha
    rw [hs a ha]
    rfl
  have hfront := (hspaces hbefore).1.append h.balanced
  refine ⟨hfront.append (hspaces hafter).1, ?_,
    Text.trim_between before after (hblank hbefore) h.tight (hblank hafter)⟩
  rw [outside_append hfront, outside_append (hspaces hbefore).1]
  simp [(hspaces hbefore).2, (hspaces hafter).2, h.notMem]

theorem exists_partsFrom_joinWith (before : List Char) {c : Char} {op : List Char} (hopen : c ≠ '(')
    (hclose : c ≠ ')') (hc : c ≠ ' ') {cs : List Char} {more : List (List Char)}
    (hcs : ∀ operand ∈ cs :: more, Operand c operand) (hbefore : ∀ a ∈ before, a = ' ') :
    ∃ parts, partsFrom (c :: op) 0 0
        (before ++ Text.joinWith ([' '] ++ (c :: op) ++ [' ']) (cs :: more)) = some parts ∧
      parts.map trim = cs :: more := by
  induction more generalizing cs before with
  | nil =>
    obtain ⟨hbalanced, hnotMem, htrim⟩ :=
      (hcs cs List.mem_cons_self).spaced before [] hc hbefore (by simp)
    rw [List.append_nil] at hbalanced hnotMem htrim
    exact ⟨[before ++ cs], partsFrom_of_notMem hbalanced hnotMem, by simp [htrim]⟩
  | cons next more ih =>
    obtain ⟨hbalanced, hnotMem, htrim⟩ :=
      (hcs cs List.mem_cons_self).spaced before [' '] hc hbefore (by simp)
    obtain ⟨parts, hparts, hmore⟩ := @ih [' '] next
      (fun operand h => hcs operand (List.mem_cons_of_mem _ h)) (by simp)
    refine ⟨(before ++ cs ++ [' ']) :: parts, ?_, by rw [List.map_cons, htrim, hmore]⟩
    have htext : before ++ Text.joinWith ([' '] ++ (c :: op) ++ [' ']) (cs :: next :: more) =
        (before ++ cs ++ [' ']) ++ (c :: op ++
          ([' '] ++ Text.joinWith ([' '] ++ (c :: op) ++ [' ']) (next :: more))) := by
      simp [Text.joinWith]
    rw [htext, partsFrom_append hbalanced hnotMem, partsFrom_operator hopen hclose, hparts,
      Option.map_some, Option.map_some, prependFirst_cons, List.append_nil]

/-- Texts joined by an operator are split into these texts again, up to blanks around them. -/
theorem split_joinWith {c : Char} {op : List Char} (hopen : c ≠ '(') (hclose : c ≠ ')')
    (hc : c ≠ ' ') {first second : List Char} {more : List (List Char)}
    (hoperands : ∀ operand ∈ first :: second :: more, Operand c operand) :
    ∃ parts, split (c :: op)
        (Text.joinWith ([' '] ++ (c :: op) ++ [' ']) (first :: second :: more)) = .parts parts ∧
      parts.map trim = first :: second :: more := by
  obtain ⟨parts, hparts, htrim⟩ :=
    exists_partsFrom_joinWith [] hopen hclose hc hoperands (by simp)
  refine ⟨parts, ?_, htrim⟩
  have hoccurs : Text.occursIn (c :: op)
      (Text.joinWith ([' '] ++ (c :: op) ++ [' ']) (first :: second :: more)) = true := by
    have := Text.occursIn_append (first ++ [' ']) (c :: op)
      ([' '] ++ Text.joinWith ([' '] ++ (c :: op) ++ [' ']) (second :: more))
    simpa [Text.joinWith] using this
  unfold split
  rw [if_pos hoccurs]
  rw [List.nil_append] at hparts
  rw [hparts]
  obtain ⟨one, others, rfl, -, hothers⟩ := List.map_eq_cons_iff.1 htrim
  obtain ⟨other, rest, rfl, -, -⟩ := List.map_eq_cons_iff.1 hothers
  rfl

end RecipeRunner.Condition

import RecipeRunner.Decimal.Reading
import Mathlib.Data.Nat.Digits.Defs
/-!
# Writing and reading whole numbers

A whole number is read from the digits that are written for it, and a minus stands before those of
a negative one only.  It is read from other texts as well, with zeros before its digits or a plus
before them.

* `Spells`, `Counts`: the texts of whole numbers and of counts.
* `readInteger?_eq_some_iff`, `readCount?_eq_some_iff`: numbers are read from their texts and from
  nothing else.
-/

namespace RecipeRunner.Decimal

/-- A property of the ten digits holds for what is a digit. -/
theorem of_isDigit {p : Char → Bool} (h : "0123456789".toList.all p = true) {c : Char}
    (hc : isDigit c = true) : p c = true := by
  have hmem : ∀ n < 58, 48 ≤ n → Char.ofNat n ∈ "0123456789".toList := by decide
  simp only [isDigit, Bool.and_eq_true, decide_eq_true_eq, Char.le_def,
    UInt32.le_iff_toNat_le] at hc
  have hdigit := hmem c.toNat (Nat.lt_succ_of_le hc.2) hc.1
  rw [Char.ofNat_toNat] at hdigit
  exact List.all_eq_true.1 h c hdigit

theorem isDigit_of_mem_toDigits {n : Nat} {c : Char} (h : c ∈ Nat.toDigits 10 n) :
    isDigit c = true := by
  have hdigit := Nat.isDigit_of_mem_toDigits (by decide) (by decide) h
  simpa [isDigit, Char.isDigit, Char.le_def] using hdigit

/-- What is written for a whole number: the digits of its magnitude, possibly behind a minus. -/
theorem toList_toString (n : Int) : (toString n).toList =
    (if n < 0 then ['-'] else []) ++ Nat.toDigits 10 n.natAbs := by
  rw [Int.toString_eq_repr]
  cases n with
  | ofNat n =>
    have hnonneg : ¬ Int.ofNat n < 0 := by simp
    rw [if_neg hnonneg]
    exact Nat.toList_repr
  | negSucc n =>
    rw [if_pos (Int.negSucc_lt_zero n), Int.repr, String.toList_append, Nat.toList_repr]
    rfl

theorem readSign_of_isDigit {c : Char} (h : isDigit c = true) (cs : List Char) :
    readSign (c :: cs) = (false, c :: cs) := by
  unfold readSign
  split <;> simp_all [isDigit]

/-! ## Texts of whole numbers -/

/-- The digits of a natural number behind zeros. -/
def padded (zeros n : Nat) : List Char :=
  List.replicate zeros '0' ++ Nat.toDigits 10 n

/-- The texts of a whole number: its digits, possibly behind zeros and a sign, which has to be
there for a negative number. -/
inductive Spells : Int → List Char → Prop where
  | unsigned (zeros n : Nat) : Spells n (padded zeros n)
  | plus (zeros n : Nat) : Spells n ('+' :: padded zeros n)
  | minus (zeros n : Nat) : Spells (-n) ('-' :: padded zeros n)

theorem isDigit_of_mem_padded {zeros n : Nat} {c : Char} (h : c ∈ padded zeros n) :
    isDigit c = true := by
  rcases List.mem_append.1 h with h | h
  · obtain rfl := List.eq_of_mem_replicate h
    rfl
  · exact isDigit_of_mem_toDigits h

theorem ofDigits_padded (zeros n : Nat) : ofDigits (padded zeros n) = n := by
  induction zeros with
  | zero => rw [padded, List.replicate_zero, List.nil_append, ofDigits, ← Nat.ofDigitChars_eq_foldl,
      Nat.ofDigitChars_ten_toDigits]
  | succ zeros ih => exact ih

theorem readDigits?_padded (zeros n : Nat) : readDigits? (padded zeros n) = some n := by
  have hne : padded zeros n ≠ [] := by simp [padded, Nat.toDigits_ne_nil]
  have hall : (padded zeros n).all isDigit = true :=
    List.all_eq_true.2 fun _ => isDigit_of_mem_padded
  rw [readDigits?, hall, ofDigits_padded]
  simp [hne]

/-- A whole number is read from all of its texts. -/
theorem Spells.readInteger? {n : Int} {cs : List Char} (h : Spells n cs) :
    readInteger? cs = some n := by
  cases h with
  | unsigned zeros n =>
    have hread := readDigits?_padded zeros n
    match hpadded : padded zeros n with
    | [] =>
      rw [hpadded] at hread
      cases hread
    | c :: rest =>
      have hdigit : isDigit c = true := isDigit_of_mem_padded (hpadded ▸ List.mem_cons_self)
      rw [hpadded] at hread
      rw [Decimal.readInteger?, readSign_of_isDigit hdigit]
      simp only [hread]
      rfl
  | plus zeros n =>
    rw [Decimal.readInteger?, readSign]
    simp only [readDigits?_padded]
    rfl
  | minus zeros n =>
    rw [Decimal.readInteger?, readSign]
    simp only [readDigits?_padded]
    rfl

theorem spells_toString (n : Int) : Spells n (toString n).toList := by
  rw [toList_toString]
  split
  · next hneg =>
    have hvalue : -(n.natAbs : Int) = n := by omega
    have hminus := Spells.minus 0 n.natAbs
    rwa [hvalue] at hminus
  · next hnonneg =>
    have hvalue : (n.natAbs : Int) = n := by omega
    have hdigits := Spells.unsigned 0 n.natAbs
    rwa [hvalue] at hdigits

theorem readInteger?_toString (n : Int) : readInteger? (toString n).toList = some n :=
  (spells_toString n).readInteger?

theorem readBounded?_toString {n : Int} (h : fits n = true) :
    readBounded? (toString n).toList = some n := by
  rw [readBounded?, readInteger?_toString, Option.filter_some, if_pos h]

/-! ## What is read -/

theorem toDigits_of_isDigit {c : Char} (h : isDigit c = true) :
    Nat.toDigits 10 (c.toNat - '0'.toNat) = [c] ∧ c.toNat - '0'.toNat < 10 := by
  have hdigit := of_isDigit (p := fun c =>
    Nat.toDigits 10 (c.toNat - '0'.toNat) = [c] ∧ c.toNat - '0'.toNat < 10) (by decide) h
  simpa using hdigit

/-- Digits behind those of a positive number are the last ones of a greater number. -/
theorem toDigits_append {n : Nat} (hn : 0 < n) {cs : List Char}
    (hcs : ∀ c ∈ cs, isDigit c = true) :
    Nat.toDigits 10 n ++ cs = Nat.toDigits 10 (Nat.ofDigitChars 10 cs n) := by
  induction cs generalizing n with
  | nil => exact List.append_nil _
  | cons c cs ih =>
    obtain ⟨hc, hcs⟩ := List.forall_mem_cons.1 hcs
    obtain ⟨hdigit, hlt⟩ := toDigits_of_isDigit hc
    have hlonger := Nat.toDigits_append_toDigits (b := 10) (by decide) hn hlt
    rw [Nat.ofDigitChars_cons, ← ih (by omega) hcs, ← hlonger, hdigit, List.append_assoc,
      List.singleton_append]

/-- Digits are the digits of the number that they make up, behind zeros. -/
theorem exists_padded {cs : List Char} (hne : cs ≠ []) (hcs : ∀ c ∈ cs, isDigit c = true) :
    ∃ zeros, cs = padded zeros (ofDigits cs) := by
  induction cs with
  | nil => exact absurd rfl hne
  | cons c cs ih =>
    obtain ⟨hc, hrest⟩ := List.forall_mem_cons.1 hcs
    by_cases hzero : c = '0'
    · subst hzero
      by_cases hend : cs = []
      · subst hend
        exact ⟨0, rfl⟩
      · obtain ⟨zeros, hpadded⟩ := ih hend hrest
        exact ⟨zeros + 1, congrArg ('0' :: ·) hpadded⟩
    · obtain ⟨hdigit, -⟩ := toDigits_of_isDigit hc
      have hpos : 0 < c.toNat - '0'.toNat := by
        refine Nat.pos_of_ne_zero fun hvalue => hzero ?_
        rw [hvalue] at hdigit
        exact (List.singleton_inj.1 hdigit).symm
      refine ⟨0, ?_⟩
      have hdigits := toDigits_append hpos hrest
      rw [hdigit, Nat.ofDigitChars_eq_foldl] at hdigits
      rw [padded, ofDigits, List.foldl_cons]
      simpa using hdigits

theorem readDigits?_eq_some_iff {cs : List Char} {n : Nat} :
    readDigits? cs = some n ↔ ∃ zeros, cs = padded zeros n := by
  constructor
  · intro h
    unfold readDigits? at h
    split at h
    · next hdigits =>
      simp only [Bool.and_eq_true, Bool.not_eq_true', List.isEmpty_eq_false_iff,
        List.all_eq_true] at hdigits
      obtain rfl := Option.some.inj h
      exact exists_padded hdigits.1 hdigits.2
    · cases h
  · rintro ⟨zeros, rfl⟩
    exact readDigits?_padded zeros n

/-- The texts that a whole number is read from are its texts. -/
theorem readInteger?_eq_some_iff {cs : List Char} {n : Int} :
    readInteger? cs = some n ↔ Spells n cs := by
  refine ⟨fun h => ?_, Spells.readInteger?⟩
  unfold readInteger? at h
  generalize hsign : readSign cs = signed at h
  obtain ⟨negative, digits⟩ := signed
  obtain ⟨_, hdigits, hvalue⟩ := Option.map_eq_some_iff.1 h
  obtain ⟨value, hread, hcast⟩ := Option.bind_eq_some_iff.1 hdigits
  obtain rfl := Option.some.inj hcast
  obtain ⟨zeros, rfl⟩ := readDigits?_eq_some_iff.1 hread
  unfold readSign at hsign
  split at hsign
  · obtain ⟨rfl, rfl⟩ := Prod.mk.inj hsign
    obtain rfl : -(value : Int) = n := hvalue
    exact .minus zeros value
  · obtain ⟨rfl, rfl⟩ := Prod.mk.inj hsign
    obtain rfl : (value : Int) = n := hvalue
    exact .plus zeros value
  · obtain ⟨rfl, rfl⟩ := Prod.mk.inj hsign
    obtain rfl : (value : Int) = n := hvalue
    exact .unsigned zeros value

theorem readBounded?_eq_some_iff {cs : List Char} {n : Int} :
    readBounded? cs = some n ↔ Spells n cs ∧ fits n = true := by
  rw [readBounded?, Option.filter_eq_some_iff, readInteger?_eq_some_iff]

/-! ## Texts of counts -/

/-- The texts of a count: its digits, possibly behind zeros and a plus. -/
def Counts (n : Nat) (cs : List Char) : Prop :=
  n < twoTo 64 ∧ ∃ zeros, cs = padded zeros n ∨ cs = '+' :: padded zeros n

theorem Counts.isDigit_or_plus {n : Nat} {cs : List Char} (h : Counts n cs) :
    ∀ c ∈ cs, isDigit c = true ∨ c = '+' := by
  intro c hc
  obtain ⟨-, zeros, rfl | rfl⟩ := h
  · exact .inl (isDigit_of_mem_padded hc)
  · exact (List.mem_cons.1 hc).symm.imp_left isDigit_of_mem_padded

theorem plus_cons_ne_padded (cs : List Char) (zeros n : Nat) : '+' :: cs ≠ padded zeros n := by
  intro h
  have hplus : '+' ∈ padded zeros n := h ▸ List.mem_cons_self
  have hdigit := isDigit_of_mem_padded hplus
  exact absurd hdigit (by decide)

/-- The texts that a count is read from are its texts. -/
theorem readCount?_eq_some_iff {cs : List Char} {n : Nat} :
    readCount? cs = some n ↔ Counts n cs := by
  unfold readCount?
  dsimp only
  rw [Option.filter_eq_some_iff, readDigits?_eq_some_iff, decide_eq_true_eq, and_comm]
  refine and_congr_right fun _ => exists_congr fun zeros => ?_
  split
  · rw [List.cons.injEq, or_iff_right (plus_cons_ne_padded _ zeros n)]
    exact (and_iff_right rfl).symm
  · next hno =>
    exact (or_iff_left (hno _)).symm

end RecipeRunner.Decimal

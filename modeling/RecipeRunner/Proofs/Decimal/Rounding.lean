import RecipeRunner.Decimal.Binary
import Mathlib.Data.Nat.Log
import Mathlib.Tactic.Ring
/-!
# Rounding whole numbers

A float has 53 significant bits.  A whole number with more of them is rounded to the nearest one
that has no more, a number in the middle to the even neighbour.  Rounding keeps the order of
numbers and leaves those that are short enough.

* `divToEven_congr`: rounding a quotient depends on the quotient alone.
* `short_rounded`, `rounded_nearest`: a rounded number is nearest among those with 53 bits.
* `rounded_mono`: rounding never reverses an order.
* `Short.rounded_eq`: what has at most 53 significant bits is left as it is.
-/

namespace RecipeRunner.Decimal

/-! ## Quotients -/

theorem divToEven_mul_right (num den : Nat) {c : Nat} (hc : 0 < c) :
    divToEven (num * c) (den * c) = divToEven num den := by
  have hbelow : 2 * (num % den * c) < den * c ↔ 2 * (num % den) < den := by
    rw [← Nat.mul_assoc, Nat.mul_lt_mul_right hc]
  have habove : den * c < 2 * (num % den * c) ↔ den < 2 * (num % den) := by
    rw [← Nat.mul_assoc, Nat.mul_lt_mul_right hc]
  simp only [divToEven, Nat.mul_div_mul_right _ _ hc, Nat.mul_mod_mul_right, hbelow, habove]

theorem divToEven_of_lt {num den : Nat} (h : 2 * (num % den) < den) :
    divToEven num den = num / den := by
  simp [divToEven, h]

theorem divToEven_of_eq {num den : Nat} (h : 2 * (num % den) = den) :
    divToEven num den = num / den + num / den % 2 := by
  unfold divToEven
  dsimp only
  rw [if_neg (by omega), if_neg (by omega)]
  split_ifs <;> omega

theorem divToEven_of_gt {num den : Nat} (h : den < 2 * (num % den)) :
    divToEven num den = num / den + 1 := by
  unfold divToEven
  dsimp only
  rw [if_neg (by omega), if_pos h]

/-- Equal quotients are rounded alike. -/
theorem divToEven_congr {num den num' den' : Nat} (hden : 0 < den) (hden' : 0 < den')
    (h : num * den' = num' * den) : divToEven num den = divToEven num' den' := by
  rw [← divToEven_mul_right num den hden', h, Nat.mul_comm den den',
    divToEven_mul_right num' den' hden]

theorem divToEven_mul_self (q : Nat) {den : Nat} (hden : 0 < den) :
    divToEven (q * den) den = q := by
  simp [divToEven, hden, Nat.mul_div_cancel _ hden]

@[simp] theorem divToEven_one (n : Nat) : divToEven n 1 = n := by
  simpa using divToEven_mul_self n Nat.one_pos

theorem div_le_divToEven (num den : Nat) : num / den ≤ divToEven num den := by
  unfold divToEven
  dsimp only
  split_ifs <;> omega

theorem divToEven_le_div_add_one (num den : Nat) : divToEven num den ≤ num / den + 1 := by
  unfold divToEven
  dsimp only
  split_ifs <;> omega

theorem divToEven_mono {num num' : Nat} (den : Nat) (h : num ≤ num') :
    divToEven num den ≤ divToEven num' den := by
  rcases Nat.lt_or_eq_of_le (Nat.div_le_div_right (c := den) h) with hlt | heq
  · exact (divToEven_le_div_add_one num den).trans (hlt.trans_le (div_le_divToEven num' den))
  · have hrest : num % den ≤ num' % den := by
      have := Nat.div_add_mod num den
      have := Nat.div_add_mod num' den
      rw [heq] at *
      omega
    unfold divToEven
    rw [heq]
    dsimp only
    split_ifs <;> omega

theorem le_divToEven {q num den : Nat} (hden : 0 < den) (h : q * den ≤ num) :
    q ≤ divToEven num den := by
  rw [← divToEven_mul_self q hden]
  exact divToEven_mono den h

theorem divToEven_le {q num den : Nat} (hden : 0 < den) (h : num ≤ q * den) :
    divToEven num den ≤ q := by
  rw [← divToEven_mul_self q hden]
  exact divToEven_mono den h

/-! ## Magnitudes -/

/-- The nearest natural number with at most 53 significant bits. -/
def roundedMagnitude (n : Nat) : Nat :=
  divToEven n (2 ^ (n.log2 - 52)) * 2 ^ (n.log2 - 52)

theorem two_pow_log2_le_roundedMagnitude {n : Nat} (hn : n ≠ 0) :
    2 ^ n.log2 ≤ roundedMagnitude n := by
  have hpow : 2 ^ (n.log2 - (n.log2 - 52)) * 2 ^ (n.log2 - 52) = 2 ^ n.log2 := by
    rw [← Nat.pow_add]
    congr 1
    omega
  rw [← hpow, roundedMagnitude]
  refine Nat.mul_le_mul_right _ (le_divToEven (Nat.two_pow_pos _) ?_)
  rw [hpow]
  exact Nat.log2_self_le hn

theorem roundedMagnitude_le_two_pow (n : Nat) : roundedMagnitude n ≤ 2 ^ (n.log2 + 1) := by
  have hpow : 2 ^ (n.log2 + 1 - (n.log2 - 52)) * 2 ^ (n.log2 - 52) = 2 ^ (n.log2 + 1) := by
    rw [← Nat.pow_add]
    congr 1
    omega
  rw [← hpow, roundedMagnitude]
  refine Nat.mul_le_mul_right _ (divToEven_le (Nat.two_pow_pos _) ?_)
  rw [hpow]
  exact Nat.le_of_lt Nat.lt_log2_self

theorem roundedMagnitude_mono {m n : Nat} (h : m ≤ n) :
    roundedMagnitude m ≤ roundedMagnitude n := by
  by_cases hm : m = 0
  · simp [hm, roundedMagnitude, divToEven]
  have hn : n ≠ 0 := by omega
  have hlog : m.log2 ≤ n.log2 := by
    rw [Nat.log2_eq_log_two, Nat.log2_eq_log_two]
    exact Nat.log_mono_right h
  rcases Nat.lt_or_eq_of_le hlog with hlt | heq
  · calc
      roundedMagnitude m ≤ 2 ^ (m.log2 + 1) := roundedMagnitude_le_two_pow m
      _ ≤ 2 ^ n.log2 := Nat.pow_le_pow_right (by decide) hlt
      _ ≤ roundedMagnitude n := two_pow_log2_le_roundedMagnitude hn
  · rw [roundedMagnitude, roundedMagnitude, heq]
    exact Nat.mul_le_mul_right _ (divToEven_mono _ h)

theorem roundedMagnitude_of_short {m k : Nat} (hm : m < 2 ^ 53) :
    roundedMagnitude (m * 2 ^ k) = m * 2 ^ k := by
  by_cases hzero : m * 2 ^ k = 0
  · rw [hzero]
    decide
  have hlog : (m * 2 ^ k).log2 < 53 + k := by
    rw [Nat.log2_lt hzero, Nat.pow_add]
    exact Nat.mul_lt_mul_of_pos_right hm (Nat.two_pow_pos k)
  have hfactor : m * 2 ^ k =
      m * 2 ^ (k - ((m * 2 ^ k).log2 - 52)) * 2 ^ ((m * 2 ^ k).log2 - 52) := by
    rw [Nat.mul_assoc, ← Nat.pow_add]
    congr 2
    omega
  rw [roundedMagnitude]
  generalize (m * 2 ^ k).log2 - 52 = s at hfactor ⊢
  rw [hfactor, divToEven_mul_self _ (Nat.two_pow_pos s)]

theorem roundedMagnitude_le_of_le_two_pow {n j : Nat} (h : n ≤ 2 ^ j) :
    roundedMagnitude n ≤ 2 ^ j := by
  have hpow : roundedMagnitude (2 ^ j) = 2 ^ j := by
    simpa using roundedMagnitude_of_short (m := 1) (k := j) (by decide)
  exact (roundedMagnitude_mono h).trans_eq hpow

/-- Between neighbours with 53 significant bits lies no number with at most as many. -/
theorem le_or_ge_of_short {m j k q : Nat} (hm : m < 2 ^ 53) (hq : 2 ^ 52 ≤ q) :
    m * 2 ^ j ≤ q * 2 ^ k ∨ (q + 1) * 2 ^ k ≤ m * 2 ^ j := by
  rcases Nat.lt_or_ge j k with hj | hj
  · left
    calc
      m * 2 ^ j ≤ 2 ^ 53 * 2 ^ j := Nat.mul_le_mul_right _ (Nat.le_of_lt hm)
      _ = 2 ^ 52 * 2 ^ (j + 1) := by rw [Nat.pow_succ 2 j]; ring
      _ ≤ q * 2 ^ k := Nat.mul_le_mul hq (Nat.pow_le_pow_right (by decide) hj)
  · obtain ⟨i, rfl⟩ := Nat.exists_eq_add_of_le hj
    have hfactor : m * 2 ^ (k + i) = m * 2 ^ i * 2 ^ k := by rw [Nat.pow_add]; ring
    rw [hfactor]
    rcases Nat.lt_or_ge q (m * 2 ^ i) with habove | hbelow
    · exact .inr (Nat.mul_le_mul_right _ habove)
    · exact .inl (Nat.mul_le_mul_right _ hbelow)

/-- No number with at most 53 significant bits is nearer. -/
theorem roundedMagnitude_nearest (n : Nat) {m j : Nat} (hm : m < 2 ^ 53) :
    ((roundedMagnitude n : Int) - n).natAbs ≤ ((m * 2 ^ j : Nat) - (n : Int)).natAbs := by
  rcases Nat.lt_or_ge n (2 ^ 53) with hn | hn
  · have hself : roundedMagnitude n = n := by
      simpa using roundedMagnitude_of_short (k := 0) hn
    rw [hself]
    simp
  have hlog : 53 ≤ n.log2 := (Nat.le_log2 (by omega)).2 hn
  have hq : 2 ^ 52 ≤ n / 2 ^ (n.log2 - 52) := by
    rw [Nat.le_div_iff_mul_le (Nat.two_pow_pos _), ← Nat.pow_add,
      Nat.add_sub_cancel' (by omega : 52 ≤ n.log2)]
    exact Nat.log2_self_le (by omega)
  have hsides := le_or_ge_of_short (j := j) (k := n.log2 - 52) hm hq
  have hdivision := Nat.div_add_mod' n (2 ^ (n.log2 - 52))
  have hrest := Nat.mod_lt n (Nat.two_pow_pos (n.log2 - 52))
  rw [roundedMagnitude]
  generalize m * 2 ^ j = s at hsides ⊢
  generalize 2 ^ (n.log2 - 52) = d at *
  rw [Nat.add_mul, Nat.one_mul] at hsides
  rcases Nat.lt_trichotomy (2 * (n % d)) d with hlt | heq | hgt
  · rw [divToEven_of_lt hlt]
    omega
  · rw [divToEven_of_eq heq, Nat.add_mul]
    rcases Nat.mod_two_eq_zero_or_one (n / d) with hbit | hbit
    · rw [hbit, Nat.zero_mul]
      omega
    · rw [hbit, Nat.one_mul]
      omega
  · rw [divToEven_of_gt hgt, Nat.add_mul, Nat.one_mul]
    omega

/-! ## Whole numbers -/

/-- A whole number with at most 53 significant bits. -/
def Short (n : Int) : Prop :=
  ∃ m k, n.natAbs = m * 2 ^ k ∧ m < 2 ^ 53

/-- The nearest whole number with at most 53 significant bits. -/
def rounded (n : Int) : Int :=
  n.sign * roundedMagnitude n.natAbs

theorem short_of_natAbs_le {n : Int} (h : n.natAbs ≤ 2 ^ 53) : Short n := by
  rcases Nat.lt_or_eq_of_le h with hlt | heq
  · exact ⟨n.natAbs, 0, by simp, hlt⟩
  · exact ⟨1, 53, by rw [heq, Nat.one_mul], by decide⟩

theorem natAbs_rounded (n : Int) : (rounded n).natAbs = roundedMagnitude n.natAbs := by
  by_cases hn : n = 0
  · subst hn
    decide
  · rw [rounded, Int.natAbs_mul, Int.natAbs_sign_of_ne_zero hn, Nat.one_mul, Int.natAbs_natCast]

theorem rounded_of_nonneg {n : Int} (h : 0 ≤ n) : rounded n = roundedMagnitude n.natAbs := by
  rcases Int.lt_or_eq_of_le h with hlt | rfl
  · rw [rounded, Int.sign_eq_one_of_pos hlt, Int.one_mul]
  · decide

theorem rounded_neg (n : Int) : rounded (-n) = -rounded n := by
  rw [rounded, rounded, Int.sign_neg, Int.natAbs_neg, Int.neg_mul]

/-- A number that is short enough is left as it is. -/
theorem Short.rounded_eq {n : Int} (h : Short n) : rounded n = n := by
  obtain ⟨m, k, hn, hm⟩ := h
  rw [rounded, hn, roundedMagnitude_of_short hm, ← hn]
  exact Int.sign_mul_natAbs n

theorem rounded_of_nonpos {n : Int} (h : n ≤ 0) :
    rounded n = -(roundedMagnitude n.natAbs : Int) := by
  have hneg := rounded_of_nonneg (Int.neg_nonneg_of_nonpos h)
  rw [rounded_neg, Int.natAbs_neg] at hneg
  omega

/-- Rounding never reverses an order. -/
theorem rounded_mono {m n : Int} (h : m ≤ n) : rounded m ≤ rounded n := by
  rcases Int.le_total 0 m with hm | hm
  · rw [rounded_of_nonneg hm, rounded_of_nonneg (hm.trans h)]
    exact_mod_cast roundedMagnitude_mono (by omega)
  · rcases Int.le_total 0 n with hn | hn
    · rw [rounded_of_nonneg hn, rounded_of_nonpos hm]
      omega
    · have hmagnitude := roundedMagnitude_mono (m := n.natAbs) (n := m.natAbs) (by omega)
      rw [rounded_of_nonpos hn, rounded_of_nonpos hm]
      omega

theorem natAbs_rounded_le {n : Int} {j : Nat} (h : n.natAbs ≤ 2 ^ j) :
    (rounded n).natAbs ≤ 2 ^ j := by
  rw [natAbs_rounded]
  exact roundedMagnitude_le_of_le_two_pow h

/-- Rounding leaves at most 53 significant bits. -/
theorem short_rounded (n : Int) : Short (rounded n) := by
  have hhigh : divToEven n.natAbs (2 ^ (n.natAbs.log2 - 52)) ≤ 2 ^ 53 := by
    refine divToEven_le (Nat.two_pow_pos _) ?_
    rw [← Nat.pow_add]
    exact (Nat.le_of_lt Nat.lt_log2_self).trans (Nat.pow_le_pow_right (by decide) (by omega))
  rw [Short, natAbs_rounded, roundedMagnitude]
  rcases Nat.lt_or_eq_of_le hhigh with hless | hcarry
  · exact ⟨_, _, rfl, hless⟩
  · exact ⟨1, 53 + (n.natAbs.log2 - 52), by rw [hcarry, Nat.pow_add, Nat.one_mul], by decide⟩

/-- No number with at most 53 significant bits is nearer than the rounded one. -/
theorem rounded_nearest (n : Int) {s : Int} (hs : Short s) :
    (rounded n - n).natAbs ≤ (s - n).natAbs := by
  obtain ⟨m, j, hmagnitude, hm⟩ := hs
  have hnearest := roundedMagnitude_nearest n.natAbs (j := j) hm
  rw [← hmagnitude] at hnearest
  -- On the other side of zero everything is farther away than zero.
  have hzero := roundedMagnitude_nearest n.natAbs (m := 0) (j := 0) (by decide)
  rw [Nat.zero_mul] at hzero
  rcases Int.le_total 0 n with hn | hn
  · rw [rounded_of_nonneg hn]
    omega
  · rw [rounded_of_nonpos hn]
    omega

end RecipeRunner.Decimal

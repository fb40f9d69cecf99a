import RecipeRunner.Proofs.Decimal.Rounding
import Mathlib
/-!
# Arithmetic of whole floats

An unpacked float is a sign, a mantissa and an exponent.  Those that stand for a whole number are
added, subtracted and multiplied like the whole numbers, and the exact result is rounded; they are
compared without any rounding.

* `roundedMantissa_shiftRight`: dropping bits with a round bit and a sticky bit rounds the quotient
  exactly.
* `stands_roundWithAccuracy`: so a mantissa of any length is rounded like the whole number.
* `Stands.add`, `Stands.sub`, `Stands.mul`: the operations.
* `Stands.compare_eq`: the order.
-/

namespace RecipeRunner.Decimal

open Float.Model Float.Model.UnpackedFloat

/-- A float stands for a whole number.  Unless it is a zero, its mantissa has all 53 bits, so that
the number determines mantissa and exponent. -/
inductive Stands : UnpackedFloat → Int → Prop where
  | zero (sign : Sign) : Stands (.zero sign) 0
  | finite (sign : Sign) {m k : Nat} {n : Int} (hpos : 0 < m) (hlow : 2 ^ 52 ≤ m)
      (hhigh : m < 2 ^ 53) (hvalue : sign.apply m * 2 ^ k = n * 2 ^ 52) :
      Stands (.finite sign m (k - 52) hpos) n

/-! ## Dropping bits -/

/-- What has been dropped after some bits: the quotient stays, and the two residual bits together
tell whether there was a remainder. -/
theorem shiftRight_eq (m n : Nat) :
    (ExtendedMantissa.mk m false false >>> n).mantissa = m / 2 ^ n ∧
      ((ExtendedMantissa.mk m false false >>> n).roundBit ||
        (ExtendedMantissa.mk m false false >>> n).stickyBit) = decide (m % 2 ^ n ≠ 0) := by
  induction n with
  | zero => exact ⟨by simp [HShiftRight.hShiftRight, Nat.repeat],
      by simp [HShiftRight.hShiftRight, Nat.repeat, Nat.mod_one]⟩
  | succ n ih =>
    obtain ⟨hmantissa, hrest⟩ := ih
    have hstep : ExtendedMantissa.mk m false false >>> (n + 1) =
        (ExtendedMantissa.mk m false false >>> n).shiftRightOne := rfl
    rw [hstep, ExtendedMantissa.shiftRightOne, hmantissa]
    refine ⟨by rw [Nat.div_div_eq_div_mul, Nat.pow_succ], ?_⟩
    dsimp only
    rw [hrest, Nat.pow_succ, Nat.mod_mul]
    have hpow := Nat.two_pow_pos n
    rcases Nat.mod_two_eq_zero_or_one (m / 2 ^ n) with hbit | hbit
    · simp [hbit]
    · simp [hbit]

theorem roundedMantissa_shiftRight (m n : Nat) :
    (ExtendedMantissa.mk m false false >>> n).roundedMantissa = divToEven m (2 ^ n) := by
  cases n with
  | zero => exact (divToEven_one m).symm
  | succ n =>
    obtain ⟨hmantissa, hrest⟩ := shiftRight_eq m n
    have hstep : ExtendedMantissa.mk m false false >>> (n + 1) =
        (ExtendedMantissa.mk m false false >>> n).shiftRightOne := rfl
    have hmod : m % 2 ^ (n + 1) = m % 2 ^ n + 2 ^ n * (m / 2 ^ n % 2) := by
      rw [Nat.pow_succ, Nat.mod_mul]
    have hdiv : m / 2 ^ (n + 1) = m / 2 ^ n / 2 := by rw [Nat.pow_succ, Nat.div_div_eq_div_mul]
    have hpow : 2 ^ (n + 1) = 2 ^ n * 2 := Nat.pow_succ 2 n
    have hless := Nat.mod_lt m (Nat.two_pow_pos n)
    rw [hstep, ExtendedMantissa.shiftRightOne, hmantissa, hrest]
    rcases Nat.mod_two_eq_zero_or_one (m / 2 ^ n) with hbit | hbit
    · rw [hbit, Nat.mul_zero, Nat.add_zero] at hmod
      rw [divToEven_of_lt (by omega), hdiv, hbit]
      cases decide (m % 2 ^ n ≠ 0) <;> rfl
    · rw [hbit, Nat.mul_one] at hmod
      by_cases hzero : m % 2 ^ n = 0
      · rw [divToEven_of_eq (by omega), hdiv, hbit, hzero]
        rfl
      · rw [divToEven_of_gt (by omega), hdiv, hbit, decide_eq_true hzero]
        rfl

/-! ## Rounding -/

theorem targetExponent_eq {m : Nat} {e t : Int} (ht : t = m.log2 + e - 52) (hmin : -1074 ≤ t) :
    Format.binary64.targetExponent (totalExponent m e) = t := by
  simp only [Format.targetExponent, totalExponent, Format.mantissaBits, Format.minExponent]
  norm_num
  omega

theorem shiftToTargetExponent_eq {m d : Nat} {e : Int} (hlog : m.log2 = 52 + d)
    (hmin : -1074 ≤ e + d) :
    shiftToTargetExponent Format.binary64 m e .exact =
      (ExtendedMantissa.mk m false false >>> d, e + d) := by
  have htarget : Format.binary64.targetExponent (totalExponent m e) = e + d :=
    targetExponent_eq (by omega) hmin
  have hshift : (e + d - e).toNat = d := by omega
  rw [shiftToTargetExponent, htarget, shiftToExponent, hshift]
  rfl

/-- Rounding a mantissa with 53 bits or more, which may carry into one bit more. -/
theorem roundWithAccuracy_eq (sign : Sign) {m d : Nat} {e : Int} (hlog : m.log2 = 52 + d)
    (hmin : -1074 ≤ e + d) :
    ∃ (r c : Nat) (hr : 0 < r), 2 ^ 52 ≤ r ∧ r < 2 ^ 53 ∧ r * 2 ^ c = divToEven m (2 ^ d) ∧
      roundWithAccuracy Format.binary64 sign m e .exact = .finite sign r (e + d + c) hr := by
  have hm : m ≠ 0 := by
    rintro rfl
    rw [Nat.log2_zero] at hlog
    omega
  have hlow : 2 ^ 52 ≤ divToEven m (2 ^ d) := by
    refine le_divToEven (Nat.two_pow_pos d) ?_
    rw [← Nat.pow_add, ← hlog]
    exact Nat.log2_self_le hm
  have hhigh : divToEven m (2 ^ d) ≤ 2 ^ 53 := by
    refine divToEven_le (Nat.two_pow_pos d) ?_
    rw [← Nat.pow_add]
    exact (Nat.le_of_lt Nat.lt_log2_self).trans (Nat.pow_le_pow_right (by decide) (by omega))
  rw [roundWithAccuracy, shiftToTargetExponent_eq hlog hmin]
  dsimp only
  rw [roundedMantissa_shiftRight]
  rcases Nat.lt_or_eq_of_le hhigh with hless | hcarry
  · have hlog' : (divToEven m (2 ^ d)).log2 = 52 + 0 :=
      (Nat.log2_eq_iff (by omega)).2 ⟨hlow, hless⟩
    refine ⟨divToEven m (2 ^ d), 0, by omega, hlow, hless, by simp, ?_⟩
    have hne : divToEven m (2 ^ d) ≠ 0 := by omega
    rw [shiftToTargetExponent_eq hlog' (by omega)]
    exact dif_neg hne
  · have hlog' : (divToEven m (2 ^ d)).log2 = 52 + 1 := by rw [hcarry, Nat.log2_two_pow]
    refine ⟨2 ^ 52, 1, by decide, Nat.le_refl _, by decide, by rw [hcarry]; decide, ?_⟩
    have hne : (2 : Nat) ^ 53 / 2 ≠ 0 := by decide
    rw [shiftToTargetExponent_eq hlog' (by omega), hcarry]
    exact dif_neg hne

theorem log2_mul_two_pow {n : Nat} (hn : n ≠ 0) (k : Nat) : (n * 2 ^ k).log2 = n.log2 + k := by
  induction k with
  | zero => simp
  | succ k ih =>
    have hne : n * 2 ^ k ≠ 0 := Nat.mul_ne_zero hn (Nat.two_pow_pos k).ne'
    rw [Nat.pow_succ, ← Nat.mul_assoc, Nat.mul_comm, Nat.log2_two_mul hne, ih, Nat.add_assoc]

/-- The scale of a mantissa relative to the whole number that it stands for. -/
theorem log2_add {m n j l : Nat} (hn : n ≠ 0) (hvalue : m * 2 ^ j = n * 2 ^ l) :
    m.log2 + j = n.log2 + l := by
  have hm : m ≠ 0 := by
    rintro rfl
    simp [hn] at hvalue
  have hlog := congrArg Nat.log2 hvalue
  rwa [log2_mul_two_pow hm, log2_mul_two_pow hn] at hlog

theorem divToEven_eq_roundedMagnitude {m n d : Nat}
    (h : m * 2 ^ n.log2 = n * 2 ^ (52 + d)) :
    divToEven m (2 ^ d) * 2 ^ n.log2 = roundedMagnitude n * 2 ^ 52 := by
  rw [roundedMagnitude]
  rcases Nat.le_total 52 n.log2 with hlong | hshort
  · obtain ⟨s, hs⟩ := Nat.exists_eq_add_of_le hlong
    have hscaled : m * 2 ^ s = n * 2 ^ d := by
      rw [hs, Nat.pow_add, Nat.pow_add] at h
      refine Nat.eq_of_mul_eq_mul_right (Nat.two_pow_pos 52) ?_
      linarith
    have hsub : n.log2 - 52 = s := by omega
    rw [hsub, divToEven_congr (Nat.two_pow_pos d) (Nat.two_pow_pos s) hscaled, hs, Nat.pow_add]
    ring
  · have hsub : n.log2 - 52 = 0 := by omega
    have hscaled : m = n * 2 ^ (52 - n.log2) * 2 ^ d := by
      refine Nat.eq_of_mul_eq_mul_right (Nat.two_pow_pos n.log2) ?_
      have hpow : 2 ^ (52 + d) = 2 ^ (52 - n.log2) * 2 ^ n.log2 * 2 ^ d := by
        rw [← Nat.pow_add, ← Nat.pow_add]
        congr 1
        omega
      rw [h, hpow]
      ring
    have hpow : 2 ^ 52 = 2 ^ (52 - n.log2) * 2 ^ n.log2 := by
      rw [← Nat.pow_add]
      congr 1
      omega
    rw [hsub, hscaled, divToEven_mul_self _ (Nat.two_pow_pos d), Nat.pow_zero, divToEven_one, hpow]
    ring

/-! ## Signs -/

theorem natAbs_apply (sign : Sign) (n : Int) : (sign.apply n).natAbs = n.natAbs := by
  cases sign <;> simp [Sign.apply]

theorem neg_apply (sign : Sign) (n : Int) : (-sign).apply n = -sign.apply n := by
  cases sign with
  | negative => exact (Int.neg_neg n).symm
  | positive => rfl

theorem mul_apply (sign sign' : Sign) (m n : Int) :
    (sign * sign').apply (m * n) = sign.apply m * sign'.apply n := by
  cases sign <;> cases sign'
  · exact (Int.neg_mul_neg m n).symm
  · exact (Int.neg_mul m n).symm
  · exact (Int.mul_neg m n).symm
  · rfl

theorem apply_mul_two_pow (sign : Sign) (m k : Nat) :
    sign.apply (m * 2 ^ k : Nat) = sign.apply m * 2 ^ k := by
  cases sign with
  | negative =>
    simp only [Sign.apply]
    push_cast
    ring
  | positive =>
    simp only [Sign.apply]
    push_cast
    rfl

theorem apply_mul_eq (sign : Sign) {a b c d : Nat} (h : a * 2 ^ b = c * 2 ^ d) :
    sign.apply a * 2 ^ b = sign.apply c * 2 ^ d := by
  have hcast : (a : Int) * 2 ^ b = c * 2 ^ d := by exact_mod_cast h
  cases sign with
  | negative => simp only [Sign.apply, Int.neg_mul, hcast]
  | positive => exact hcast

section

variable {sign : Sign} {m j l : Nat} {n : Int} (hvalue : sign.apply m * 2 ^ j = n * 2 ^ l)

include hvalue

/-- The magnitude of a number that a mantissa with a sign stands for. -/
theorem magnitude_eq : m * 2 ^ j = n.natAbs * 2 ^ l := by
  have habs := congrArg Int.natAbs hvalue
  rw [Int.natAbs_mul, Int.natAbs_mul, natAbs_apply, Int.natAbs_natCast, Int.natAbs_pow,
    Int.natAbs_pow] at habs
  exact habs

theorem natAbs_ne_zero (hm : m ≠ 0) : n.natAbs ≠ 0 := by
  intro hn
  have hmagnitude := magnitude_eq hvalue
  rw [hn, Nat.zero_mul, Nat.mul_eq_zero] at hmagnitude
  exact hmagnitude.elim hm (Nat.two_pow_pos j).ne'

theorem apply_natAbs : sign.apply n.natAbs = n := by
  have hpow : (0 : Int) < 2 ^ l := Int.pow_pos (by decide)
  have hscaled := apply_mul_eq sign (magnitude_eq hvalue)
  rw [hvalue] at hscaled
  exact (Int.eq_of_mul_eq_mul_right hpow.ne' hscaled).symm

theorem rounded_eq : rounded n = sign.apply (roundedMagnitude n.natAbs) := by
  have hn := apply_natAbs hvalue
  cases sign with
  | negative => exact rounded_of_nonpos (by simp only [Sign.apply] at hn; omega)
  | positive => exact rounded_of_nonneg (by simp only [Sign.apply] at hn; omega)

end

/-! ## Rounding mantissas -/

/-- A mantissa with 53 bits or more is rounded like the whole number that it stands for. -/
theorem stands_roundWithAccuracy {sign : Sign} {m d j l : Nat} {n e : Int}
    (hlog : m.log2 = 52 + d) (hvalue : sign.apply m * 2 ^ j = n * 2 ^ l) (he : e = j - l) :
    Stands (roundWithAccuracy Format.binary64 sign m e .exact) (rounded n) := by
  have hmagnitude := magnitude_eq hvalue
  have hm : m ≠ 0 := by
    rintro rfl
    rw [Nat.log2_zero] at hlog
    omega
  have hscale := log2_add (natAbs_ne_zero hvalue hm) hmagnitude
  obtain ⟨r, c, hr, hlow, hhigh, hdigits, hround⟩ :=
    roundWithAccuracy_eq sign (e := e) hlog (by omega)
  generalize hN : n.natAbs = N at *
  have hquotient : m * 2 ^ N.log2 = N * 2 ^ (52 + d) := by
    refine Nat.eq_of_mul_eq_mul_right (Nat.two_pow_pos j) ?_
    calc
      m * 2 ^ N.log2 * 2 ^ j = N * 2 ^ (l + N.log2) := by
        rw [Nat.mul_right_comm, hmagnitude, Nat.pow_add, Nat.mul_assoc]
      _ = N * 2 ^ (52 + d) * 2 ^ j := by
        rw [Nat.mul_assoc, ← Nat.pow_add]
        congr 2
        omega
  have hrounded : r * 2 ^ (N.log2 + c) = roundedMagnitude N * 2 ^ 52 := by
    calc
      r * 2 ^ (N.log2 + c) = r * 2 ^ c * 2 ^ N.log2 := by rw [Nat.pow_add]; ring
      _ = divToEven m (2 ^ d) * 2 ^ N.log2 := by rw [hdigits]
      _ = roundedMagnitude N * 2 ^ 52 := divToEven_eq_roundedMagnitude hquotient
  have hexponent : e + d + c = ((N.log2 + c : Nat) : Int) - 52 := by
    rw [he]
    omega
  rw [hround, hexponent, rounded_eq hvalue, hN]
  exact .finite sign hr hlow hhigh (apply_mul_eq sign hrounded)

theorem stands_round {sign : Sign} {m j l : Nat} {n e : Int} (hm : m ≠ 0)
    (hvalue : sign.apply m * 2 ^ j = n * 2 ^ l) (he : e = j - l) :
    Stands (UnpackedFloat.round Format.binary64 sign m e) (rounded n) := by
  have hscale := log2_add (natAbs_ne_zero hvalue hm) (magnitude_eq hvalue)
  have htarget : Format.binary64.targetExponent (totalExponent m e) = n.natAbs.log2 - 52 :=
    targetExponent_eq (by omega) (by omega)
  -- A mantissa that is too short is first lengthened to 53 bits.
  obtain ⟨c, hc⟩ : ∃ c, (e - ((n.natAbs.log2 : Int) - 52)).toNat = c := ⟨_, rfl⟩
  obtain ⟨d, hd⟩ : ∃ d, m.log2 + c = 52 + d := Nat.exists_eq_add_of_le (by omega)
  have hlog : (m * 2 ^ c).log2 = 52 + d := by rw [log2_mul_two_pow hm, hd]
  have hlengthened : sign.apply (m * 2 ^ c : Nat) * 2 ^ j = n * 2 ^ (l + c) := by
    rw [apply_mul_two_pow, Int.mul_right_comm, hvalue, Int.pow_add, Int.mul_assoc]
  rw [UnpackedFloat.round, htarget, decreaseExponent]
  dsimp only
  rw [Nat.shiftLeft_eq, hc]
  exact stands_roundWithAccuracy hlog hlengthened (by omega)

theorem stands_normalize (zeroSign : Sign) {m n e : Int} {j l : Nat}
    (hvalue : m * 2 ^ j = n * 2 ^ l) (he : e = j - l) :
    Stands (UnpackedFloat.normalize Format.binary64 m e zeroSign) (rounded n) := by
  rw [UnpackedFloat.normalize]
  rcases Int.lt_trichotomy m 0 with hneg | rfl | hpos
  · have happly : Sign.negative.apply ((-m).toNat : Nat) = m := by
      simp only [Sign.apply]
      omega
    rw [Int.compare_eq_lt.2 hneg]
    exact stands_round (by omega) (by rw [happly, hvalue]) he
  · have hn : n = 0 := by
      rw [Int.zero_mul] at hvalue
      exact (Int.mul_eq_zero.1 hvalue.symm).resolve_right (Int.pow_pos (by decide)).ne'
    rw [hn]
    exact .zero zeroSign
  · have happly : Sign.positive.apply (m.toNat : Nat) = m := by
      simp only [Sign.apply]
      omega
    rw [Int.compare_eq_gt.2 hpos]
    exact stands_round (by omega) (by rw [happly, hvalue]) he

/-! ## Operations -/

namespace Stands

variable {u v : UnpackedFloat} {m n : Int}

theorem short (h : Stands u n) : Short n := by
  cases h with
  | zero => exact short_of_natAbs_le (by decide)
  | @finite sign m k n hpos hlow hhigh hvalue =>
    have hmagnitude := magnitude_eq hvalue
    rcases Nat.le_total 52 k with hk | hk
    · obtain ⟨s, rfl⟩ := Nat.exists_eq_add_of_le hk
      refine ⟨m, s, ?_, hhigh⟩
      refine (Nat.eq_of_mul_eq_mul_right (Nat.two_pow_pos 52) ?_).symm
      rw [← hmagnitude, Nat.pow_add]
      ring
    · refine ⟨n.natAbs, 0, by rw [Nat.pow_zero, Nat.mul_one], ?_⟩
      refine lt_of_le_of_lt ?_ hhigh
      refine Nat.le_of_mul_le_mul_right ?_ (Nat.two_pow_pos 52)
      rw [← hmagnitude]
      exact Nat.mul_le_mul_left m (Nat.pow_le_pow_right (by decide) hk)

protected theorem neg (h : Stands u n) : Stands u.neg (-n) := by
  cases h with
  | zero sign => exact .zero (-sign)
  | finite sign hpos hlow hhigh hvalue =>
    refine .finite (-sign) hpos hlow hhigh ?_
    rw [neg_apply, Int.neg_mul, hvalue, Int.neg_mul]

protected theorem abs (h : Stands u n) : Stands u.abs n.natAbs := by
  cases h with
  | zero sign => exact .zero .positive
  | finite sign hpos hlow hhigh hvalue =>
    exact .finite .positive hpos hlow hhigh (apply_mul_eq .positive (magnitude_eq hvalue))

/-- A mantissa at a smaller exponent. -/
theorem shiftLeft_value {sign : Sign} {m k s : Nat} {n : Int}
    (hvalue : sign.apply m * 2 ^ k = n * 2 ^ 52) (hs : s ≤ k) :
    sign.apply (m <<< ((k : Int) - 52 - (s - 52)).toNat : Nat) * 2 ^ s = n * 2 ^ 52 := by
  obtain ⟨c, rfl⟩ := Nat.exists_eq_add_of_le hs
  have hc : (((s + c : Nat) : Int) - 52 - (s - 52)).toNat = c := by omega
  rw [hc, Nat.shiftLeft_eq, apply_mul_two_pow, ← hvalue, Int.pow_add]
  ring

protected theorem add (hu : Stands u m) (hv : Stands v n) :
    Stands (u.add Format.binary64 v) (rounded (m + n)) := by
  cases hu with
  | zero sign =>
    rw [Int.zero_add, hv.short.rounded_eq]
    cases hv with
    | zero sign' => cases sign <;> cases sign' <;> exact .zero _
    | finite sign' hpos hlow hhigh hvalue => exact .finite sign' hpos hlow hhigh hvalue
  | @finite sign mantissa k m hpos hlow hhigh hvalue =>
    have hsum := Stands.finite sign hpos hlow hhigh hvalue
    cases hv with
    | zero sign' =>
      rw [Int.add_zero, hsum.short.rounded_eq]
      exact hsum
    | @finite sign' mantissa' k' n hpos' hlow' hhigh' hvalue' =>
      obtain ⟨s, hs, hs', hmin⟩ : ∃ s : Nat, s ≤ k ∧ s ≤ k' ∧
          min ((k : Int) - 52) (k' - 52) = s - 52 := ⟨min k k', by omega⟩
      rw [UnpackedFloat.add, hmin]
      refine stands_normalize _ (j := s) (l := 52) ?_ rfl
      rw [Int.add_mul, shiftLeft_value hvalue hs, shiftLeft_value hvalue' hs',
        ← Int.add_mul]

theorem sub_eq_add_neg (u v : UnpackedFloat) :
    u.sub Format.binary64 v = u.add Format.binary64 v.neg := by
  cases u with
  | notANumber => rfl
  | infinity sign => cases v <;> rfl
  | zero sign => cases v <;> rfl
  | finite sign m e hpos =>
    cases v with
    | finite sign' m' e' hpos' =>
      simp only [UnpackedFloat.sub, UnpackedFloat.add, UnpackedFloat.neg, neg_apply,
        Int.sub_eq_add_neg]
    | _ => rfl

protected theorem sub (hu : Stands u m) (hv : Stands v n) :
    Stands (u.sub Format.binary64 v) (rounded (m - n)) := by
  rw [sub_eq_add_neg, Int.sub_eq_add_neg]
  exact hu.add hv.neg

protected theorem mul (hu : Stands u m) (hv : Stands v n) :
    Stands (u.mul Format.binary64 v) (rounded (m * n)) := by
  cases hu with
  | zero sign =>
    rw [Int.zero_mul]
    cases hv <;> exact .zero _
  | @finite sign mantissa k m hpos hlow hhigh hvalue =>
    cases hv with
    | zero sign' =>
      rw [Int.mul_zero]
      exact .zero _
    | @finite sign' mantissa' k' n hpos' hlow' hhigh' hvalue' =>
      have hlong : 52 ≤ (mantissa * mantissa').log2 := by
        rw [Nat.le_log2 (Nat.mul_pos hpos hpos').ne']
        exact hlow.trans (Nat.le_mul_of_pos_right mantissa hpos')
      obtain ⟨d, hd⟩ := Nat.exists_eq_add_of_le hlong
      have hproduct : (sign * sign').apply (mantissa * mantissa' : Nat) * 2 ^ (k + k') =
          m * n * 2 ^ (52 + 52) := by
        rw [Int.natCast_mul, mul_apply, Int.pow_add, Int.pow_add, mul_mul_mul_comm, hvalue,
          hvalue', mul_mul_mul_comm]
      exact stands_roundWithAccuracy hd hproduct (by omega)

end Stands

/-! ## Order -/

section

variable {m m' k k' n n' : Nat}

theorem lt_of_exponent_lt (hhigh : m < 2 ^ 53) (hlow' : 2 ^ 52 ≤ m')
    (hvalue : m * 2 ^ k = n * 2 ^ 52) (hvalue' : m' * 2 ^ k' = n' * 2 ^ 52) (hk : k < k') :
    n < n' := by
  refine Nat.lt_of_mul_lt_mul_right (a := 2 ^ 52) ?_
  calc
    n * 2 ^ 52 = m * 2 ^ k := hvalue.symm
    _ < 2 ^ 53 * 2 ^ k := Nat.mul_lt_mul_of_pos_right hhigh (Nat.two_pow_pos k)
    _ = 2 ^ 52 * 2 ^ (k + 1) := by rw [Nat.pow_succ]; ring
    _ ≤ m' * 2 ^ k' := Nat.mul_le_mul hlow' (Nat.pow_le_pow_right (by decide) hk)
    _ = n' * 2 ^ 52 := hvalue'

theorem lt_of_mantissa_lt (hvalue : m * 2 ^ k = n * 2 ^ 52) (hvalue' : m' * 2 ^ k = n' * 2 ^ 52)
    (hm : m < m') : n < n' := by
  refine Nat.lt_of_mul_lt_mul_right (a := 2 ^ 52) ?_
  rw [← hvalue, ← hvalue']
  exact Nat.mul_lt_mul_of_pos_right hm (Nat.two_pow_pos k)

/-- Magnitudes are in the order of their exponents and then of their mantissas, since all mantissas
have the same number of bits. -/
theorem compare_magnitude (hlow : 2 ^ 52 ≤ m) (hhigh : m < 2 ^ 53) (hlow' : 2 ^ 52 ≤ m')
    (hhigh' : m' < 2 ^ 53) (hvalue : m * 2 ^ k = n * 2 ^ 52)
    (hvalue' : m' * 2 ^ k' = n' * 2 ^ 52) :
    (compare ((k : Int) - 52) (k' - 52)).then (compare m m') = compare n n' := by
  rcases Nat.lt_trichotomy k k' with hk | rfl | hk
  · have hn := lt_of_exponent_lt hhigh hlow' hvalue hvalue' hk
    rw [Int.compare_eq_lt.2 (by omega), Nat.compare_eq_lt.2 hn]
    rfl
  · rw [Int.compare_eq_eq.2 rfl]
    rcases Nat.lt_trichotomy m m' with hm | rfl | hm
    · rw [Nat.compare_eq_lt.2 hm, Nat.compare_eq_lt.2 (lt_of_mantissa_lt hvalue hvalue' hm)]
      rfl
    · have hn : n = n' := Nat.eq_of_mul_eq_mul_right (Nat.two_pow_pos 52)
        (hvalue.symm.trans hvalue')
      rw [Nat.compare_eq_eq.2 rfl, Nat.compare_eq_eq.2 hn]
      rfl
    · rw [Nat.compare_eq_gt.2 hm, Nat.compare_eq_gt.2 (lt_of_mantissa_lt hvalue' hvalue hm)]
      rfl
  · have hn := lt_of_exponent_lt hhigh' hlow hvalue' hvalue hk
    rw [Int.compare_eq_gt.2 (by omega), Nat.compare_eq_gt.2 hn]
    rfl

end

theorem compare_natAbs_of_pos {m n : Int} (hm : 0 < m) (hn : 0 < n) :
    compare m.natAbs n.natAbs = compare m n := by
  rcases Int.lt_trichotomy m n with h | rfl | h
  · rw [Int.compare_eq_lt.2 h, Nat.compare_eq_lt.2 (by omega)]
  · rw [Int.compare_eq_eq.2 rfl, Nat.compare_eq_eq.2 rfl]
  · rw [Int.compare_eq_gt.2 h, Nat.compare_eq_gt.2 (by omega)]

theorem compare_natAbs_of_neg {m n : Int} (hm : m < 0) (hn : n < 0) :
    (compare m.natAbs n.natAbs).swap = compare m n := by
  rcases Int.lt_trichotomy m n with h | rfl | h
  · rw [Int.compare_eq_lt.2 h, Nat.compare_eq_gt.2 (by omega), Ordering.swap]
  · rw [Int.compare_eq_eq.2 rfl, Nat.compare_eq_eq.2 rfl, Ordering.swap]
  · rw [Int.compare_eq_gt.2 h, Nat.compare_eq_lt.2 (by omega), Ordering.swap]

/-- The sign of a float is that of the whole number. -/
theorem Stands.sign_cases {sign : Sign} {m k : Nat} {n : Int} (hpos : 0 < m)
    (hvalue : sign.apply m * 2 ^ k = n * 2 ^ 52) :
    (sign = .negative ∧ n < 0) ∨ (sign = .positive ∧ 0 < n) := by
  have hne := natAbs_ne_zero hvalue hpos.ne'
  have happly := apply_natAbs hvalue
  cases sign with
  | negative => exact .inl ⟨rfl, by simp only [Sign.apply] at happly; omega⟩
  | positive => exact .inr ⟨rfl, by simp only [Sign.apply] at happly; omega⟩

/-- Floats that stand for whole numbers are in the order of the whole numbers. -/
theorem Stands.compare_eq {u v : UnpackedFloat} {m n : Int} (hu : Stands u m) (hv : Stands v n) :
    u.compare v = some (compare m n) := by
  cases hu with
  | zero sign =>
    cases hv with
    | zero sign' => rfl
    | finite sign' hpos' hlow' hhigh' hvalue' =>
      obtain ⟨rfl, hn⟩ | ⟨rfl, hn⟩ := sign_cases hpos' hvalue'
      · rw [Int.compare_eq_gt.2 hn]
        rfl
      · rw [Int.compare_eq_lt.2 hn]
        rfl
  | finite sign hpos hlow hhigh hvalue =>
    obtain ⟨rfl, hm⟩ | ⟨rfl, hm⟩ := sign_cases hpos hvalue
    · cases hv with
      | zero sign' =>
        rw [Int.compare_eq_lt.2 hm]
        rfl
      | finite sign' hpos' hlow' hhigh' hvalue' =>
        obtain ⟨rfl, hn⟩ | ⟨rfl, hn⟩ := sign_cases hpos' hvalue'
        · have hmagnitude := compare_magnitude hlow hhigh hlow' hhigh' (magnitude_eq hvalue)
            (magnitude_eq hvalue')
          rw [UnpackedFloat.compare, hmagnitude, ← compare_natAbs_of_neg hm hn]
        · rw [Int.compare_eq_lt.2 (hm.trans hn)]
          rfl
    · cases hv with
      | zero sign' =>
        rw [Int.compare_eq_gt.2 hm]
        rfl
      | finite sign' hpos' hlow' hhigh' hvalue' =>
        obtain ⟨rfl, hn⟩ | ⟨rfl, hn⟩ := sign_cases hpos' hvalue'
        · rw [Int.compare_eq_gt.2 (hn.trans hm)]
          rfl
        · have hmagnitude := compare_magnitude hlow hhigh hlow' hhigh' (magnitude_eq hvalue)
            (magnitude_eq hvalue')
          rw [UnpackedFloat.compare, hmagnitude, compare_natAbs_of_pos hm hn]

end RecipeRunner.Decimal

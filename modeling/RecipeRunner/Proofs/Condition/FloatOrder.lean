import RecipeRunner.Proofs.Condition.Formula
import RecipeRunner.Proofs.Decimal.WholeFloat
/-!
# The order of floats

Of two floats that are numbers the bits decide which one is less: behind the sign come the exponent
and the mantissa, and a greater exponent outweighs every mantissa.  So the place of a float can be
read off its bits.

* `HasBits.compare_eq`: floats compare like their magnitudes, with the sign.
* `hasBits_unpack`: the fields in which the magnitude of a float is stored.
* `Number.rank_lt_rank_iff`: one float is placed before another one if it is less, or if it is the
  zero with a sign and the other one is the zero without.
* `Comparison.holds_compare_eq`: an operator is evaluated to whether it holds.
-/

namespace RecipeRunner.Condition

open Float.Model Float.Model.UnpackedFloat
open Decimal (Represents finite_congr)

open Number (hasSign rank)

/-- The bits of a float without that of its sign. -/
def magnitude (x : Float) : Nat :=
  x.toBits.toNat % 2 ^ 63

/-- The sign of a float. -/
def signOf (x : Float) : Sign :=
  if hasSign x then .negative else .positive

/-- The place of a float whose zeros are one. -/
def signed (x : Float) : Int :=
  (signOf x).apply (magnitude x)

/-- A float that is a number is stored with a sign and a magnitude. -/
inductive HasBits : UnpackedFloat → Sign → Nat → Prop where
  | zero (sign : Sign) : HasBits (.zero sign) sign 0
  | infinity (sign : Sign) : HasBits (.infinity sign) sign (2047 * 2 ^ 52)
  /-- Only the least exponent goes with mantissas that are not full. -/
  | finite (sign : Sign) {m e k : Nat} (hpos : 0 < m) (he : 1 ≤ e) (hm : m < 2 ^ 53)
      (hfull : 2 ^ 52 ≤ m ∨ e = 1) (hbits : k + 2 ^ 52 = e * 2 ^ 52 + m)
      (hfinite : k < 2047 * 2 ^ 52) : HasBits (.finite sign m (e - 1075) hpos) sign k

theorem compare_neg (m n : Int) : compare (-m) (-n) = (compare m n).swap := by
  simp only [Int.compare_eq_ite_lt, Int.neg_lt_neg_iff]
  split_ifs <;> first | rfl | omega

/-- Floats compare like their magnitudes, with the sign. -/
theorem HasBits.compare_eq {u v : UnpackedFloat} {s t : Sign} {j k : Nat} (hu : HasBits u s j)
    (hv : HasBits v t k) : u.compare v = some (compare (s.apply j) (t.apply k)) := by
  have hlt : ∀ {a b : Int}, a < b → some .lt = some (compare a b) :=
    fun h => congrArg some (Int.compare_eq_lt.2 h).symm
  have hgt : ∀ {a b : Int}, b < a → some .gt = some (compare a b) :=
    fun h => congrArg some (Int.compare_eq_gt.2 h).symm
  have hneg : ∀ n : Nat, Sign.negative.apply n = -n := fun _ => rfl
  have hpos : ∀ n : Nat, Sign.positive.apply n = n := fun _ => rfl
  cases hu with
  | zero =>
    cases hv with
    | zero | infinity => cases s <;> cases t <;> rfl
    | finite =>
      cases s <;> cases t
      any_goals exact hlt (by simp only [hneg, hpos]; omega)
      all_goals exact hgt (by simp only [hneg, hpos]; omega)
  | infinity =>
    cases hv with
    | zero | infinity => cases s <;> cases t <;> rfl
    | finite =>
      cases s <;> cases t
      any_goals exact hlt (by simp only [hneg, hpos]; omega)
      all_goals exact hgt (by simp only [hneg, hpos]; omega)
  | @finite _ m e _ _ _ _ hfull =>
    cases hv with
    | zero | infinity =>
      cases s <;> cases t
      any_goals exact hlt (by simp only [hneg, hpos]; omega)
      all_goals exact hgt (by simp only [hneg, hpos]; omega)
    | @finite _ m' e' _ _ _ _ hfull' =>
      have hlex : (compare ((e : Int) - 1075) (e' - 1075)).then (compare m m') =
          compare (j : Int) k := by
        simp only [Int.compare_eq_ite_lt, Nat.compare_eq_ite_lt]
        split_ifs <;> first | rfl | omega
      cases s <;> cases t
      · exact congrArg some ((congrArg Ordering.swap hlex).trans (compare_neg _ _).symm)
      · exact hlt (by simp only [hneg, hpos]; omega)
      · exact hgt (by simp only [hneg, hpos]; omega)
      · exact congrArg some hlex

/-! ## Fields -/

section Fields

variable (b : BitVec Format.binary64.numBits)

theorem toNat_unpackMantissa :
    (@unpackMantissa Format.binary64 b).toNat = b.toNat % 2 ^ 52 := by
  simp [unpackMantissa]

theorem toNat_unpackExponent :
    (@unpackExponent Format.binary64 b).toNat = b.toNat / 2 ^ 52 % 2 ^ 11 := by
  simp [unpackExponent, Nat.shiftRight_eq_div_pow]

theorem ofBitVec_unpackSign : Sign.ofBitVec (@unpackSign Format.binary64 b) =
    if 2 ^ 63 ≤ b.toNat then .negative else .positive := by
  have hbit : (@unpackSign Format.binary64 b).toNat = b.toNat / 2 ^ 63 % 2 := by
    simp [unpackSign, Nat.shiftRight_eq_div_pow]
  have hsize : b.toNat < 2 ^ 64 := b.isLt
  unfold Sign.ofBitVec
  simp only [← BitVec.toNat_inj, hbit]
  split_ifs <;> first | rfl | (simp_all; omega)

theorem full_iff :
    @unpackExponent Format.binary64 b = -1#11 ↔ b.toNat / 2 ^ 52 % 2 ^ 11 = 2047 := by
  rw [← toNat_unpackExponent, ← BitVec.toNat_inj]
  rfl

theorem least_iff :
    @unpackExponent Format.binary64 b = 0#11 ↔ b.toNat / 2 ^ 52 % 2 ^ 11 = 0 := by
  rw [← toNat_unpackExponent, ← BitVec.toNat_inj]
  rfl

theorem empty_iff : @unpackMantissa Format.binary64 b = 0#52 ↔ b.toNat % 2 ^ 52 = 0 := by
  rw [← toNat_unpackMantissa, ← BitVec.toNat_inj]
  rfl

theorem toNat_fullMantissa :
    (1#1 ++ @unpackMantissa Format.binary64 b).toNat = 2 ^ 52 + b.toNat % 2 ^ 52 := by
  have hless : (@unpackMantissa Format.binary64 b).toNat < 2 ^ 52 := BitVec.isLt _
  rw [BitVec.toNat_append, ← Nat.shiftLeft_add_eq_or_of_lt hless, Nat.shiftLeft_eq,
    toNat_unpackMantissa]
  rfl

end Fields

/-- The fields of bits that stand for a number. -/
theorem hasBits_unpack {b : BitVec 64}
    (h : (UnpackedFloat.unpack Format.binary64 b).isNaN = false) :
    HasBits (UnpackedFloat.unpack Format.binary64 b)
      (if 2 ^ 63 ≤ b.toNat then .negative else .positive) (b.toNat % 2 ^ 63) := by
  rw [← ofBitVec_unpackSign b]
  unfold UnpackedFloat.unpack at *
  dsimp only at h ⊢
  by_cases hexponent : @unpackExponent Format.binary64 b = -1#11
  · have hfull := (full_iff b).1 hexponent
    rw [if_pos hexponent] at h ⊢
    by_cases hmantissa : @unpackMantissa Format.binary64 b = 0#52
    · have hempty := (empty_iff b).1 hmantissa
      rw [if_pos hmantissa, show b.toNat % 2 ^ 63 = 2047 * 2 ^ 52 by omega]
      exact .infinity _
    · rw [if_neg hmantissa] at h
      cases h
  have hfull := mt (full_iff b).2 hexponent
  rw [if_neg hexponent]
  by_cases hleast : @unpackExponent Format.binary64 b = 0#11
  · have hzero := (least_iff b).1 hleast
    rw [if_pos hleast]
    by_cases hmantissa : @unpackMantissa Format.binary64 b = 0#52
    · have hempty := (empty_iff b).1 hmantissa
      rw [dif_pos hmantissa, show b.toNat % 2 ^ 63 = 0 by omega]
      exact .zero _
    · have hsome := mt (empty_iff b).2 hmantissa
      have hstored : ((@unpackExponent Format.binary64 b).toNat : Int) -
          (Format.binary64.exponentBias + Format.binary64.mantissaBitsWithoutImplicit) + 1 =
          (1 : Nat) - 1075 := by
        rw [toNat_unpackExponent, hzero]
        rfl
      rw [dif_neg hmantissa, @finite_congr _ _ _ _ _ _ (Nat.pos_of_ne_zero hsome)
        (toNat_unpackMantissa b) hstored]
      exact .finite _ _ le_rfl (by omega) (.inr rfl) (by omega) (by omega)
  · have hpos := mt (least_iff b).2 hleast
    have hstored : ((@unpackExponent Format.binary64 b).toNat : Int) -
        (Format.binary64.exponentBias + Format.binary64.mantissaBitsWithoutImplicit) =
        (b.toNat / 2 ^ 52 % 2 ^ 11 : Nat) - 1075 := by
      rw [toNat_unpackExponent]
      rfl
    rw [if_neg hleast, @finite_congr _ _ _ _ _ _ (by omega) (toNat_fullMantissa b) hstored]
    exact .finite _ _ (by omega) (by omega) (.inl (by omega)) (by omega) (by omega)

/-! ## Floats -/

section

variable {x y : Float}

theorem compare_eq_of_isNaN (hx : x.isNaN = false) (hy : y.isNaN = false) :
    x.toModel.unpack.compare y.toModel.unpack = some (compare (signed x) (signed y)) := by
  have hbits : ∀ {x : Float}, x.isNaN = false →
      HasBits x.toModel.unpack (signOf x) (magnitude x) := by
    intro x hx
    rw [signOf, hasSign]
    simp only [decide_eq_true_eq]
    exact @hasBits_unpack x.toModel.toBits.toBitVec hx
  exact (hbits hx).compare_eq (hbits hy)

theorem lt_iff_of_isNaN (hx : x.isNaN = false) (hy : y.isNaN = false) :
    x < y ↔ signed x < signed y := by
  change decide ((x.toModel.unpack.compare y.toModel.unpack == some .lt) = true) = true ↔ _
  rw [compare_eq_of_isNaN hx hy, decide_eq_true_iff, beq_iff_eq, Option.some.injEq,
    Int.compare_eq_lt]

theorem beq_iff_of_isNaN (hx : x.isNaN = false) (hy : y.isNaN = false) :
    (x == y) = true ↔ signed x = signed y := by
  change (x.toModel.unpack.compare y.toModel.unpack == some .eq) = true ↔ _
  rw [compare_eq_of_isNaN hx hy, beq_iff_eq, Option.some.injEq, Int.compare_eq_eq]

theorem Number.rank_eq (x : Float) :
    rank x = if hasSign x then -(magnitude x : Int) - 1 else magnitude x := by
  have hbits : x.toBits.toNat < 2 ^ 64 := x.toBits.toBitVec.isLt
  have hhalf : Decimal.twoTo 63 = 2 ^ 63 := rfl
  simp only [rank, hasSign, magnitude, hhalf, decide_eq_true_eq]
  split_ifs <;> omega

/-- A float is placed before another one if it is less, or if it is the zero with a sign and the
other one is the zero without. -/
theorem Number.rank_lt_rank_iff (hx : x.isNaN = false) (hy : y.isNaN = false) :
    rank x < rank y ↔
      x < y ∨ (x == y) = true ∧ hasSign x = true ∧ hasSign y = false := by
  rw [lt_iff_of_isNaN hx hy, beq_iff_of_isNaN hx hy, rank_eq, rank_eq, signed, signed, signOf,
    signOf]
  cases hasSign x <;> cases hasSign y <;> simp [Sign.apply] <;> omega

theorem isNaN_of_isFinite (h : x.isFinite = true) : x.isNaN = false := by
  change x.toModel.unpack.isFinite = true at h
  change x.toModel.unpack.isNaN = false
  cases hunpack : x.toModel.unpack with
  | notANumber =>
    rw [hunpack] at h
    cases h
  | _ => rfl

/-- A float that stands for a whole number is a number. -/
theorem isNaN_of_represents {n : Int} (h : Represents x n) : x.isNaN = false := by
  obtain ⟨hstands, hn⟩ := h
  change (Float.Model.pack _).unpack.isNaN = false
  rw [hstands.unpack_pack hn]
  cases hstands with
  | zero | finite => rfl

end

/-! ## Numbers -/

namespace Number

variable {x y : Number}

theorem below_iff (hx : x.toFloat.isNaN = false) (hy : y.toFloat.isNaN = false) :
    x.Below y ↔ x.compare y = .lt := by
  cases x with
  | int m =>
    cases y with
    | int n => exact Int.compare_eq_lt.symm
    | float y => exact (rank_lt_rank_iff hx hy).symm.trans Int.compare_eq_lt.symm
  | float x => exact (rank_lt_rank_iff hx hy).symm.trans Int.compare_eq_lt.symm

theorem compare_swap (x y : Number) : (x.compare y).swap = y.compare x := by
  cases x with
  | int m =>
    cases y with
    | int n => exact Std.OrientedOrd.eq_swap.symm
    | float y => exact Std.OrientedOrd.eq_swap.symm
  | float x =>
    cases y with
    | int n => exact Std.OrientedOrd.eq_swap.symm
    | float y => exact Std.OrientedOrd.eq_swap.symm

end Number

open Classical in
/-- An operator is evaluated to whether it holds. -/
theorem Comparison.holds_compare_eq (op : Comparison) {x y : Number}
    (hx : x.toFloat.isNaN = false) (hy : y.toFloat.isNaN = false) :
    op.holds (x.compare y) = decide (op.Relates x y) := by
  have hbelow := Number.below_iff hx hy
  have habove := Number.below_iff hy hx
  rw [← Number.compare_swap] at habove
  cases op <;> simp only [Relates, hbelow, habove, holds] <;> cases x.compare y <;> simp

end RecipeRunner.Condition

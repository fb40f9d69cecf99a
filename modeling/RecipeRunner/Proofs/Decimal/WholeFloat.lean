import RecipeRunner.Proofs.Decimal.Unpacked
import RecipeRunner.Value
/-!
# Whole floats

Floats that stand for whole numbers.  What is computed with them is the whole number rounded, and a
computed number that fits a variable becomes an integer again.

* `Stands.unpack_pack`: a whole float is read back from its bits.
* `represents_ofInt`: the float of an integer.
* `Represents.ofFloat_eq`: the value of a computed number.
-/

namespace RecipeRunner.Decimal

open Float.Model Float.Model.UnpackedFloat

/-! ## Bits -/

/-- Sign, exponent and mantissa side by side. -/
theorem toNat_packComponents (sign : Sign) (e : BitVec 11) (m : BitVec 52) :
    (packComponents Format.binary64 sign e m).toNat =
      sign.toBitVec.toNat * 2 ^ 63 + e.toNat * 2 ^ 52 + m.toNat := by
  have hm : m.toNat < 2 ^ 52 := m.isLt
  have he : e.toNat < 2 ^ 11 := e.isLt
  rw [packComponents, BitVec.toNat_append, BitVec.toNat_append,
    ← Nat.shiftLeft_add_eq_or_of_lt hm, ← Nat.shiftLeft_add_eq_or_of_lt he, Nat.shiftLeft_eq,
    Nat.shiftLeft_eq]
  ring

/-- The fields of a whole float. -/
theorem pack_finite (sign : Sign) {m k : Nat} (hpos : 0 < m) (hlow : 2 ^ 52 ≤ m)
    (hhigh : m < 2 ^ 53) (hk : k < 1024) :
    UnpackedFloat.pack Format.binary64 (.finite sign m (k - 52) hpos) =
      packComponents Format.binary64 sign (BitVec.ofNat 11 (k + 1023)) (BitVec.ofNat 52 m) := by
  have hlog : m.log2 + 1 = Format.binary64.mantissaBits := by
    rw [(Nat.log2_eq_iff hpos.ne').2 ⟨hlow, hhigh⟩]
    rfl
  have hbiased : ((k : Int) - 52 + Format.binary64.exponentBias +
      Format.binary64.mantissaBitsWithoutImplicit).toNat = k + 1023 := by
    simp only [Format.exponentBias]
    omega
  have hfits : ¬ 2 ^ Format.binary64.exponentBits ≤ k + 1023 + 1 := by
    simp only
    omega
  rw [UnpackedFloat.pack]
  dsimp only
  rw [hbiased, if_neg hfits, if_pos hlog]

theorem finite_congr {sign : Sign} {m m' : Nat} {e e' : Int} {hpos : 0 < m} {hpos' : 0 < m'}
    (hm : m = m') (he : e = e') :
    UnpackedFloat.finite sign m e hpos = .finite sign m' e' hpos' := by
  subst hm he
  rfl

theorem unpack_pack_finite (sign : Sign) {m k : Nat} (hpos : 0 < m) (hlow : 2 ^ 52 ≤ m)
    (hhigh : m < 2 ^ 53) (hk : k < 1024) :
    UnpackedFloat.unpack Format.binary64 (UnpackedFloat.pack Format.binary64
      (.finite sign m (k - 52) hpos)) = .finite sign m (k - 52) hpos := by
  have hexponent : (BitVec.ofNat 11 (k + 1023)).toNat = k + 1023 := by
    rw [BitVec.toNat_ofNat]
    omega
  have hmantissa : (1#1 ++ BitVec.ofNat 52 m).toNat = m := by
    have hlower : (BitVec.ofNat 52 m).toNat = m - 2 ^ 52 := by
      rw [BitVec.toNat_ofNat]
      omega
    have hless : m - 2 ^ 52 < 2 ^ 52 := by omega
    rw [BitVec.toNat_append, hlower, ← Nat.shiftLeft_add_eq_or_of_lt hless, Nat.shiftLeft_eq]
    change 1 * 2 ^ 52 + (m - 2 ^ 52) = m
    omega
  have hnotFull : BitVec.ofNat 11 (k + 1023) ≠ -1#11 := by
    intro h
    have := congrArg BitVec.toNat h
    rw [hexponent] at this
    simp only [BitVec.reduceNeg, BitVec.toNat_ofNat] at this
    omega
  have hnotZero : BitVec.ofNat 11 (k + 1023) ≠ 0#11 := by
    intro h
    have := congrArg BitVec.toNat h
    rw [hexponent] at this
    simp only [BitVec.toNat_ofNat] at this
    omega
  rw [pack_finite sign hpos hlow hhigh hk, UnpackedFloat.unpack]
  dsimp only
  simp only [unpackMantissa_packComponents, unpackExponent_packComponents]
  rw [if_neg hnotFull, if_neg hnotZero, unpackSign_packComponents, Sign.ofBitVec_toBitVec]
  refine finite_congr hmantissa ?_
  rw [hexponent]
  simp only [Format.exponentBias]
  omega

theorem exponent_lt {sign : Sign} {m k : Nat} {n : Int} (hlow : 2 ^ 52 ≤ m)
    (hvalue : sign.apply m * 2 ^ k = n * 2 ^ 52) (hn : n.natAbs ≤ 2 ^ 128) : k < 1024 := by
  have hpow : 2 ^ k ≤ n.natAbs := by
    refine Nat.le_of_mul_le_mul_right ?_ (Nat.two_pow_pos 52)
    rw [← magnitude_eq hvalue, Nat.mul_comm]
    exact Nat.mul_le_mul_right _ hlow
  have hk : k ≤ 128 := (Nat.pow_le_pow_iff_right (by decide)).1 (hpow.trans hn)
  omega

theorem Stands.unpack_pack {u : UnpackedFloat} {n : Int} (h : Stands u n)
    (hn : n.natAbs ≤ 2 ^ 128) : (Float.Model.pack u).unpack = u := by
  cases h with
  | zero sign => cases sign <;> rfl
  | @finite sign m k n hpos hlow hhigh hvalue =>
    exact unpack_pack_finite sign hpos hlow hhigh (exponent_lt hlow hvalue hn)

/-! ## Floats -/

/-- A float stands for a whole number, small enough for sums and products not to overflow. -/
inductive Represents : Float → Int → Prop where
  | mk {u : UnpackedFloat} {n : Int} (h : Stands u n) (hn : n.natAbs ≤ 2 ^ 128) :
    Represents (.ofModel (.pack u)) n

namespace Represents

variable {x y : Float} {m n : Int}

theorem of_rounded {u : UnpackedFloat} (h : Stands u (rounded n)) (hn : n.natAbs ≤ 2 ^ 128) :
    Represents (.ofModel (.pack u)) (rounded n) :=
  .mk h (natAbs_rounded_le hn)

protected theorem add (hx : Represents x m) (hy : Represents y n)
    (h : (m + n).natAbs ≤ 2 ^ 128) : Represents (x + y) (rounded (m + n)) := by
  obtain ⟨hu, hm⟩ := hx
  obtain ⟨hv, hn⟩ := hy
  have hsum := hu.add hv
  rw [← hu.unpack_pack hm, ← hv.unpack_pack hn] at hsum
  exact of_rounded hsum h

protected theorem sub (hx : Represents x m) (hy : Represents y n)
    (h : (m - n).natAbs ≤ 2 ^ 128) : Represents (x - y) (rounded (m - n)) := by
  obtain ⟨hu, hm⟩ := hx
  obtain ⟨hv, hn⟩ := hy
  have hdifference := hu.sub hv
  rw [← hu.unpack_pack hm, ← hv.unpack_pack hn] at hdifference
  exact of_rounded hdifference h

protected theorem mul (hx : Represents x m) (hy : Represents y n)
    (h : (m * n).natAbs ≤ 2 ^ 128) : Represents (x * y) (rounded (m * n)) := by
  obtain ⟨hu, hm⟩ := hx
  obtain ⟨hv, hn⟩ := hy
  have hproduct := hu.mul hv
  rw [← hu.unpack_pack hm, ← hv.unpack_pack hn] at hproduct
  exact of_rounded hproduct h

protected theorem neg (hx : Represents x n) : Represents x.neg (-n) := by
  obtain ⟨hu, hn⟩ := hx
  have hneg := hu.neg
  rw [← hu.unpack_pack hn] at hneg
  exact .mk hneg (by rwa [Int.natAbs_neg])

protected theorem abs (hx : Represents x n) : Represents x.abs n.natAbs := by
  obtain ⟨hu, hn⟩ := hx
  have habs := hu.abs
  rw [← hu.unpack_pack hn] at habs
  exact .mk habs (by rwa [Int.natAbs_natCast])

theorem compare_eq (hx : Represents x m) (hy : Represents y n) :
    x.toModel.unpack.compare y.toModel.unpack = some (compare m n) := by
  obtain ⟨hu, hm⟩ := hx
  obtain ⟨hv, hn⟩ := hy
  have hcompare := hu.compare_eq hv
  rwa [← hu.unpack_pack hm, ← hv.unpack_pack hn] at hcompare

theorem lt_iff (hx : Represents x m) (hy : Represents y n) : x < y ↔ m < n := by
  change decide ((x.toModel.unpack.compare y.toModel.unpack == some .lt) = true) = true ↔ _
  rw [hx.compare_eq hy, decide_eq_true_iff, beq_iff_eq, Option.some.injEq, Int.compare_eq_lt]

theorem le_iff (hx : Represents x m) (hy : Represents y n) : x ≤ y ↔ m ≤ n := by
  change decide ((x.toModel.unpack.compare y.toModel.unpack).any (·.isLE) = true) = true ↔ _
  rw [hx.compare_eq hy, decide_eq_true_iff, Option.any_some, Int.isLE_compare]

theorem beq_eq (hx : Represents x m) (hy : Represents y n) : (x == y) = decide (m = n) := by
  change (x.toModel.unpack.compare y.toModel.unpack == some .eq) = _
  rw [hx.compare_eq hy, Bool.eq_iff_iff, beq_iff_eq, Option.some.injEq, Int.compare_eq_eq,
    decide_eq_true_iff]

end Represents

/-! ## Integers as floats -/

theorem represents_one : Represents (Float.ofBits 0x3FF0000000000000) 1 := by
  have hone : Float.ofBits 0x3FF0000000000000 =
      .ofModel (.pack (.finite .positive (2 ^ 52) ((0 : Nat) - 52) (by decide))) := by
    decide
  rw [hone]
  exact .mk (.finite .positive (by decide) (by decide) (by decide) (by decide)) (by decide)

theorem represents_toFloat {n : UInt64} : Represents n.toFloat (rounded n.toNat) := by
  have hstands := stands_normalize .positive (m := n.toNat) (n := n.toNat) (e := 0) (j := 0)
    (l := 0) rfl rfl
  refine Represents.of_rounded hstands ?_
  have hless := n.toNat_lt
  omega

/-- Numbers that a float does not hold exactly are read like decimals without places. -/
theorem stands_ofScientific {n : Nat} (hn : n ≠ 0) :
    Stands (UnpackedFloat.ofScientific Format.binary64 n 0) (rounded n) := by
  have hfits : ¬ (0 : Int) < -((2 ^ Format.binary64.exponentBits : Int) + n.log2) := by
    simp only
    omega
  have hlog : ((n <<< Format.binary64.mantissaBits) * 10 ^ (0 : Int).toNat).log2 =
      52 + (n.log2 + 1) := by
    have hbits : Format.binary64.mantissaBits = 53 := rfl
    rw [Int.toNat_zero, Nat.pow_zero, Nat.mul_one, hbits, Nat.shiftLeft_eq, log2_mul_two_pow hn]
    omega
  have hvalue : (Sign.positive * Sign.positive).apply
      ((n <<< Format.binary64.mantissaBits) * 10 ^ (0 : Int).toNat : Nat) * 2 ^ 0 = n * 2 ^ 53 := by
    have hbits : Format.binary64.mantissaBits = 53 := rfl
    have hsign : Sign.positive * Sign.positive = Sign.positive := rfl
    rw [Int.toNat_zero, Nat.pow_zero, Nat.mul_one, hbits, Nat.shiftLeft_eq, hsign,
      apply_mul_two_pow, Int.pow_zero, Int.mul_one]
    rfl
  rw [UnpackedFloat.ofScientific, dif_neg hn, if_neg (by decide), if_neg hfits,
    if_pos (Int.le_refl 0), UnpackedFloat.mul]
  refine stands_roundWithAccuracy hlog hvalue ?_
  decide

theorem represents_ofNat {n : Nat} (hn : n ≤ 2 ^ 128) :
    Represents (Float.ofNat n) (rounded n) := by
  change Represents (Float.ofScientific n false 0) _
  rw [Float.ofScientific]
  split
  · next hsmall =>
    have htoNat : n.toUInt64.toNat = n := by
      rw [Nat.toUInt64, UInt64.toNat_ofNat']
      omega
    have hfloat := represents_toFloat (n := n.toUInt64)
    have hshort : Short n := ⟨n, 0, by simp, hsmall.1⟩
    rw [htoNat, hshort.rounded_eq] at hfloat
    have hproduct := hfloat.mul represents_one (by simpa using hn)
    rw [Int.mul_one] at hproduct
    exact hproduct
  · next hlarge =>
    have hne : n ≠ 0 := by
      rintro rfl
      exact hlarge (by decide)
    exact .of_rounded (stands_ofScientific hne) (by simpa using hn)

theorem represents_ofInt {n : Int} (hn : n.natAbs ≤ 2 ^ 128) :
    Represents (Float.ofInt n) (rounded n) := by
  cases n with
  | ofNat n => exact represents_ofNat hn
  | negSucc n =>
    have hneg := (represents_ofNat (n := n + 1) hn).neg
    rwa [← rounded_neg] at hneg

theorem twoTo_eq (n : Nat) : twoTo n = 2 ^ n := rfl

theorem natAbs_le_of_fits {n : Int} (h : fits n = true) : n.natAbs ≤ 2 ^ 63 := by
  rw [fits, Bool.and_eq_true, decide_eq_true_iff, decide_eq_true_iff] at h
  obtain ⟨hleast, hgreatest⟩ := h
  rw [leastInteger, twoTo_eq] at hleast
  rw [greatestInteger, twoTo_eq] at hgreatest
  omega

theorem represents_of_fits {n : Int} (h : fits n = true) :
    Represents (Float.ofInt n) (rounded n) :=
  represents_ofInt ((natAbs_le_of_fits h).trans (by decide))

/-! ## Values of floats -/

theorem content_zero (sign : Sign) :
    content (.ofModel (.pack (.zero sign))) = .finite (sign == .negative) 0 (-1074) := by
  cases sign <;> decide

/-- The fields of a whole float are read back. -/
theorem content_finite (sign : Sign) {m k : Nat} (hpos : 0 < m) (hlow : 2 ^ 52 ≤ m)
    (hhigh : m < 2 ^ 53) (hk : k < 1024) :
    content (.ofModel (.pack (.finite sign m (k - 52) hpos))) =
      .finite (sign == .negative) m (k - 52) := by
  have hbits : (Float.ofModel (.pack (.finite sign m (k - 52) hpos))).toBits.toNat =
      sign.toBitVec.toNat * 2 ^ 63 + (k + 1023) * 2 ^ 52 + (m - 2 ^ 52) := by
    change (UnpackedFloat.pack Format.binary64 (.finite sign m (k - 52) hpos)).toNat = _
    rw [pack_finite sign hpos hlow hhigh hk, toNat_packComponents, BitVec.toNat_ofNat,
      BitVec.toNat_ofNat]
    omega
  have hs : sign.toBitVec.toNat < 2 := sign.toBitVec.isLt
  have hexponent : (sign.toBitVec.toNat * 2 ^ 63 + (k + 1023) * 2 ^ 52 + (m - 2 ^ 52)) / 2 ^ 52 %
      2 ^ 11 = k + 1023 := by omega
  have hfraction : (sign.toBitVec.toNat * 2 ^ 63 + (k + 1023) * 2 ^ 52 + (m - 2 ^ 52)) % 2 ^ 52 =
      m - 2 ^ 52 := by omega
  have hnegative : decide (2 ^ 63 ≤ sign.toBitVec.toNat * 2 ^ 63 + (k + 1023) * 2 ^ 52 +
      (m - 2 ^ 52)) = (sign == .negative) := by
    cases sign with
    | negative =>
      refine decide_eq_true ?_
      change 2 ^ 63 ≤ 1 * 2 ^ 63 + (k + 1023) * 2 ^ 52 + (m - 2 ^ 52)
      omega
    | positive =>
      refine decide_eq_false ?_
      change ¬ 2 ^ 63 ≤ 0 * 2 ^ 63 + (k + 1023) * 2 ^ 52 + (m - 2 ^ 52)
      omega
  unfold content
  dsimp only
  have hmantissa : 2 ^ 52 + (m - 2 ^ 52) = m := by omega
  have hscale : ((k + 1023 : Nat) : Int) - 1075 = k - 52 := by omega
  rw [hbits, twoTo_eq, twoTo_eq, twoTo_eq, hexponent, hfraction, hnegative, if_neg (by omega),
    if_neg (by omega), hmantissa, hscale]

theorem wholePart_zero (q : Int) : isWholeBinary 0 q = true ∧ wholePart 0 q = 0 := by
  simp [isWholeBinary, wholePart]

/-- A mantissa and an exponent that stand for a natural number. -/
theorem wholePart_eq {m k n : Nat} (h : m * 2 ^ k = n * 2 ^ 52) :
    isWholeBinary m (k - 52) = true ∧ wholePart m (k - 52) = n := by
  rcases Nat.lt_or_ge k 52 with hk | hk
  · obtain ⟨s, hs⟩ := Nat.exists_eq_add_of_le (Nat.le_of_lt hk)
    have hm : m = n * 2 ^ s := by
      refine Nat.eq_of_mul_eq_mul_right (Nat.two_pow_pos k) ?_
      rw [h, hs, Nat.pow_add, Nat.mul_assoc, Nat.mul_comm (2 ^ s)]
    have hscale : (-((k : Int) - 52)).toNat = s := by omega
    have hnegative : ¬ 0 ≤ (k : Int) - 52 := by omega
    refine ⟨?_, ?_⟩
    · rw [isWholeBinary, hscale, twoTo_eq, hm, Nat.mul_mod_left]
      simp
    · rw [wholePart, if_neg hnegative, hscale, twoTo_eq, hm,
        Nat.mul_div_cancel _ (Nat.two_pow_pos s)]
  · obtain ⟨s, rfl⟩ := Nat.exists_eq_add_of_le hk
    have hn : m * 2 ^ s = n := by
      refine Nat.eq_of_mul_eq_mul_right (Nat.two_pow_pos 52) ?_
      rw [← h, Nat.pow_add, Nat.mul_assoc, Nat.mul_comm (2 ^ s)]
    simp [isWholeBinary, wholePart, twoTo_eq, hn]

theorem withSign_eq (sign : Sign) (n : Nat) : withSign (sign == .negative) n = sign.apply n := by
  cases sign <;> rfl

namespace Represents

variable {x : Float} {n : Int}

theorem content_eq (h : Represents x n) : ∃ negative m q, content x = .finite negative m q ∧
    isWholeBinary m q = true ∧ withSign negative (wholePart m q) = n := by
  obtain ⟨hu, hn⟩ := h
  cases hu with
  | zero sign =>
    obtain ⟨hwhole, hpart⟩ := wholePart_zero (-1074)
    refine ⟨_, _, _, content_zero sign, hwhole, ?_⟩
    rw [hpart, withSign_eq]
    cases sign <;> rfl
  | @finite sign m k n hpos hlow hhigh hvalue =>
    have hk := exponent_lt hlow hvalue hn
    obtain ⟨hwhole, hpart⟩ := wholePart_eq (magnitude_eq hvalue)
    refine ⟨_, _, _, content_finite sign hpos hlow hhigh hk, hwhole, ?_⟩
    rw [hpart, withSign_eq, apply_natAbs hvalue]

theorem isWhole_eq (h : Represents x n) : isWhole x = true := by
  obtain ⟨negative, m, q, hcontent, hwhole, -⟩ := h.content_eq
  rw [isWhole, hcontent]
  exact hwhole

theorem truncate?_eq (h : Represents x n) : truncate? x = some n := by
  obtain ⟨negative, m, q, hcontent, -, hpart⟩ := h.content_eq
  rw [truncate?, hcontent]
  exact congrArg some hpart

end Represents

theorem represents_range : Represents (9223372036854775808.0 : Float) (2 ^ 63) := by
  have hrange : (9223372036854775808.0 : Float) =
      .ofModel (.pack (.finite .positive (2 ^ 52) ((63 : Nat) - 52) (by decide))) := by
    decide
  rw [hrange]
  exact .mk (.finite .positive (by decide) (by decide) (by decide) (by decide)) (by decide)

/-- A computed number is an integer again where it fits a variable. -/
theorem Represents.ofFloat_eq {x : Float} {n : Int} (h : Represents x n) :
    Value.ofFloat x = if n.natAbs < 2 ^ 63 then .int n else .float x := by
  have hrange : x.abs < 9223372036854775808.0 ↔ n.natAbs < 2 ^ 63 := by
    rw [h.abs.lt_iff represents_range]
    omega
  rw [Value.ofFloat, h.isWhole_eq, h.truncate?_eq, Bool.true_and]
  simp only [decide_eq_true_eq, hrange]

end RecipeRunner.Decimal

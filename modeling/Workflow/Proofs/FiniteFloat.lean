import Mathlib
import Workflow.Decimal.Read

/-!
# 有限の double

ビット列から作った double が有限であることを、指数欄から読む（`isFiniteFloat_ofBits`）。
`Float.ofBits` はビット列を一度読んで詰め直すので、指数欄がすべて 1 でなければ、詰め直した
ビット列の指数欄もすべて 1 にはならないことを示す。

これを使って、`2^64` 未満の自然数に最も近い double が有限であること
（`isFiniteFloat_natToFloat`）を示す。JSON の整数のうち 64 ビット符号つき整数に収まらないものは
double として読まれるので、その値が `null` に化けないことがここから言える。
-/

open Float.Model Float.Model.UnpackedFloat

namespace Workflow.Decimal

/-- binary64 の指数欄は、ビット列を `2^52` で割った下位 11 ビットである。 -/
theorem unpackExponent_toNat (x : BitVec 64) :
    (@unpackExponent Format.binary64 x).toNat = x.toNat / 2 ^ 52 % 2048 := by
  simp [unpackExponent, Nat.shiftRight_eq_div_pow]

/-- 指数欄がすべて 1 でないビット列は、読んで詰め直しても指数欄がすべて 1 にならない。 -/
theorem unpackExponent_pack_unpack_ne (x : BitVec 64) (h : @unpackExponent Format.binary64 x ≠ -1#11) :
    @unpackExponent Format.binary64
      (UnpackedFloat.pack Format.binary64 (UnpackedFloat.unpack Format.binary64 x)) ≠ -1#11 := by
  have hE : (@unpackExponent Format.binary64 x).toNat < 2047 := by
    have h1 := (@unpackExponent Format.binary64 x).isLt
    have h2 : (@unpackExponent Format.binary64 x).toNat ≠ 2047 := fun he =>
      h (BitVec.eq_of_toNat_eq (by simp [he]))
    simp only [Format.binary64] at h1
    omega
  have hb : Format.binary64.exponentBias = 1023 := rfl
  unfold UnpackedFloat.unpack
  simp only [if_neg h]
  split
  · next h0 =>
    -- 非正規数と 0：指数欄は 0 で、詰め直しても 0 か 1 にしかならない
    have hE0 : (@unpackExponent Format.binary64 x).toNat = 0 := by rw [h0]; rfl
    split
    · simp [UnpackedFloat.pack, packedZero]
    · unfold UnpackedFloat.pack
      dsimp only
      rw [hb, if_neg (by norm_num; omega)]
      split
      · simp only [unpackExponent_packComponents]
        intro heq
        have := congrArg BitVec.toNat heq
        norm_num at this
        omega
      · simp only [unpackExponent_packComponents]
        intro heq
        have := congrArg BitVec.toNat heq
        norm_num at this
  · unfold UnpackedFloat.pack
    dsimp only
    rw [hb, if_neg (by norm_num; omega)]
    split
    · simp only [unpackExponent_packComponents]
      intro heq
      have := congrArg BitVec.toNat heq
      norm_num at this
      omega
    · simp only [unpackExponent_packComponents]
      intro heq
      have := congrArg BitVec.toNat heq
      norm_num at this

/-- 指数欄がすべて 1 でないビット列から作った double は有限である。 -/
theorem isFiniteFloat_ofBits (b : UInt64) (h : b.toNat / 2 ^ 52 % 2048 < 2047) :
    isFiniteFloat (Float.ofBits b) = true := by
  have hne : @unpackExponent Format.binary64 b.toBitVec ≠ -1#11 := by
    intro heq
    have := congrArg BitVec.toNat heq
    rw [unpackExponent_toNat] at this
    simp at this
    omega
  have hbits : (Float.ofBits b).toBits.toBitVec =
      UnpackedFloat.pack Format.binary64 (UnpackedFloat.unpack Format.binary64 b.toBitVec) := rfl
  have hfield : (Float.ofBits b).toBits.toNat / 2 ^ 52 % 2048 ≠ 2047 := by
    intro heq
    apply unpackExponent_pack_unpack_ne _ hne
    apply BitVec.eq_of_toNat_eq
    rw [unpackExponent_toNat, ← hbits]
    simpa using heq
  unfold isFiniteFloat FloatParts.of FloatParts.ofBits
  simp only [Nat.pow_eq, beq_iff_eq, hfield, if_false]
  split_ifs <;> rfl

/-- 仮数が 53 ビットに収まり、指数が無限大の手前なら、組み立てたビット列の指数欄はすべて 1 ではない。 -/
theorem bitsOfParts_field_lt (mant : Nat) (exp : Int) (hm : mant < 2 ^ 53) (he : exp + 1075 < 2047) :
    (bitsOfParts false mant exp).toNat / 2 ^ 52 % 2048 < 2047 := by
  unfold bitsOfParts
  simp only [Bool.false_eq_true, if_false, Nat.pow_eq, Nat.zero_add]
  split
  · rw [UInt64.toNat_ofNat']
    omega
  · rw [if_neg (by omega), UInt64.toNat_ofNat']
    omega

/-- 分母が 1 のとき、`floorLog2Ratio` は `Nat.log2` である。 -/
theorem floorLog2Ratio_one {n : Nat} (hn : n ≠ 0) : floorLog2Ratio n 1 = n.log2 := by
  have h1 : Nat.log2 1 = 0 := Nat.lt_one_iff.mp ((Nat.log2_lt one_ne_zero).mpr (by norm_num))
  simp [floorLog2Ratio, h1, Nat.log2_self_le hn]

/-- 最近接偶数丸めは、切り捨てより高々 1 大きい。 -/
theorem roundHalfEven_le (num den : Nat) : roundHalfEven num den ≤ num / den + 1 := by
  unfold roundHalfEven
  dsimp only
  split_ifs <;> omega

/-- `2^64` 未満の自然数に最も近い double は有限である。 -/
theorem isFiniteFloat_natToFloat {n : Nat} (h : n < 2 ^ 64) : isFiniteFloat (Decimal.natToFloat n) = true := by
  unfold Decimal.natToFloat Decimal.toFloat
  split
  · exact isFiniteFloat_ofBits _ (bitsOfParts_field_lt 0 (-1074) (by norm_num) (by norm_num))
  · next hn =>
    have hn : n ≠ 0 := by simpa using hn
    have hw : (Nat.toDigits 10 n).length ≤ 20 :=
      (Nat.length_toDigits_le_iff (by norm_num) (by norm_num)).mpr (by omega)
    rw [if_neg (by omega), if_neg (by omega)]
    apply isFiniteFloat_ofBits
    have hlg : n.log2 < 64 := (Nat.log2_lt hn).mpr h
    have hup := @Nat.lt_log2_self n
    unfold bitsOfRatio
    simp only [floorLog2Ratio_one hn, Nat.pow_eq, Int.toNat_zero, Int.neg_zero, pow_zero, mul_one, one_mul]
    set L := n.log2
    -- 53 ビットの仮数をとる指数は L - 52 で、非正規数の下限には届かない
    rw [max_eq_left (by omega : (-1074 : Int) ≤ L - 52)]
    have hq : roundHalfEven (n * 2 ^ (-((L : Int) - 52)).toNat) (2 ^ ((L : Int) - 52).toNat) ≤ 2 ^ 53 := by
      refine (roundHalfEven_le _ _).trans ?_
      have hlt : n * 2 ^ (-((L : Int) - 52)).toNat < 2 ^ 53 * 2 ^ ((L : Int) - 52).toNat := by
        rcases le_or_gt 52 L with hge | hlt
        · rw [show (-((L : Int) - 52)).toNat = 0 by omega, show ((L : Int) - 52).toNat = L - 52 by omega,
            pow_zero, mul_one, ← pow_add]
          calc n < 2 ^ (L + 1) := hup
            _ ≤ 2 ^ (53 + (L - 52)) := Nat.pow_le_pow_right (by norm_num) (by omega)
        · rw [show (-((L : Int) - 52)).toNat = 52 - L by omega, show ((L : Int) - 52).toNat = 0 by omega,
            pow_zero, mul_one]
          calc n * 2 ^ (52 - L) < 2 ^ (L + 1) * 2 ^ (52 - L) := Nat.mul_lt_mul_of_pos_right hup (by positivity)
            _ = 2 ^ 53 := by rw [← pow_add]; congr 1; omega
      have := (Nat.div_lt_iff_lt_mul (by positivity)).mpr hlt
      omega
    split
    · exact bitsOfParts_field_lt _ _ (by norm_num) (by omega)
    · next hne =>
      simp only [beq_iff_eq] at hne
      exact bitsOfParts_field_lt _ _ (by omega) (by omega)

end Workflow.Decimal

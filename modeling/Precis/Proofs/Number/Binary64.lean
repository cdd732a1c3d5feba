import Mathlib.Algebra.Order.Field.Power
import Mathlib.Algebra.Order.Field.Rat
import Mathlib.Data.Rat.Cast.Order

/-!
Whole numbers as floats of 64 bits. A float keeps 53 bits of a number, so a whole number that has no
more is moved up until it has that many, which rounding leaves alone, and the exponent takes the
move back. It is converted as a word of 64 bits and multiplied by the power of ten behind it, which
is one.
-/

namespace Precis.Binary64

open Float.Model (Format UnpackedFloat totalExponent)
open Float.Model.UnpackedFloat (ExtendedMantissa Sign packComponents roundWithAccuracy
  shiftToTargetExponent)

/-- The number that a finite float stands for. -/
def value? (x : Float) : Option ℚ :=
  match x.toModel.unpack with
  | .zero _ => some 0
  | .finite s m e _ => some (s.apply m * 2 ^ e)
  | .infinity _ | .notANumber => none

/-- A significand with all of its bits. -/
structure IsFull (m : Nat) : Prop where
  le : 2 ^ 52 ≤ m
  lt : m < 2 ^ 53

variable {m n : Nat} {e : Int}

theorem IsFull.pos (h : IsFull m) : 0 < m :=
  Nat.lt_of_lt_of_le (Nat.two_pow_pos 52) h.le

theorem IsFull.log2_mul (h : IsFull m) (k : Nat) : (m * 2 ^ k).log2 = 52 + k := by
  have hpos : 0 < m * 2 ^ k := Nat.mul_pos h.pos (Nat.two_pow_pos k)
  refine (Nat.log2_eq_iff hpos.ne').2 ⟨?_, ?_⟩
  · rw [Nat.pow_add]
    exact Nat.mul_le_mul_right _ h.le
  · rw [Nat.add_right_comm, Nat.pow_add]
    exact Nat.mul_lt_mul_of_pos_right h.lt (Nat.two_pow_pos k)

theorem log2_le (hpos : 0 < n) (hlt : n < 2 ^ 53) : n.log2 ≤ 52 :=
  Nat.lt_succ_iff.1 ((Nat.log2_lt hpos.ne').2 hlt)

theorem isFull_mul_two_pow (hpos : 0 < n) (hlt : n < 2 ^ 53) : IsFull (n * 2 ^ (52 - n.log2)) := by
  have hlog := log2_le hpos hlt
  have hup : n.log2 + 1 + (52 - n.log2) = 53 := by omega
  obtain ⟨hlow, hhigh⟩ := (Nat.log2_eq_iff hpos.ne').1 rfl
  constructor
  · calc 2 ^ 52 = 2 ^ n.log2 * 2 ^ (52 - n.log2) := by rw [← Nat.pow_add, Nat.add_sub_cancel' hlog]
      _ ≤ n * 2 ^ (52 - n.log2) := Nat.mul_le_mul_right _ hlow
  · calc n * 2 ^ (52 - n.log2) < 2 ^ (n.log2 + 1) * 2 ^ (52 - n.log2) :=
          Nat.mul_lt_mul_of_pos_right hhigh (Nat.two_pow_pos _)
      _ = 2 ^ 53 := by rw [← Nat.pow_add, hup]

/-! ## Rounding -/

theorem targetExponent_eq (n : Nat) (e : Int) :
    Format.binary64.targetExponent (totalExponent n e) = max (n.log2 + 1 + e - 53) (-1074) :=
  rfl

theorem shiftRight_mul_two_pow (m k : Nat) :
    ExtendedMantissa.mk (m * 2 ^ k) false false >>> k = ⟨m, false, false⟩ := by
  change Nat.repeat ExtendedMantissa.shiftRightOne k _ = _
  induction k generalizing m with
  | zero => simp [Nat.repeat]
  | succ k ih =>
      have hdouble : m * 2 ^ (k + 1) = 2 * m * 2 ^ k := by
        rw [Nat.pow_succ]
        ac_rfl
      rw [Nat.repeat, hdouble, ih]
      simp [ExtendedMantissa.shiftRightOne]

/-- Zeros behind a full significand are shifted out. -/
theorem IsFull.shiftToTargetExponent_eq (h : IsFull m) (k : Nat) (he : -1074 ≤ e) :
    shiftToTargetExponent .binary64 (m * 2 ^ k) (e - k) .exact = (⟨m, false, false⟩, e) := by
  have htarget : Format.binary64.targetExponent (totalExponent (m * 2 ^ k) (e - k)) = e := by
    rw [targetExponent_eq, h.log2_mul]
    omega
  have hshift : (e - (e - k)).toNat = k := by omega
  rw [shiftToTargetExponent, htarget, UnpackedFloat.shiftToExponent, hshift]
  simp only [ExtendedMantissa.ofMantissaAndAccuracy, shiftRight_mul_two_pow, Int.sub_add_cancel]

theorem IsFull.roundWithAccuracy_eq (h : IsFull m) (s : Sign) (k : Nat) (he : -1074 ≤ e) :
    roundWithAccuracy .binary64 s (m * 2 ^ k) (e - k) .exact = .finite s m e h.pos := by
  have hagain : shiftToTargetExponent .binary64 m e .exact = (⟨m, false, false⟩, e) := by
    simpa using h.shiftToTargetExponent_eq 0 he
  have hrounded : (ExtendedMantissa.mk m false false).roundedMantissa = m := rfl
  rw [roundWithAccuracy, h.shiftToTargetExponent_eq k he]
  dsimp only
  rw [hrounded, hagain]
  exact dif_neg h.pos.ne'

theorem round_natural (hpos : 0 < n) (hlt : n < 2 ^ 53) :
    UnpackedFloat.round .binary64 .positive n 0 =
      .finite .positive (n * 2 ^ (52 - n.log2)) (n.log2 - 52)
        (isFull_mul_two_pow hpos hlt).pos := by
  have hlog := log2_le hpos hlt
  have htarget : Format.binary64.targetExponent (totalExponent n 0) = n.log2 - 52 := by
    rw [targetExponent_eq]
    omega
  have hshift : (0 - (n.log2 - 52) : Int).toNat = 52 - n.log2 := by omega
  have hnext : (0 - (52 - n.log2 : Nat) : Int) = n.log2 - 52 := by omega
  have hlow : -1074 ≤ (n.log2 - 52 : Int) := by omega
  rw [UnpackedFloat.round, htarget, UnpackedFloat.decreaseExponent, hshift, hnext, Nat.shiftLeft_eq]
  have hround := (isFull_mul_two_pow hpos hlt).roundWithAccuracy_eq .positive 0 hlow
  rwa [Nat.pow_zero, Nat.mul_one, Int.natCast_zero, Int.sub_zero] at hround

/-! ## Bits -/

theorem IsFull.toNat_append (h : IsFull m) : (1#1 ++ BitVec.ofNat 52 m).toNat = m := by
  have hle := h.le
  have hlt := h.lt
  rw [BitVec.toNat_append, ← Nat.shiftLeft_add_eq_or_of_lt (BitVec.isLt _), BitVec.toNat_ofNat,
    BitVec.toNat_ofNat, Nat.shiftLeft_eq]
  omega

/-- The exponent is written as a number below the one that infinity has. -/
theorem IsFull.pack_eq (h : IsFull m) {exponent : Nat} (hlt : exponent < 2047) :
    UnpackedFloat.pack .binary64 (.finite .positive m (exponent - 1075) h.pos) =
      packComponents .binary64 .positive (BitVec.ofNat 11 exponent) (BitVec.ofNat 52 m) := by
  have hbiased : (exponent - 1075 + 1023 + 52 : Int).toNat = exponent := by omega
  have hfinite : ¬ 2 ^ 11 ≤ (exponent - 1075 + 1023 + 52 : Int).toNat + 1 := by omega
  have hfull : m.log2 + 1 = 53 := by
    rw [← Nat.mul_one m, ← Nat.pow_zero 2, h.log2_mul 0]
  refine (if_neg hfinite).trans ((if_pos hfull).trans ?_)
  exact congrArg (fun biased => packComponents .binary64 .positive (BitVec.ofNat 11 biased)
    (BitVec.ofNat 52 m)) hbiased

theorem unpackSign_packed (s : Sign) (exponent : BitVec 11) (significand : BitVec 52) :
    UnpackedFloat.unpackSign (packComponents .binary64 s exponent significand) = s.toBitVec := by
  change BitVec.extractLsb' 63 1 (s.toBitVec ++ exponent ++ significand) = s.toBitVec
  rw [BitVec.extractLsb'_append_eq_of_le (by decide),
    BitVec.extractLsb'_append_eq_of_le (by decide)]
  cases s <;> rfl

/-- From one on, a written exponent tells that the first bit has been left out. -/
theorem unpack_of_exponent {bits : BitVec Format.binary64.numBits} {exponent : BitVec 11}
    (h : UnpackedFloat.unpackExponent bits = exponent)
    (hones : exponent ≠ -1#11) (hzero : exponent ≠ 0#11) :
    ∃ hpos, UnpackedFloat.unpack .binary64 bits =
      .finite (Sign.ofBitVec (UnpackedFloat.unpackSign bits))
        (1#1 ++ UnpackedFloat.unpackMantissa bits).toNat (exponent.toNat - 1075) hpos := by
  subst h
  exact ⟨_, (if_neg hones).trans (if_neg hzero)⟩

theorem finite_congr {s s' : Sign} {m' : Nat} {e' : Int} {hpos : 0 < m} {hpos' : 0 < m'}
    (hs : s = s') (hm : m = m') (he : e = e') :
    UnpackedFloat.finite s m e hpos = .finite s' m' e' hpos' := by
  subst hs hm he
  rfl

theorem IsFull.unpack_pack (h : IsFull m) (hlow : -1074 ≤ e) (hhigh : e ≤ 971) :
    (Float.Model.pack (.finite .positive m e h.pos)).unpack = .finite .positive m e h.pos := by
  obtain ⟨exponent, rfl⟩ : ∃ exponent : Nat, e = exponent - 1075 := ⟨(e + 1075).toNat, by omega⟩
  have hexponent : (BitVec.ofNat 11 exponent).toNat = exponent := Nat.mod_eq_of_lt (by omega)
  have hne : ∀ bits : BitVec 11, exponent ≠ bits.toNat → BitVec.ofNat 11 exponent ≠ bits :=
    fun bits hbits heq => hbits (heq ▸ hexponent.symm)
  have hones : BitVec.ofNat 11 exponent ≠ -1#11 := hne _ (show exponent ≠ 2047 by omega)
  have hzero : BitVec.ofNat 11 exponent ≠ 0#11 := hne _ (show exponent ≠ 0 by omega)
  change UnpackedFloat.unpack .binary64 (UnpackedFloat.pack .binary64 _) = _
  rw [h.pack_eq (by omega)]
  obtain ⟨hpos, hunpack⟩ := unpack_of_exponent
    (UnpackedFloat.unpackExponent_packComponents ..) hones hzero
  rw [hunpack]
  refine finite_congr ?_ ?_ ?_
  · rw [unpackSign_packed]
    rfl
  · rw [UnpackedFloat.unpackMantissa_packComponents, h.toNat_append]
  · rw [hexponent]

/-! ## Conversion -/

/-- The bits of a float are those of a positive number with a full significand. -/
structure IsNormal (x : Float) (m : Nat) (e : Int) : Prop where
  full : IsFull m
  low : -1074 ≤ e
  high : e ≤ 971
  eq : x.toModel = Float.Model.pack (.finite .positive m e full.pos)

theorem IsNormal.value?_eq {x : Float} (h : IsNormal x m e) :
    value? x = some ((m : ℚ) * 2 ^ e) := by
  rw [value?, h.eq, h.full.unpack_pack h.low h.high]
  change some (((m : Int) : ℚ) * 2 ^ e) = _
  rw [Int.cast_natCast]

theorem IsNormal.mul_one {x : Float} (h : IsNormal x m e) :
    x * Float.exactlyRepresentablePowersOfTen[0] = x := by
  have hone : Float.exactlyRepresentablePowersOfTen[0].toModel.unpack =
      .finite .positive (2 ^ 52) (-52) (by decide) := rfl
  have hmodel : Float.Model.mul x.toModel Float.exactlyRepresentablePowersOfTen[0].toModel =
      x.toModel := by
    rw [Float.Model.mul, hone, h.eq, h.full.unpack_pack h.low h.high]
    exact congrArg Float.Model.pack (h.full.roundWithAccuracy_eq .positive 52 h.low)
  exact congrArg Float.ofModel hmodel

theorem exists_isNormal_toFloat {w : UInt64} (hpos : 0 < w.toNat) (hlt : w.toNat < 2 ^ 53) :
    ∃ m e, IsNormal w.toFloat m e ∧ (m : ℚ) * 2 ^ e = w.toNat := by
  have hlog := log2_le hpos hlt
  refine ⟨w.toNat * 2 ^ (52 - w.toNat.log2), w.toNat.log2 - 52,
    ⟨isFull_mul_two_pow hpos hlt, by omega, by omega, ?_⟩, ?_⟩
  · have hsign : compare (w.toNat : Int) 0 = .gt := Int.compare_eq_gt.2 (Int.natCast_pos.2 hpos)
    change Float.Model.pack (UnpackedFloat.normalize .binary64 w.toNat 0 .positive) = _
    rw [UnpackedFloat.normalize, hsign]
    exact congrArg Float.Model.pack (round_natural hpos hlt)
  · have hback : (w.toNat.log2 - 52 : Int) = -(52 - w.toNat.log2 : Nat) := by omega
    rw [hback, zpow_neg, zpow_natCast, Nat.cast_mul, Nat.cast_pow, Nat.cast_ofNat,
      mul_inv_cancel_right₀ (pow_ne_zero _ two_ne_zero)]

theorem value?_toFloat_word {w : UInt64} (h : w.toNat < 2 ^ 53) :
    value? w.toFloat = some (w.toNat : ℚ) := by
  rcases Nat.eq_zero_or_pos w.toNat with hzero | hpos
  · obtain rfl : w = 0 := UInt64.toNat_inj.1 hzero
    rfl
  · obtain ⟨m, e, hnormal, hvalue⟩ := exists_isNormal_toFloat hpos h
    rw [hnormal.value?_eq, hvalue]

/-- A number that fits is converted as a word is. -/
theorem toFloat_toNat {w : UInt64} (h : w.toNat < 2 ^ 53) : w.toNat.toFloat = w.toFloat := by
  have hword : w.toNat.toFloat =
      w.toNat.toUInt64.toFloat * Float.exactlyRepresentablePowersOfTen[0] := dif_pos ⟨h, by decide⟩
  have hsame : w.toNat.toUInt64 = w := UInt64.ofNat_toNat
  rw [hword, hsame]
  rcases Nat.eq_zero_or_pos w.toNat with hzero | hpos
  · obtain rfl : w = 0 := UInt64.toNat_inj.1 hzero
    rfl
  · obtain ⟨m, e, hnormal, -⟩ := exists_isNormal_toFloat hpos h
    exact hnormal.mul_one

theorem value?_toFloat (h : n < 2 ^ 53) : value? n.toFloat = some (n : ℚ) := by
  have hword : n.toUInt64.toNat = n := UInt64.toNat_ofNat_of_lt (h.trans (by decide))
  rw [← hword] at h ⊢
  rw [toFloat_toNat h, value?_toFloat_word h]

end Precis.Binary64

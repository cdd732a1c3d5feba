import Mathlib.Algebra.Order.Field.Rat
import Mathlib.Data.Rat.Cast.Order
import Mathlib.Order.WithBot
import Mathlib.Order.Monotone.Basic
import Mathlib.Tactic.Linarith
import Mathlib.Tactic.NormNum
import Mathlib.Tactic.Ring
import Precis.Font.Size

/-!
The numbers that font sizes stand for. Every finite size is a whole number of steps of 2 ^ -149, the
smallest size above zero. Sizes are closest together at zero; from each power of two on they lie
twice as far apart as below it.
-/

namespace Precis.FontSize

/-- How many steps a size without its sign is above zero. -/
def stepsOf (magnitude : Nat) : Nat :=
  if magnitude / 2 ^ 23 = 0 then magnitude % 2 ^ 23
  else (2 ^ 23 + magnitude % 2 ^ 23) * 2 ^ (magnitude / 2 ^ 23 - 1)

def steps (s : FontSize) : Int :=
  if s.bits.toNat < signBit then stepsOf s.bits.toNat
  else -(stepsOf (s.bits.toNat - signBit) : Int)

/-- The number that a finite size stands for. -/
def value (s : FontSize) : ℚ :=
  s.steps / 2 ^ 149

/-- Counting up by a full significand of 24 bits goes on into the sizes that lie twice as far
apart. -/
theorem stepsOf_add {k significand : Nat} (h : k = 0 ∨ 2 ^ 23 ≤ significand)
    (hle : significand ≤ 2 ^ 24) : stepsOf (k * 2 ^ 23 + significand) = significand * 2 ^ k := by
  unfold stepsOf
  rcases hle.lt_or_eq with hlt | heq
  · rcases Nat.lt_or_ge significand (2 ^ 23) with hsmall | hlarge
    · have hk : k = 0 := h.resolve_right (by omega)
      subst hk
      rw [if_pos (by omega)]
      omega
    · have hdiv : (k * 2 ^ 23 + significand) / 2 ^ 23 = k + 1 := by omega
      have hmod : 2 ^ 23 + (k * 2 ^ 23 + significand) % 2 ^ 23 = significand := by omega
      rw [hdiv, hmod, if_neg (by omega), Nat.add_sub_cancel]
  · have hdiv : (k * 2 ^ 23 + significand) / 2 ^ 23 = k + 2 := by omega
    have hmod : (k * 2 ^ 23 + significand) % 2 ^ 23 = 0 := by omega
    rw [hdiv, hmod, if_neg (by omega), heq, show k + 2 - 1 = k + 1 from rfl, pow_succ]
    ring

theorem exists_significand (magnitude : Nat) :
    ∃ k significand, magnitude = k * 2 ^ 23 + significand ∧ significand < 2 ^ 24 ∧
      (k = 0 ∨ 2 ^ 23 ≤ significand) := by
  rcases Nat.lt_or_ge magnitude (2 ^ 23) with hsmall | hlarge
  · exact ⟨0, magnitude, by omega, by omega, .inl rfl⟩
  · exact ⟨magnitude / 2 ^ 23 - 1, 2 ^ 23 + magnitude % 2 ^ 23, by omega, by omega,
      .inr (by omega)⟩

theorem strictMono_stepsOf : StrictMono stepsOf := by
  apply strictMono_nat_of_lt_succ
  intro magnitude
  obtain ⟨k, significand, rfl, hlt, h⟩ := exists_significand magnitude
  rw [Nat.add_assoc, stepsOf_add h hlt.le, stepsOf_add (h.imp_right Nat.le_succ_of_le) hlt]
  exact Nat.mul_lt_mul_of_pos_right (Nat.lt_succ_self significand) (Nat.two_pow_pos k)

/-- The sizes from a power of two on are among the multiples of the distance that they have there. -/
theorem dvd_stepsOf_or_lt (k magnitude : Nat) :
    2 ^ k ∣ stepsOf magnitude ∨ stepsOf magnitude < 2 ^ (k + 23) := by
  obtain ⟨j, significand, rfl, hlt, h⟩ := exists_significand magnitude
  rw [stepsOf_add h hlt.le]
  rcases Nat.lt_or_ge j k with hjk | hjk
  · refine .inr ?_
    calc significand * 2 ^ j < 2 ^ 24 * 2 ^ j := Nat.mul_lt_mul_of_pos_right hlt (Nat.two_pow_pos j)
      _ = 2 ^ (24 + j) := (pow_add 2 24 j).symm
      _ ≤ 2 ^ (k + 23) := Nat.pow_le_pow_right (by decide) (by omega)
  · exact .inl (Dvd.dvd.mul_left (pow_dvd_pow 2 hjk) significand)

theorem dvd_steps_or_lt (k : Nat) (s : FontSize) :
    (2 ^ k : Int) ∣ s.steps ∨ s.steps < 2 ^ (k + 23) := by
  unfold steps
  split
  · rcases dvd_stepsOf_or_lt k s.bits.toNat with hdvd | hlt
    · exact .inl (by exact_mod_cast hdvd)
    · exact .inr (by exact_mod_cast hlt)
  · refine .inr (lt_of_le_of_lt (b := 0) ?_ (by positivity))
    simp

theorem steps_of_lt {s : FontSize} (h : s.bits.toNat < signBit) :
    s.steps = stepsOf s.bits.toNat := by
  rw [steps, if_pos h]

theorem value_eq_iff {s t : FontSize} : s.value = t.value ↔ s.steps = t.steps := by
  rw [value, value, div_left_inj' (by positivity), Int.cast_inj]

theorem value_nonneg {s : FontSize} (h : s.bits.toNat < signBit) : 0 ≤ s.value := by
  rw [value, steps_of_lt h, Int.cast_natCast]
  exact div_nonneg (Nat.cast_nonneg _) (by positivity)

/-- Sizes without a sign are in the order of their bits. -/
theorem value_lt_iff {s t : FontSize} (hs : s.bits.toNat < signBit) (ht : t.bits.toNat < signBit) :
    s.value < t.value ↔ s.bits.toNat < t.bits.toNat := by
  rw [value, value, div_lt_div_iff_of_pos_right (by positivity), Int.cast_lt, steps_of_lt hs,
    steps_of_lt ht, Int.ofNat_lt, strictMono_stepsOf.lt_iff_lt]

theorem stepsOf_eq_zero_iff {magnitude : Nat} : stepsOf magnitude = 0 ↔ magnitude = 0 :=
  strictMono_stepsOf.injective.eq_iff' rfl

theorem steps_lt_steps_iff {s t : FontSize} : s.steps < t.steps ↔ s.rank < t.rank := by
  have hmono : ∀ a b, stepsOf a < stepsOf b ↔ a < b := fun _ _ => strictMono_stepsOf.lt_iff_lt
  -- the zeros of both signs are the one place where the signs do not decide
  have hzero : ∀ a, stepsOf a = 0 ↔ a = 0 := fun _ => stepsOf_eq_zero_iff
  rw [steps, steps, rank, rank]
  split
  · split
    · rw [Int.ofNat_lt, Int.ofNat_lt, hmono]
    · omega
  · split
    · have hs := hzero (s.bits.toNat - signBit)
      have ht := hzero t.bits.toNat
      omega
    · rw [neg_lt_neg_iff, neg_lt_neg_iff, Int.ofNat_lt, Int.ofNat_lt, hmono]

theorem value_lt_value_iff {s t : FontSize} : s.value < t.value ↔ s.rank < t.rank := by
  rw [value, value, div_lt_div_iff_of_pos_right (by positivity), Int.cast_lt, steps_lt_steps_iff]

theorem natAbs_rank (s : FontSize) : s.rank.natAbs = s.bits.toNat % signBit := by
  have hsize : UInt32.size = 2 * 0x80000000 := rfl
  have hlt := s.bits.toNat_lt_size
  simp only [rank, signBit]
  split_ifs <;> omega

theorem natAbs_rank_lt_or_eq {s : FontSize} (h : s.isNaN = false) :
    s.rank.natAbs < infinity ∨ s.rank.natAbs = infinity := by
  rw [natAbs_rank]
  exact Nat.lt_or_eq_of_le (Nat.le_of_not_lt (of_decide_eq_false h))

theorem rank_nonneg_iff {s : FontSize} (h : s.rank ≠ 0) :
    0 ≤ s.rank ↔ s.bits.toNat < signBit := by
  rw [rank] at h ⊢
  split_ifs at h ⊢ <;> omega

/-- The number that a size stands for, unless it is none: infinite sizes lie beyond all others. -/
def number (s : FontSize) : WithBot (WithTop ℚ) :=
  if s.isFinite then ((s.value : WithTop ℚ) : WithBot (WithTop ℚ))
  else if s.bits.toNat < signBit then ((⊤ : WithTop ℚ) : WithBot (WithTop ℚ))
  else ⊥

theorem number_of_natAbs_rank_lt {s : FontSize} (h : s.rank.natAbs < infinity) :
    s.number = ((s.value : WithTop ℚ) : WithBot (WithTop ℚ)) := by
  rw [natAbs_rank] at h
  rw [number, isFinite, if_pos (decide_eq_true h)]

theorem number_of_rank_eq {s : FontSize} (h : s.rank.natAbs = infinity) :
    s.number = if 0 ≤ s.rank then ((⊤ : WithTop ℚ) : WithBot (WithTop ℚ)) else ⊥ := by
  have hne : s.rank ≠ 0 := by
    intro hzero
    rw [hzero] at h
    exact absurd h (by decide)
  rw [natAbs_rank] at h
  simp only [number, isFinite, h, Nat.lt_irrefl, decide_false, Bool.false_eq_true, if_false,
    rank_nonneg_iff hne]

theorem number_lt_number_iff {s t : FontSize} (hs : s.isNaN = false) (ht : t.isNaN = false) :
    s.number < t.number ↔ s.rank < t.rank := by
  rcases natAbs_rank_lt_or_eq hs with hsRank | hsRank
  · rw [number_of_natAbs_rank_lt hsRank]
    rcases natAbs_rank_lt_or_eq ht with htRank | htRank
    · rw [number_of_natAbs_rank_lt htRank, WithBot.coe_lt_coe, WithTop.coe_lt_coe,
        value_lt_value_iff]
    · rw [number_of_rank_eq htRank]
      split
      · simp only [WithBot.coe_lt_coe, WithTop.coe_lt_top, true_iff]
        omega
      · simp only [not_lt_bot, false_iff]
        omega
  · rw [number_of_rank_eq hsRank]
    rcases natAbs_rank_lt_or_eq ht with htRank | htRank
    · rw [number_of_natAbs_rank_lt htRank]
      split
      · simp only [WithBot.coe_lt_coe, not_top_lt, false_iff]
        omega
      · simp only [WithBot.bot_lt_coe, true_iff]
        omega
    · rw [number_of_rank_eq htRank]
      split_ifs
      · simp only [lt_self_iff_false, false_iff]
        omega
      · simp only [not_lt_bot, false_iff]
        omega
      · simp only [WithBot.bot_lt_coe, true_iff]
        omega
      · simp only [lt_self_iff_false, false_iff]
        omega

theorem number_eq_number_iff {s t : FontSize} (hs : s.isNaN = false) (ht : t.isNaN = false) :
    s.number = t.number ↔ s.rank = t.rank := by
  rw [le_antisymm_iff, ← not_lt, ← not_lt, number_lt_number_iff ht hs, number_lt_number_iff hs ht]
  omega

theorem eq_of_value_eq {s t : FontSize} (hs : s.bits.toNat < signBit)
    (ht : t.bits.toNat < signBit) (h : s.value = t.value) : s = t := by
  rw [value_eq_iff, steps_of_lt hs, steps_of_lt ht, Int.ofNat_inj] at h
  have hbits : s.bits.toNat = t.bits.toNat := strictMono_stepsOf.injective h
  cases s
  cases t
  exact congrArg FontSize.mk (UInt32.toNat_inj.1 hbits)

end Precis.FontSize

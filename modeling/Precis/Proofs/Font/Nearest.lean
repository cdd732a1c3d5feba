import Mathlib.Algebra.Order.Field.Basic
import Mathlib.Algebra.Order.Field.Power
import Mathlib.Tactic.FieldSimp
import Mathlib.Tactic.Linarith
import Mathlib.Tactic.NormNum
import Mathlib.Tactic.Ring
import Precis.Proofs.Font.Value

/-!
Correct rounding. The size that is read for a quotient is the finite one nearest to it among all
sizes, with an even last bit where two are equally near, and there is no second one like it. The
argument runs over the whole numbers of steps: the significand is rounded to a whole number, every
size from its power of two on is a multiple of the same distance, and every smaller size is farther
away.
-/

namespace Precis.FontSize

/-- A finite size without a sign that no other one is nearer to the number than, nor as near unless
the last bit is even. -/
structure IsNearest (q : ℚ) (s : FontSize) : Prop where
  finite : s.isFinite = true
  unsigned : s.bits.toNat < signBit
  closest : ∀ t : FontSize, t.isFinite = true → |s.value - q| ≤ |t.value - q|
  even : ∀ t : FontSize, t.isFinite = true → t.value ≠ s.value →
    |t.value - q| = |s.value - q| → s.bits.toNat % 2 = 0

/-- A whole number at most a half away, and even if it is a half away. -/
structure RoundsTo (y : ℚ) (n : Nat) : Prop where
  error : |(n : ℚ) - y| ≤ 1 / 2
  tie : |(n : ℚ) - y| = 1 / 2 → n % 2 = 0

theorem roundsTo_add {q n : Nat} {f : ℚ} (h0 : 0 ≤ f) (h1 : f < 1)
    (hlow : f < 1 / 2 → n = q) (hhigh : 1 / 2 < f → n = q + 1)
    (htie : f = 1 / 2 → n % 2 = 0 ∧ (n = q ∨ n = q + 1)) : RoundsTo (q + f) n := by
  have hdown : |(q : ℚ) - (q + f)| = f := by
    rw [sub_add_cancel_left, abs_neg, abs_of_nonneg h0]
  have hup : |((q + 1 : Nat) : ℚ) - (q + f)| = 1 - f := by
    rw [Nat.cast_add_one, add_sub_add_left_eq_sub, abs_of_pos (sub_pos.2 h1)]
  rcases lt_trichotomy f (1 / 2) with hlt | heq | hgt
  · rw [hlow hlt]
    exact ⟨by rw [hdown]; exact hlt.le, fun h => absurd (hdown ▸ h) hlt.ne⟩
  · obtain ⟨heven, rfl | rfl⟩ := htie heq
    · exact ⟨by rw [hdown, heq], fun _ => heven⟩
    · exact ⟨by rw [hup, heq]; norm_num, fun _ => heven⟩
  · rw [hhigh hgt]
    exact ⟨by rw [hup]; linarith, fun h => by rw [hup] at h; linarith⟩

theorem roundsTo_roundDiv {num den : Nat} (hden : 0 < den) :
    RoundsTo (num / den) (roundDiv num den) := by
  have hpos : (0 : ℚ) < den := by exact_mod_cast hden
  have hsum : (num : ℚ) / den = (num / den : Nat) + (num % den : Nat) / den := by
    rw [eq_comm, add_div_eq_mul_add_div _ _ hpos.ne', ← Nat.cast_mul, ← Nat.cast_add,
      Nat.div_add_mod']
  have hbelow : ((num % den : Nat) : ℚ) / den < 1 / 2 ↔ 2 * (num % den) < den := by
    rw [div_lt_div_iff₀ hpos two_pos, one_mul, mul_comm]
    exact_mod_cast Iff.rfl
  have habove : 1 / 2 < ((num % den : Nat) : ℚ) / den ↔ den < 2 * (num % den) := by
    rw [div_lt_div_iff₀ two_pos hpos, one_mul, mul_comm _ (2 : ℚ)]
    exact_mod_cast Iff.rfl
  have hone : ((num % den : Nat) : ℚ) / den < 1 := by
    rw [div_lt_one hpos]
    exact_mod_cast Nat.mod_lt num hden
  rw [hsum]
  refine roundsTo_add (by positivity) hone (fun hlow => ?_) (fun hhigh => ?_) (fun htie => ?_)
  · rw [roundDiv, if_pos (hbelow.1 hlow)]
  · have hlt := habove.1 hhigh
    rw [roundDiv, if_neg (by omega), if_pos hlt]
  · rw [roundDiv, if_neg fun h => (hbelow.2 h).ne htie, if_neg fun h => (habove.2 h).ne' htie]
    split_ifs with heven
    · exact ⟨heven, .inl rfl⟩
    · exact ⟨by omega, .inr rfl⟩

theorem RoundsTo.le_of_lt {y : ℚ} {n m : Nat} (h : RoundsTo y n) (hy : y < m) : n ≤ m := by
  have hlt : (n : ℚ) < m + 1 := by linarith [(abs_le.1 h.error).2]
  exact Nat.lt_succ_iff.1 (by exact_mod_cast hlt)

theorem RoundsTo.ge_of_le {y : ℚ} {n m : Nat} (h : RoundsTo y n) (hy : (m : ℚ) ≤ y) : m ≤ n := by
  have hlt : (m : ℚ) < n + 1 := by linarith [(abs_le.1 h.error).1]
  exact Nat.lt_succ_iff.1 (by exact_mod_cast hlt)

theorem RoundsTo.half_le {y : ℚ} {n : Nat} (h : RoundsTo y n) {m : Int} (hne : m ≠ n) :
    1 / 2 ≤ |(m : ℚ) - y| := by
  have hone : (1 : ℚ) ≤ |(m : ℚ) - n| := by
    have hdist : 1 ≤ |m - n| := Int.one_le_abs (sub_ne_zero.2 hne)
    exact_mod_cast hdist
  have htriangle := abs_sub_le (m : ℚ) y n
  rw [abs_sub_comm y] at htriangle
  linarith [h.error]

/-- No other whole number is nearer. -/
theorem RoundsTo.le {y : ℚ} {n : Nat} (h : RoundsTo y n) (m : Int) :
    |(n : ℚ) - y| ≤ |(m : ℚ) - y| := by
  by_cases hm : m = n
  · rw [hm, Int.cast_natCast]
  · exact h.error.trans (h.half_le hm)

theorem RoundsTo.even_of_eq {y : ℚ} {n : Nat} (h : RoundsTo y n) {m : Int} (hne : m ≠ n)
    (heq : |(m : ℚ) - y| = |(n : ℚ) - y|) : n % 2 = 0 :=
  h.tie (h.error.antisymm (heq ▸ h.half_le hne))

/-- From a power of two on, rounding to a multiple of the distance is rounding to a size: a multiple
is not nearer, and whatever is below the power of two is farther away. -/
theorem RoundsTo.steps_le {k n : Nat} {y : ℚ} (h : RoundsTo y n) (hy : k = 0 ∨ 2 ^ 23 ≤ y)
    (t : FontSize) :
    |(n : ℚ) - y| ≤ |t.steps / 2 ^ k - y| ∧
      (|t.steps / 2 ^ k - y| = |(n : ℚ) - y| → t.steps ≠ n * 2 ^ k → n % 2 = 0) := by
  have hpos : (0 : ℚ) < 2 ^ k := by positivity
  have hsize : (2 ^ k : Int) ∣ t.steps ∨ 2 ^ 23 ≤ y ∧ t.steps < 2 ^ (k + 23) := by
    rcases hy with rfl | hy
    · exact .inl (one_dvd t.steps)
    · exact (dvd_steps_or_lt k t).imp_right fun hlt => ⟨hy, hlt⟩
  rcases hsize with ⟨m, hm⟩ | ⟨hy, hlt⟩
  · have hdiv : (t.steps : ℚ) / 2 ^ k = m := by
      rw [hm, Int.cast_mul, Int.cast_pow, Int.cast_ofNat, mul_div_cancel_left₀ _ hpos.ne']
    rw [hdiv]
    refine ⟨h.le m, fun heq hne => h.even_of_eq ?_ heq⟩
    rintro rfl
    exact hne (hm.trans (mul_comm _ _))
  · have hbelow : (t.steps : ℚ) / 2 ^ k < 2 ^ 23 := by
      rw [div_lt_iff₀ hpos, ← pow_add, add_comm]
      exact_mod_cast hlt
    have hfar : |(n : ℚ) - y| < |t.steps / 2 ^ k - y| := by
      have hle := h.le (2 ^ 23)
      rw [Int.cast_pow, Int.cast_ofNat, abs_of_nonpos (a := 2 ^ 23 - y) (by linarith)] at hle
      rw [abs_of_neg (a := _ / _ - y) (by linarith)]
      linarith
    exact ⟨hfar.le, fun heq _ => absurd heq hfar.ne'⟩

theorem scaled_div (num den : Nat) (e : Int) :
    ((num * 2 ^ (-e).toNat : Nat) : ℚ) / (den * 2 ^ e.toNat : Nat) = num / den / 2 ^ e := by
  rcases e.eq_nat_or_neg with ⟨n, rfl | rfl⟩
  · simp [div_div]
  · simp [div_mul_eq_mul_div]

theorem scaled_lt_iff (num : Nat) {den : Nat} (hden : den ≠ 0) (e : Int) :
    num * 2 ^ (-e).toNat < den * 2 ^ e.toNat ↔ (num : ℚ) / den < 2 ^ e := by
  have hpos : (0 : ℚ) < (den * 2 ^ e.toNat : Nat) := by
    exact_mod_cast Nat.mul_pos (Nat.pos_of_ne_zero hden) (Nat.two_pow_pos _)
  rw [← div_lt_one (b := (2 : ℚ) ^ e) (by positivity), ← scaled_div, div_lt_one hpos, Nat.cast_lt]

theorem log2Div_spec {num den : Nat} (hnum : num ≠ 0) (hden : den ≠ 0) :
    (2 : ℚ) ^ log2Div num den ≤ num / den ∧ (num : ℚ) / den < 2 ^ (log2Div num den + 1) := by
  have hpos : (0 : ℚ) < den := by exact_mod_cast Nat.pos_of_ne_zero hden
  have hnumLow : (2 : ℚ) ^ (num.log2 : Int) ≤ num := by exact_mod_cast Nat.log2_self_le hnum
  have hnumHigh : (num : ℚ) < 2 ^ (num.log2 + 1 : Int) := by exact_mod_cast Nat.lt_log2_self
  have hdenLow : (2 : ℚ) ^ (den.log2 : Int) ≤ den := by exact_mod_cast Nat.log2_self_le hden
  have hdenHigh : (den : ℚ) < 2 ^ (den.log2 + 1 : Int) := by exact_mod_cast Nat.lt_log2_self
  have hlow : (2 : ℚ) ^ ((num.log2 : Int) - den.log2 - 1) ≤ num / den := by
    rw [sub_sub, zpow_sub₀ two_ne_zero]
    exact div_le_div₀ (Nat.cast_nonneg _) hnumLow hpos hdenHigh.le
  have hhigh : (num : ℚ) / den < 2 ^ ((num.log2 : Int) - den.log2 + 1) := by
    rw [sub_add_eq_add_sub, zpow_sub₀ two_ne_zero]
    exact div_lt_div₀ hnumHigh hdenLow (by positivity) (by positivity)
  have hcond := scaled_lt_iff num hden ((num.log2 : Int) - den.log2)
  rw [log2Div]
  simp only [Nat.pow_eq]
  split_ifs with h
  · exact ⟨hlow, by rw [sub_add_cancel]; exact hcond.1 h⟩
  · exact ⟨not_lt.1 fun hlt => h (hcond.2 hlt), hhigh⟩

/-- The exponent leaves 24 bits for the significand, and fewer only at the smallest one. -/
theorem significand_bounds {q : ℚ} {l e : Int} (hlow : 2 ^ l ≤ q) (hhigh : q < 2 ^ (l + 1))
    (he : max (-149) (l - 23) = e) : q / 2 ^ e < 2 ^ 24 ∧ (e = -149 ∨ 2 ^ 23 ≤ q / 2 ^ e) := by
  have hpos : (0 : ℚ) < 2 ^ e := by positivity
  constructor
  · have hle : (2 : ℚ) ^ (l + 1) ≤ 2 ^ ((24 : Int) + e) :=
      zpow_le_zpow_right₀ one_le_two (by omega)
    rw [div_lt_iff₀ hpos]
    calc q < 2 ^ (l + 1) := hhigh
      _ ≤ 2 ^ ((24 : Int) + e) := hle
      _ = 2 ^ 24 * 2 ^ e := by rw [zpow_add₀ two_ne_zero]; rfl
  · by_cases hsmall : e = -149
    · exact .inl hsmall
    · refine .inr ?_
      rw [le_div_iff₀ hpos]
      calc (2 : ℚ) ^ 23 * 2 ^ e = 2 ^ ((23 : Int) + e) := by rw [zpow_add₀ two_ne_zero]; rfl
        _ = 2 ^ l := by rw [show 23 + e = l by omega]
        _ ≤ q := hlow

theorem div_zpow_eq (q : ℚ) {e : Int} {k : Nat} (hk : (k : Int) = e + 149) :
    q / 2 ^ e = q * 2 ^ 149 / 2 ^ k := by
  have hpow : (2 : ℚ) ^ k = 2 ^ e * 2 ^ 149 := by
    rw [← zpow_natCast, hk, zpow_add₀ two_ne_zero]
    rfl
  rw [hpow, mul_div_mul_right _ _ (by positivity)]

/-- The bits of the size that is read: a rounded significand in the range of the power of two that
the quotient lies above. -/
theorem exists_bits_nearest {num den : Nat} (hnum : num ≠ 0) (hden : den ≠ 0)
    (hlt : (num : ℚ) / den < 2 ^ 127) :
    ∃ k n : Nat, (nearest num den).bits.toNat = k * 2 ^ 23 + n ∧ k ≤ 252 ∧ n ≤ 2 ^ 24 ∧
      (k = 0 ∨ 2 ^ 23 ≤ (num : ℚ) / den * 2 ^ 149 / 2 ^ k) ∧
      RoundsTo ((num : ℚ) / den * 2 ^ 149 / 2 ^ k) n := by
  obtain ⟨hlow, hhigh⟩ := log2Div_spec hnum hden
  have hlog : log2Div num den < 127 := by
    have hpow : (2 : ℚ) ^ log2Div num den < 2 ^ (127 : Int) := hlow.trans_lt (by exact_mod_cast hlt)
    exact (zpow_lt_zpow_iff_right₀ one_lt_two).1 hpow
  rw [nearest, if_neg hnum]
  simp only [Nat.pow_eq]
  generalize hexp : max (-149) (log2Div num den - 23) = e
  obtain ⟨hbelow, habove⟩ := significand_bounds hlow hhigh hexp
  obtain ⟨k, hk⟩ : ∃ k : Nat, (k : Int) = e + 149 := ⟨(e + 149).toNat, by omega⟩
  have hround : RoundsTo (num / den / 2 ^ e)
      (roundDiv (num * 2 ^ (-e).toNat) (den * 2 ^ e.toNat)) := by
    rw [← scaled_div]
    exact roundsTo_roundDiv (Nat.mul_pos (Nat.pos_of_ne_zero hden) (Nat.two_pow_pos _))
  generalize roundDiv (num * 2 ^ (-e).toNat) (den * 2 ^ e.toNat) = n at hround ⊢
  have hn : n ≤ 2 ^ 24 := hround.le_of_lt (by exact_mod_cast hbelow)
  rw [div_zpow_eq _ hk] at habove hround
  refine ⟨k, n, ?_, by omega, hn, habove.imp_left fun h => by omega, hround⟩
  have hbits : (e + 149).toNat * 0x800000 + n < infinity := by
    unfold infinity
    omega
  rw [min_eq_right hbits.le, UInt32.toNat_ofNat_of_lt']
  · omega
  · exact hbits.trans (by decide)

theorem abs_value_sub (s : FontSize) (q : ℚ) (k : Nat) :
    |s.value - q| = |s.steps / 2 ^ k - q * 2 ^ 149 / 2 ^ k| * (2 ^ k / 2 ^ 149) := by
  rw [← abs_of_pos (a := (2 : ℚ) ^ k / 2 ^ 149) (by positivity), ← abs_mul, value]
  congr 1
  field_simp

theorem abs_value_sub_le_iff {s t : FontSize} {q : ℚ} (k : Nat) :
    |s.value - q| ≤ |t.value - q| ↔
      |s.steps / 2 ^ k - q * 2 ^ 149 / 2 ^ k| ≤ |t.steps / 2 ^ k - q * 2 ^ 149 / 2 ^ k| := by
  rw [abs_value_sub s q k, abs_value_sub t q k, mul_le_mul_iff_left₀ (by positivity)]

theorem abs_value_sub_eq_iff {s t : FontSize} {q : ℚ} (k : Nat) :
    |s.value - q| = |t.value - q| ↔
      |s.steps / 2 ^ k - q * 2 ^ 149 / 2 ^ k| = |t.steps / 2 ^ k - q * 2 ^ 149 / 2 ^ k| := by
  rw [abs_value_sub s q k, abs_value_sub t q k, mul_left_inj' (by positivity)]

theorem finite_and_unsigned {s : FontSize} (h : s.bits.toNat < infinity) :
    s.isFinite = true ∧ s.bits.toNat < signBit := by
  have hsign : s.bits.toNat < signBit := h.trans (by decide)
  exact ⟨decide_eq_true (by rwa [Nat.mod_eq_of_lt hsign]), hsign⟩

theorem isNaN_of_isFinite {s : FontSize} (h : s.isFinite = true) : s.isNaN = false :=
  decide_eq_false (not_lt.2 (of_decide_eq_true h).le)

theorem isNearest_zero : IsNearest 0 ⟨0⟩ := by
  obtain ⟨hfinite, hunsigned⟩ := finite_and_unsigned (s := ⟨0⟩) (by decide)
  have hvalue : value ⟨0⟩ = 0 := by
    rw [value, steps_of_lt hunsigned]
    norm_num [stepsOf]
  refine ⟨hfinite, hunsigned, fun t _ => ?_, fun _ _ _ _ => rfl⟩
  rw [hvalue, sub_zero, abs_zero]
  exact abs_nonneg _

/-- Every quotient below the last power of two is read as the size nearest to it. -/
theorem isNearest_nearest {num den : Nat} (hden : den ≠ 0) (hlt : (num : ℚ) / den < 2 ^ 127) :
    IsNearest (num / den) (nearest num den) := by
  by_cases hnum : num = 0
  · rw [hnum, Nat.cast_zero, zero_div, nearest, if_pos rfl]
    exact isNearest_zero
  obtain ⟨k, n, hbits, hk, hn, hy, hround⟩ := exists_bits_nearest hnum hden hlt
  have hinfinity : (nearest num den).bits.toNat < infinity := by
    unfold infinity
    omega
  obtain ⟨hfinite, hunsigned⟩ := finite_and_unsigned hinfinity
  have hfull : k = 0 ∨ 2 ^ 23 ≤ n :=
    hy.imp_right fun hle => hround.ge_of_le (by exact_mod_cast hle)
  have hsteps : (nearest num den).steps = n * 2 ^ k := by
    rw [steps_of_lt hunsigned, hbits, stepsOf_add hfull hn]
    exact_mod_cast rfl
  have hscaled : ((nearest num den).steps : ℚ) / 2 ^ k = n := by
    rw [hsteps, Int.cast_mul, Int.cast_pow, Int.cast_natCast, Int.cast_ofNat,
      mul_div_cancel_right₀ _ (by positivity)]
  refine ⟨hfinite, hunsigned, fun t _ => ?_, fun t _ hne heq => ?_⟩
  · rw [abs_value_sub_le_iff k, hscaled]
    exact (hround.steps_le hy t).1
  · rw [abs_value_sub_eq_iff k, hscaled] at heq
    have heven := (hround.steps_le hy t).2 heq (hsteps ▸ mt value_eq_iff.2 hne)
    omega

theorem IsNearest.le_of_le {q : ℚ} {s t : FontSize} (hs : IsNearest q s) (ht : t.isFinite = true)
    (h : q ≤ t.value) : s.value ≤ t.value := by
  have hclosest := hs.closest t ht
  rw [abs_of_nonneg (sub_nonneg.2 h)] at hclosest
  linarith [le_abs_self (s.value - q)]

theorem IsNearest.bits_lt {q : ℚ} {s : FontSize} (h : IsNearest q s) :
    s.bits.toNat < infinity := by
  have hlt := of_decide_eq_true h.finite
  rwa [Nat.mod_eq_of_lt h.unsigned] at hlt

theorem exists_value_between {s t : FontSize} (ht : t.bits.toNat < infinity)
    (h : s.bits.toNat + 1 < t.bits.toNat) :
    ∃ u : FontSize, u.isFinite = true ∧ s.value < u.value ∧ u.value < t.value := by
  let u : FontSize := ⟨UInt32.ofNat (s.bits.toNat + 1)⟩
  have hbits : u.bits.toNat = s.bits.toNat + 1 :=
    UInt32.toNat_ofNat_of_lt' (h.trans t.bits.toNat_lt)
  have hs := finite_and_unsigned (s := s) (by omega)
  have hu := finite_and_unsigned (s := u) (by omega)
  exact ⟨u, hu.1, (value_lt_iff hs.2 hu.2).2 (by omega),
    (value_lt_iff hu.2 (finite_and_unsigned ht).2).2 (by omega)⟩

theorem IsNearest.value_le {q : ℚ} {s t : FontSize} (hs : IsNearest q s) (ht : IsNearest q t) :
    t.value ≤ s.value := by
  refine not_lt.1 fun hlt => ?_
  -- the number is halfway between the two, and as both are even there is a size in between
  have heq : |s.value - q| = |t.value - q| :=
    (hs.closest t ht.finite).antisymm (ht.closest s hs.finite)
  have hsEven := hs.even t ht.finite hlt.ne' heq.symm
  have htEven := ht.even s hs.finite hlt.ne heq
  have hbits := (value_lt_iff hs.unsigned ht.unsigned).1 hlt
  obtain ⟨u, hu, hsu, hut⟩ := exists_value_between ht.bits_lt (s := s) (by omega)
  have hmiddle : s.value - q = -(t.value - q) :=
    (abs_eq_abs.1 heq).resolve_left fun h => hlt.ne (by linarith)
  have hdist : |s.value - q| = t.value - q := by
    rw [hmiddle, abs_neg, abs_of_pos (by linarith)]
  have hnear : |u.value - q| < t.value - q := abs_lt.2 ⟨by linarith, by linarith⟩
  exact absurd (hs.closest u hu) (not_le.2 (hdist ▸ hnear))

/-- At most one size is nearest to a number. -/
theorem IsNearest.unique {q : ℚ} {s t : FontSize} (hs : IsNearest q s) (ht : IsNearest q t) :
    s = t := by
  have heq : s.value = t.value := (ht.value_le hs).antisymm (hs.value_le ht)
  exact eq_of_value_eq hs.unsigned ht.unsigned heq

end Precis.FontSize

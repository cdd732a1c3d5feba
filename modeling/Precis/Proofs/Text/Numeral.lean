import Mathlib.Data.List.Induction
import Mathlib.Tactic.Ring
import Precis.Text.Numeral

/-!
Numerals and their values. The value of digits grows by places from the left, and every numeral is
the canonical numeral of its value with some zeros in front of it.
-/

namespace Precis.Text

theorem isDigit_iff {c : Char} : c.isDigit = true ↔ 48 ≤ c.toNat ∧ c.toNat ≤ 57 :=
  Char.isDigit_iff_toNat

theorem toNat_digit (n : Nat) : (digit n).toNat = 48 + n % 10 := by
  have hlt : n % 10 < 10 := Nat.mod_lt n (by decide)
  have hvalid : ('0'.toNat + n % 10).isValidChar := .inl (by change 48 + n % 10 < 55296; omega)
  rw [digit, Char.ofNat, dif_pos hvalid]
  rfl

theorem isDigit_digit (n : Nat) : (digit n).isDigit = true := by
  rw [isDigit_iff, toNat_digit]
  omega

theorem digitValue_digit (n : Nat) : digitValue (digit n) = n % 10 := by
  rw [digitValue, toNat_digit]
  exact Nat.add_sub_cancel_left 48 (n % 10)

theorem digitValue_lt {c : Char} (h : c.isDigit = true) : digitValue c < 10 := by
  have hc := isDigit_iff.1 h
  have h0 : '0'.toNat = 48 := rfl
  rw [digitValue, h0]
  omega

theorem digit_of_isDigit {c : Char} (h : c.isDigit = true) (n : Nat) :
    digit (10 * n + digitValue c) = c := by
  have hc := isDigit_iff.1 h
  have h0 : '0'.toNat = 48 := rfl
  have hplace : '0'.toNat + (10 * n + digitValue c) % 10 = c.toNat := by
    rw [digitValue, h0]
    omega
  rw [digit, hplace, Char.ofNat_toNat]

theorem valueOfDigits_append_singleton (digits : Text) (c : Char) :
    valueOfDigits (digits ++ [c]) = 10 * valueOfDigits digits + digitValue c := by
  rw [valueOfDigits, valueOfDigitsFrom, List.foldl_append]
  rfl

theorem valueOfDigits_append (a b : Text) :
    valueOfDigits (a ++ b) = valueOfDigits a * 10 ^ b.length + valueOfDigits b := by
  induction b using List.reverseRecOn with
  | nil => simp [valueOfDigits, valueOfDigitsFrom]
  | append_singleton b c ih =>
      rw [← List.append_assoc, valueOfDigits_append_singleton, ih, valueOfDigits_append_singleton,
        List.length_append, List.length_singleton, pow_succ]
      ring

theorem valueOfDigits_lt {digits : Text} (h : ∀ c ∈ digits, c.isDigit = true) :
    valueOfDigits digits < 10 ^ digits.length := by
  induction digits using List.reverseRecOn with
  | nil => simp [valueOfDigits, valueOfDigitsFrom]
  | append_singleton digits c ih =>
      have hlt := ih fun d hd => h d (List.mem_append_left _ hd)
      have hc := digitValue_lt (h c (by simp))
      rw [valueOfDigits_append_singleton, List.length_append, List.length_singleton, pow_succ]
      omega

theorem valueOfDigits_replicate_zero (zeros : Nat) :
    valueOfDigits (List.replicate zeros '0') = 0 := by
  induction zeros with
  | zero => rfl
  | succ zeros ih =>
      rw [List.replicate_succ', valueOfDigits_append_singleton, ih]
      rfl

theorem ofNat_of_lt {n : Nat} (h : n < 10) : ofNat n = [digit n] := by
  rw [ofNat, if_pos h]

theorem ofNat_of_le {n : Nat} (h : 10 ≤ n) : ofNat n = ofNat (n / 10) ++ [digit n] := by
  rw [ofNat, if_neg (by omega)]

theorem digit_eq_digitChar (n : Nat) : digit n = Nat.digitChar (n % 10) := by
  have hdigits : ∀ m < 10, Char.ofNat (48 + m) = Nat.digitChar m := by decide
  exact hdigits (n % 10) (Nat.mod_lt n (by decide))

/-- The numeral is the decimal one. -/
theorem ofNat_eq_toDigits (n : Nat) : ofNat n = Nat.toDigits 10 n := by
  induction n using ofNat.induct with
  | case1 n h =>
      rw [ofNat_of_lt h, Nat.toDigits_of_lt_base h, digit_eq_digitChar, Nat.mod_eq_of_lt h]
  | case2 n h ih =>
      have hle : 10 ≤ n := Nat.not_lt.1 h
      rw [ofNat_of_le hle, Nat.toDigits_of_base_le (by decide) hle, ih, digit_eq_digitChar]

theorem isDigit_of_mem_ofNat (n : Nat) : ∀ c ∈ ofNat n, c.isDigit = true := by
  induction n using ofNat.induct with
  | case1 n h =>
      rw [ofNat_of_lt h]
      simp [isDigit_digit]
  | case2 n h ih =>
      rw [ofNat_of_le (by omega)]
      intro c hc
      rcases List.mem_append.1 hc with hc | hc
      · exact ih c hc
      · rw [List.mem_singleton.1 hc]
        exact isDigit_digit n

theorem ofNat_ne_nil (n : Nat) : ofNat n ≠ [] := by
  rw [ofNat]
  split <;> simp

theorem valueOfDigits_ofNat (n : Nat) : valueOfDigits (ofNat n) = n := by
  induction n using ofNat.induct with
  | case1 n h =>
      rw [ofNat_of_lt h, ← List.nil_append [digit n], valueOfDigits_append_singleton,
        digitValue_digit, Nat.mod_eq_of_lt h]
      exact Nat.zero_add n
  | case2 n h ih =>
      rw [ofNat_of_le (by omega), valueOfDigits_append_singleton, ih, digitValue_digit]
      omega

theorem eq_nil_of_ofNat_eq_cons {n : Nat} {t : Text} (h : ofNat n = '0' :: t) : t = [] := by
  induction n using ofNat.induct generalizing t with
  | case1 n hlt =>
      rw [ofNat_of_lt hlt, List.cons.injEq] at h
      exact h.2.symm
  | case2 n hle ih =>
      rw [ofNat_of_le (by omega)] at h
      obtain ⟨c, front, hfront⟩ := List.exists_cons_of_ne_nil (ofNat_ne_nil (n / 10))
      rw [hfront, List.cons_append, List.cons.injEq] at h
      obtain ⟨rfl, -⟩ := h
      -- then the places in front are one zero, but they are worth at least one
      have hvalue := valueOfDigits_ofNat (n / 10)
      rw [hfront, ih hfront] at hvalue
      change 0 = n / 10 at hvalue
      omega

theorem isNumeral_iff {t : Text} : isNumeral t = true ↔ t ≠ [] ∧ ∀ c ∈ t, c.isDigit = true := by
  simp [isNumeral]

theorem isNumeral_zeros_append_ofNat (zeros n : Nat) :
    isNumeral (List.replicate zeros '0' ++ ofNat n) = true := by
  refine isNumeral_iff.2 ⟨by simp [ofNat_ne_nil], fun c hc => ?_⟩
  rcases List.mem_append.1 hc with hc | hc
  · rw [List.eq_of_mem_replicate hc]
    decide
  · exact isDigit_of_mem_ofNat n c hc

/-- Zeros in front of a numeral change nothing about its value. -/
theorem toNat?_zeros_append_ofNat (zeros n : Nat) :
    toNat? (List.replicate zeros '0' ++ ofNat n) = some n := by
  rw [toNat?, if_pos (isNumeral_zeros_append_ofNat zeros n), valueOfDigits_append,
    valueOfDigits_replicate_zero, valueOfDigits_ofNat, Nat.zero_mul, Nat.zero_add]

theorem exists_zeros_of_digits {t : Text} (hne : t ≠ []) (h : ∀ c ∈ t, c.isDigit = true) :
    ∃ zeros, t = List.replicate zeros '0' ++ ofNat (valueOfDigits t) := by
  induction t using List.reverseRecOn with
  | nil => exact absurd rfl hne
  | append_singleton t c ih =>
      have hc : c.isDigit = true := h c (by simp)
      have hlt := digitValue_lt hc
      have hlast : digit (10 * valueOfDigits t + digitValue c) = c := digit_of_isDigit hc _
      rw [valueOfDigits_append_singleton]
      by_cases hnil : t = []
      · subst hnil
        refine ⟨0, ?_⟩
        have hsum : 10 * valueOfDigits [] + digitValue c < 10 := by
          rw [show valueOfDigits [] = 0 from rfl]
          omega
        rw [ofNat_of_lt hsum, hlast]
        rfl
      obtain ⟨zeros, hzeros⟩ := ih hnil fun d hd => h d (List.mem_append_left _ hd)
      by_cases hvalue : valueOfDigits t = 0
      · -- the digits before the last are all zeros
        refine ⟨zeros + 1, ?_⟩
        have hzero : ofNat 0 = ['0'] := by
          rw [ofNat_of_lt (by decide)]
          rfl
        rw [hvalue] at hzeros hlast ⊢
        rw [ofNat_of_lt (by omega), hlast, hzeros, hzero, List.replicate_succ']
      · refine ⟨zeros, ?_⟩
        have hfront : (10 * valueOfDigits t + digitValue c) / 10 = valueOfDigits t := by omega
        rw [ofNat_of_le (by omega), hfront, hlast, ← List.append_assoc, ← hzeros]

theorem toNat?_eq_some_iff_digits {t : Text} {n : Nat} :
    toNat? t = some n ↔ t ≠ [] ∧ (∀ c ∈ t, c.isDigit = true) ∧ valueOfDigits t = n := by
  rw [toNat?, Option.ite_none_right_eq_some, Option.some_inj, isNumeral_iff, and_assoc]

/-- A text has a value exactly if it is the canonical numeral of that value behind some zeros. -/
theorem toNat?_eq_some_iff {t : Text} {n : Nat} :
    toNat? t = some n ↔ ∃ zeros, t = List.replicate zeros '0' ++ ofNat n := by
  constructor
  · intro h
    obtain ⟨hne, hdigits, rfl⟩ := toNat?_eq_some_iff_digits.1 h
    exact exists_zeros_of_digits hne hdigits
  · rintro ⟨zeros, rfl⟩
    exact toNat?_zeros_append_ofNat zeros n

/-- One or more ASCII digits worth the number, behind at most one plus sign. -/
def Spells (t : Text) (n : Nat) : Prop :=
  ∃ digits, (t = digits ∨ t = '+' :: digits) ∧ digits ≠ [] ∧
    (∀ c ∈ digits, c.isDigit = true) ∧ valueOfDigits digits = n

theorem toNatSigned?_eq_some_iff {t : Text} {n : Nat} : toNatSigned? t = some n ↔ t.Spells n := by
  unfold toNatSigned?
  split
  case h_1 digits =>
    rw [toNat?_eq_some_iff_digits]
    constructor
    · exact fun h => ⟨digits, .inr rfl, h⟩
    · rintro ⟨digits', rfl | heq, hne, hdigits, hvalue⟩
      · exact absurd (hdigits '+' List.mem_cons_self) (by decide)
      · rw [(List.cons.inj heq).2]
        exact ⟨hne, hdigits, hvalue⟩
  case h_2 hplain =>
    rw [toNat?_eq_some_iff_digits]
    constructor
    · exact fun h => ⟨t, .inl rfl, h⟩
    · rintro ⟨digits, rfl | heq, h⟩
      · exact h
      · exact absurd heq (hplain digits)

theorem word64?_eq_some_iff {m : Nat} {n : UInt64} : word64? m = some n ↔ m = n.toNat := by
  rw [word64?, Option.dite_none_right_eq_some]
  constructor
  · rintro ⟨hlt, hn⟩
    rw [← Option.some.inj hn, UInt64.toNat_ofNatLT]
  · rintro rfl
    exact ⟨n.toNat_lt, by rw [UInt64.ofNatLT_toNat]⟩

end Precis.Text

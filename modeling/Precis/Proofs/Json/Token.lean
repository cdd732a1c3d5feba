import Mathlib.Data.List.TakeWhile
import Precis.Json.Printer
import Precis.Json.Token
import Precis.Proofs.Text.Numeral
import Precis.Proofs.Text.Utf8

/-!
Tokens that were printed. A quoted text and a numeral are read back as one token, whatever stands
behind them, so long as nothing behind a numeral continues it.
-/

namespace Precis.Json.Token

/-! ## Strings -/

theorem codeUnit?_of_control : ∀ n < 0x20,
    codeUnit? '0' '0' (Text.hexDigit (n / 16)) (Text.hexDigit (n % 16)) = some n := by
  decide

theorem codePoints?_of_plain {c : Char} (hquote : c ≠ '"') (hslash : c ≠ '\\')
    (hlow : ¬ c.toNat < 0x20) (t : Text) :
    codePoints? (c :: t) = (codePoints? t).map fun (ns, left) => (c.toNat :: ns, left) := by
  rw [codePoints?]
  · rw [if_neg (by simp [hslash, hlow])]
    cases codePoints? t <;> rfl
  all_goals simp [hquote, hslash]

/-- An escape stands for the character that it was written for. -/
theorem codePoints?_escape (c : Char) (t : Text) :
    codePoints? (escape c ++ t) =
      (codePoints? t).map fun (ns, left) => (c.toNat :: ns, left) := by
  have hshort : ∀ e, e ≠ 'u' → escaped? e = some c →
      codePoints? (['\\', e] ++ t) =
        (codePoints? t).map fun (ns, left) => (c.toNat :: ns, left) := by
    intro e hu he
    rw [List.cons_append, List.singleton_append, codePoints?, he]
    · cases codePoints? t <;> rfl
    · simp [hu]
  unfold escape
  split_ifs with hquote hslash hb hf hn hr ht hlow
  case pos | pos | pos | pos | pos | pos | pos => subst c; exact hshort _ (by decide) rfl
  case pos =>
    simp only [List.cons_append, List.nil_append, codePoints?, codeUnit?_of_control _ hlow]
    cases codePoints? t <;> rfl
  case neg => exact codePoints?_of_plain hquote hslash hlow t

theorem codePoints?_quoted (t rest : Text) :
    codePoints? (t.flatMap escape ++ '"' :: rest) = some (t.map Char.toNat, rest) := by
  induction t with
  | nil => rw [List.flatMap_nil, List.nil_append, codePoints?, List.map_nil]
  | cons c t ih =>
      rw [List.flatMap_cons, List.append_assoc, codePoints?_escape, ih]
      rfl

/-- No character is half of a surrogate pair. -/
theorem not_surrogate (c : Char) : isLeading c.toNat = false ∧ isTrailing c.toNat = false := by
  have hvalid := Utf8.isValidChar_toNat c
  simp only [isLeading, isTrailing, Bool.and_eq_false_iff, decide_eq_false_iff_not]
  simp only [Nat.isValidChar] at hvalid
  omega

theorem joinPairs?_map_toNat (t : Text) : joinPairs? (t.map Char.toNat) = some t := by
  induction t with
  | nil => rfl
  | cons c t ih =>
      obtain ⟨hleading, htrailing⟩ := not_surrogate c
      cases t with
      | nil => simp [joinPairs?, hleading, htrailing]
      | cons d t =>
          rw [List.map_cons, List.map_cons, joinPairs?, hleading, htrailing, ← List.map_cons, ih]
          simp

theorem next?_quote (t rest : Text) :
    next? (quote t ++ rest) = some (.string (some t), rest) := by
  rw [quote, List.cons_append, List.append_assoc, List.singleton_append, next?,
    codePoints?_quoted]
  simp only [Option.map_some, joinPairs?_map_toNat]

/-! ## Numbers -/

inductive IsNumber : Token → Prop
  | natural (n : Nat) : IsNumber (.natural n)
  | number (written : Text) : IsNumber (.number written)

/-- Nothing that continues a number stands in front. -/
def EndsNumber (t : Text) : Prop :=
  ∀ c ∈ t.head?, c.isDigit = false ∧ c ≠ '.' ∧ c ≠ 'e' ∧ c ≠ 'E'

variable {t left rest ds : Text} {token : Token}

/-- The longest run of digits in front. -/
theorem digits?_eq_some_iff :
    digits? t = some (ds, left) ↔
      t = ds ++ left ∧ ds ≠ [] ∧ (∀ c ∈ ds, c.isDigit = true) ∧
        ∀ c ∈ left.head?, c.isDigit = false := by
  constructor
  · intro h
    unfold digits? at h
    split at h
    · simp at h
    · next hne =>
      obtain ⟨rfl, rfl⟩ := by simpa using h
      refine ⟨List.takeWhile_append_dropWhile.symm, hne, fun c hc => List.mem_takeWhile_imp hc, ?_⟩
      intro c hc
      have hnot := List.head?_dropWhile_not Char.isDigit t
      rw [Option.mem_def.1 hc] at hnot
      exact hnot
  · rintro ⟨rfl, hne, hds, hleft⟩
    have hend : left.takeWhile Char.isDigit = [] ∧ left.dropWhile Char.isDigit = left := by
      cases left with
      | nil => exact ⟨rfl, rfl⟩
      | cons c left => simp [hleft c rfl]
    rw [digits?, List.takeWhile_append_of_pos hds, List.dropWhile_append_of_pos hds, hend.1, hend.2,
      List.append_nil]
    cases ds with
    | nil => exact absurd rfl hne
    | cons d ds => rfl

theorem digits?_append (h : digits? t = some (ds, left)) (hrest : EndsNumber rest) :
    digits? (t ++ rest) = some (ds, left ++ rest) := by
  obtain ⟨rfl, hne, hds, hleft⟩ := digits?_eq_some_iff.1 h
  refine digits?_eq_some_iff.2 ⟨List.append_assoc ds left rest, hne, hds, ?_⟩
  cases left with
  | nil => exact fun c hc => (hrest c hc).1
  | cons _ _ => exact hleft

theorem wholePart?_append (h : wholePart? t = some (ds, left)) (hrest : EndsNumber rest) :
    wholePart? (t ++ rest) = some (ds, left ++ rest) := by
  unfold wholePart? at h
  split at h
  · obtain ⟨rfl, rfl⟩ := by simpa using h
    rfl
  · next hzero =>
    have hdigits := digits?_append h hrest
    rw [wholePart?]
    · exact hdigits
    · rintro tail heq
      cases t with
      | nil => simp [digits?] at h
      | cons c t =>
          rw [List.cons_append, List.cons.injEq] at heq
          exact hzero t (by rw [heq.1])

theorem fraction?_append (h : fraction? t = some (ds, left)) (hrest : EndsNumber rest) :
    fraction? (t ++ rest) = some (ds, left ++ rest) := by
  unfold fraction? at h
  split at h
  · next tail =>
    obtain ⟨⟨ds', left'⟩, hdigits, heq⟩ := Option.map_eq_some_iff.1 h
    obtain ⟨rfl, rfl⟩ := by simpa using heq
    rw [List.cons_append, fraction?, digits?_append hdigits hrest]
    rfl
  · next hpoint =>
    obtain ⟨rfl, rfl⟩ := by simpa using h
    rw [fraction?]
    rintro tail heq
    cases t with
    | nil => exact (hrest '.' (by rw [show rest = _ from heq]; rfl)).2.1 rfl
    | cons c t =>
        rw [List.cons_append, List.cons.injEq] at heq
        exact hpoint t (by rw [heq.1])

theorem exponentSign_append (hne : t ≠ []) :
    exponentSign (t ++ rest) = ((exponentSign t).1, (exponentSign t).2 ++ rest) := by
  cases t with
  | nil => exact absurd rfl hne
  | cons c t =>
      unfold exponentSign
      split <;> simp_all

theorem exponent?_append (h : exponent? t = some (ds, left)) (hrest : EndsNumber rest) :
    exponent? (t ++ rest) = some (ds, left ++ rest) := by
  cases t with
  | nil =>
      obtain ⟨rfl, rfl⟩ := by simpa [exponent?] using h
      cases rest with
      | nil => rfl
      | cons c rest =>
          obtain ⟨-, -, hlower, hupper⟩ := hrest c rfl
          simp [exponent?, hlower, hupper]
  | cons c t =>
      rw [exponent?] at h
      rw [List.cons_append, exponent?]
      split_ifs at h ⊢
      · obtain ⟨⟨ds', left'⟩, hdigits, heq⟩ := Option.map_eq_some_iff.1 h
        obtain ⟨rfl, rfl⟩ := by simpa using heq
        have hne : t ≠ [] := by
          rintro rfl
          simp [exponentSign, digits?] at hdigits
        simp only [exponentSign_append hne, digits?_append hdigits hrest, Option.map_some,
          List.cons_append]
      · obtain ⟨rfl, rfl⟩ := by simpa using h
        rfl

theorem unsigned?_append (h : unsigned? t = some (token, left)) (hrest : EndsNumber rest) :
    unsigned? (t ++ rest) = some (token, left ++ rest) := by
  unfold unsigned? at h
  simp only [bind, Option.bind_eq_some_iff, Prod.exists] at h
  obtain ⟨whole, a, hwhole, fraction, b, hfraction, exponent, c, hexponent, h⟩ := h
  rw [unsigned?, wholePart?_append hwhole hrest]
  simp only [bind, Option.bind_some, fraction?_append hfraction hrest,
    exponent?_append hexponent hrest]
  split at h <;> simp_all [pure]

theorem signed?_append (h : signed? t = some (token, left)) (hrest : EndsNumber rest) :
    signed? (t ++ rest) = some (token, left ++ rest) := by
  unfold signed? at h
  split at h
  · next hu =>
    obtain ⟨rfl, rfl⟩ := by simpa using h
    rw [signed?, unsigned?_append hu hrest]
  · next hu =>
    obtain ⟨rfl, rfl⟩ := by simpa using h
    rw [signed?, unsigned?_append hu hrest]
  · simp at h

theorem exists_digit_of_unsigned? (h : unsigned? t = some (token, left)) :
    ∃ c tail, t = c :: tail ∧ c.isDigit = true := by
  have hwhole : wholePart? t ≠ none := by
    intro hnone
    rw [unsigned?, hnone] at h
    simp at h
  unfold wholePart? at hwhole
  split at hwhole
  · exact ⟨_, _, rfl, by decide⟩
  · cases t with
    | nil => simp [digits?] at hwhole
    | cons c tail =>
        refine ⟨c, tail, rfl, ?_⟩
        by_contra hdigit
        simp [digits?, hdigit] at hwhole

theorem not_isSpace_of_next? {c : Char} (h : next? (c :: t) = some (token, left)) :
    isSpace c = false := by
  have hunsigned : ∀ d : Char, d.isDigit = false → unsigned? (d :: t) ≠ some (token, left) := by
    intro d hd hsome
    obtain ⟨_, _, heq, hdigit⟩ := exists_digit_of_unsigned? hsome
    obtain ⟨rfl, -⟩ := List.cons.inj heq
    rw [hd] at hdigit
    cases hdigit
  by_contra hspace
  simp only [isSpace, Bool.not_eq_false, Bool.or_eq_true, decide_eq_true_eq] at hspace
  obtain ((rfl | rfl) | rfl) | rfl := hspace
  all_goals exact hunsigned _ (by decide) h

theorem next?_of_isDigit {c : Char} (h : c.isDigit = true) (t : Text) :
    next? (c :: t) = unsigned? (c :: t) := by
  have hne : ∀ d : Char, d.isDigit = false → c ≠ d := by
    rintro d hd rfl
    rw [h] at hd
    cases hd
  rw [next?] <;> intros <;> simp_all

/-- A number at the start of a text is the same number if more stands behind it. -/
theorem next?_append (h : next? t = some (token, left)) (htoken : IsNumber token)
    (hrest : EndsNumber rest) : next? (t ++ rest) = some (token, left ++ rest) := by
  unfold next? at h
  split at h
  case h_12 t => rw [List.cons_append, next?, signed?_append h hrest]
  case h_13 =>
    obtain ⟨c, tail, rfl, hdigit⟩ := exists_digit_of_unsigned? h
    rw [List.cons_append, next?_of_isDigit hdigit, ← List.cons_append, unsigned?_append h hrest]
  case h_11 t =>
    obtain ⟨⟨ns, left'⟩, -, heq⟩ := Option.map_eq_some_iff.1 h
    obtain ⟨rfl, -⟩ := by simpa using heq
    cases htoken
  case h_1 => simp at h
  all_goals
    obtain ⟨rfl, -⟩ := by simpa using h
    cases htoken

theorem wholePart?_ofNat (n : Nat) : wholePart? (Text.ofNat n) = some (Text.ofNat n, []) := by
  unfold wholePart?
  split
  · next rest heq =>
    obtain rfl := Text.eq_nil_of_ofNat_eq_cons heq
    rw [heq]
  · exact digits?_eq_some_iff.2
      ⟨(List.append_nil _).symm, Text.ofNat_ne_nil n, Text.isDigit_of_mem_ofNat n, nofun⟩

theorem next?_ofNat (n : Nat) : next? (Text.ofNat n) = some (.natural n, []) := by
  obtain ⟨c, tail, hofNat⟩ := List.exists_cons_of_ne_nil (Text.ofNat_ne_nil n)
  have hdigit : c.isDigit = true := Text.isDigit_of_mem_ofNat n c (by rw [hofNat]; simp)
  rw [hofNat, next?_of_isDigit hdigit, ← hofNat, unsigned?, wholePart?_ofNat]
  simp [fraction?, exponent?, Text.valueOfDigits_ofNat]

end Precis.Json.Token

import Mathlib.Algebra.Group.Nat.Defs
import Mathlib.Tactic.SplitIfs
import Precis.Text.Utf8

/-!
Decoding is the inverse of encoding. A character is told from bytes exactly if they start with its
encoding, so a byte string without faults is the encoding of its text and of no other. Behind the
first byte the digits of the code point follow to the base 64.
-/

namespace Precis.Utf8

def encode (t : Text) : Bytes :=
  t.flatMap String.utf8EncodeChar

/-- The last digits of a code point to the base 64, as bytes that follow in a character. -/
def followers (n : Nat) : Nat → Bytes
  | 0 => []
  | count + 1 => UInt8.ofNat (0x80 + n / 64 ^ count % 64) :: followers n count

/-- The bounds of the second byte, if there is one. -/
def InBounds (n low high : Nat) : Nat → Prop
  | 0 => True
  | count + 1 => low ≤ 0x80 + n / 64 ^ count % 64 ∧ 0x80 + n / 64 ^ count % 64 ≤ high

theorem toNat_follower (n : Nat) : (UInt8.ofNat (0x80 + n % 64)).toNat = 0x80 + n % 64 := by
  rw [UInt8.toNat_ofNat']
  omega

theorem div_pow_succ (n count : Nat) : n / 64 ^ (count + 1) = n / 64 ^ count / 64 := by
  rw [Nat.pow_succ, Nat.div_div_eq_div_mul]

theorem inBounds_all (n count : Nat) : InBounds n 0x80 0xBF count := by
  cases count with
  | zero => trivial
  | succ count => exact ⟨by omega, by omega⟩

theorem follow_followers {n low high count : Nat} (h : InBounds n low high count) (rest : Bytes) :
    follow (n / 64 ^ count) low high count (followers n count ++ rest) =
      (some (Char.ofNat n), rest) := by
  induction count generalizing low high with
  | zero => simp [follow, followers]
  | succ count ih =>
      have hvalue : n / 64 ^ (count + 1) * 64 + (0x80 + n / 64 ^ count % 64 - 0x80) =
          n / 64 ^ count := by
        rw [div_pow_succ]
        omega
      rw [InBounds] at h
      rw [followers, List.cons_append, follow, toNat_follower, if_pos h, hvalue]
      exact ih (inBounds_all n count)

theorem exists_of_follow {value low high count : Nat} {bytes rest : Bytes} {c : Char}
    (hlow : 0x80 ≤ low) (hhigh : high ≤ 0xBF)
    (h : follow value low high count bytes = (some c, rest)) :
    ∃ n, n / 64 ^ count = value ∧ InBounds n low high count ∧ c = Char.ofNat n ∧
      bytes = followers n count ++ rest := by
  induction count generalizing value low high bytes with
  | zero =>
      simp only [follow, Prod.mk.injEq, Option.some.injEq] at h
      obtain ⟨rfl, rfl⟩ := h
      exact ⟨value, by simp, trivial, rfl, rfl⟩
  | succ count ih =>
      cases bytes with
      | nil => simp [follow] at h
      | cons b bytes =>
          rw [follow] at h
          split at h
          · next hb =>
            obtain ⟨n, hn, -, hc, rfl⟩ := ih (Nat.le_refl _) (Nat.le_refl _) h
            have hdigit : 0x80 + n / 64 ^ count % 64 = b.toNat := by omega
            refine ⟨n, ?_, ?_, hc, ?_⟩
            · rw [div_pow_succ]
              omega
            · rwa [InBounds, hdigit]
            · rw [followers, hdigit, UInt8.ofNat_toNat, List.cons_append]
          · simp at h

/-- The forms of a character with more than one byte. -/
inductive Form where
  | two
  | three
  | four

namespace Form

def count : Form → Nat
  | two => 1
  | three => 2
  | four => 3

/-- What the first byte has besides the leading digits. -/
def mark : Form → Nat
  | two => 0xC0
  | three => 0xE0
  | four => 0xF0

/-- The leading digits that the form has room for and is not too long for. -/
def Leads : Form → Nat → Prop
  | two, digits => 2 ≤ digits ∧ digits < 32
  | three, digits => digits < 16
  | four, digits => digits < 5

/-- The least second byte behind the leading digits; less would do with a shorter form. -/
def low : Form → Nat → Nat
  | two, _ => 0x80
  | three, digits => if digits = 0 then 0xA0 else 0x80
  | four, digits => if digits = 0 then 0x90 else 0x80

/-- The greatest second byte behind the leading digits; more is a surrogate or beyond Unicode. -/
def high : Form → Nat → Nat
  | two, _ => 0xBF
  | three, digits => if digits = 13 then 0x9F else 0xBF
  | four, digits => if digits = 4 then 0x8F else 0xBF

/-- The code points that are written in the form. -/
def Writes : Form → Nat → Prop
  | two, n => 0x80 ≤ n ∧ n < 0x800
  | three, n => 0x800 ≤ n ∧ n < 0x10000
  | four, n => 0x10000 ≤ n

theorem le_low (f : Form) (digits : Nat) : 0x80 ≤ f.low digits := by
  cases f with
  | two => exact Nat.le_refl _
  | three =>
      rw [low]
      split <;> omega
  | four =>
      rw [low]
      split <;> omega

theorem high_le (f : Form) (digits : Nat) : f.high digits ≤ 0xBF := by
  cases f with
  | two => exact Nat.le_refl _
  | three =>
      rw [high]
      split <;> omega
  | four =>
      rw [high]
      split <;> omega

theorem bounds (f : Form) {digits : Nat} (h : f.Leads digits) :
    0x80 ≤ f.mark + digits ∧ f.mark + digits < 0x100 := by
  cases f <;> rw [Leads] at h <;> rw [mark] <;> omega

theorem lead?_eq (f : Form) {digits : Nat} (h : f.Leads digits) :
    lead? (f.mark + digits) = some (digits, f.count, f.low digits, f.high digits) := by
  cases f with
  | two =>
      have htable : ∀ v : Fin 32, 2 ≤ v.val →
          lead? (0xC0 + v) = some (v.val, 1, 0x80, 0xBF) := by decide
      exact htable ⟨digits, h.2⟩ h.1
  | three =>
      have htable : ∀ v < 16, lead? (0xE0 + v) = some (v, 2, low three v, high three v) := by decide
      exact htable digits h
  | four =>
      have htable : ∀ v < 5, lead? (0xF0 + v) = some (v, 3, low four v, high four v) := by decide
      exact htable digits h

/-- The bounds of the second byte shut out what is no character and what is not written in the
form. -/
theorem writes_iff (f : Form) (n : Nat) :
    f.Writes n ∧ n.isValidChar ↔ f.Leads (n / 64 ^ f.count) ∧
      InBounds n (f.low (n / 64 ^ f.count)) (f.high (n / 64 ^ f.count)) f.count := by
  cases f with
  | two =>
      simp only [Writes, Leads, InBounds, low, high, count, Nat.isValidChar]
      omega
  | three =>
      change (0x800 ≤ n ∧ n < 0x10000) ∧ n.isValidChar ↔ n / 64 ^ 2 < 16 ∧
        (if n / 64 ^ 2 = 0 then 0xA0 else 0x80) ≤ 0x80 + n / 64 ^ 1 % 64 ∧
        0x80 + n / 64 ^ 1 % 64 ≤ if n / 64 ^ 2 = 13 then 0x9F else 0xBF
      split_ifs <;> omega
  | four =>
      change 0x10000 ≤ n ∧ n.isValidChar ↔ n / 64 ^ 3 < 5 ∧
        (if n / 64 ^ 3 = 0 then 0x90 else 0x80) ≤ 0x80 + n / 64 ^ 2 % 64 ∧
        0x80 + n / 64 ^ 2 % 64 ≤ if n / 64 ^ 3 = 4 then 0x8F else 0xBF
      split_ifs <;> omega

theorem exists_writes {n : Nat} (h : 0x80 ≤ n) : ∃ f : Form, f.Writes n := by
  rcases Nat.lt_or_ge n 0x800 with htwo | htwo
  · exact ⟨two, h, htwo⟩
  · rcases Nat.lt_or_ge n 0x10000 with hthree | hthree
    · exact ⟨three, htwo, hthree⟩
    · exact ⟨four, hthree⟩

theorem exists_leads {b : Nat} (hlow : 0xC2 ≤ b) (hhigh : b < 0xF5) :
    ∃ f : Form, ∃ digits, f.Leads digits ∧ b = f.mark + digits := by
  rcases Nat.lt_or_ge b 0xE0 with htwo | htwo
  · exact ⟨two, b - 0xC0, ⟨by omega, by omega⟩, by rw [mark]; omega⟩
  · rcases Nat.lt_or_ge b 0xF0 with hthree | hthree
    · exact ⟨three, b - 0xE0, by rw [Leads]; omega, by rw [mark]; omega⟩
    · exact ⟨four, b - 0xF0, by rw [Leads]; omega, by rw [mark]; omega⟩

end Form

theorem lead?_eq_some_iff {b value count low high : Nat} :
    lead? b = some (value, count, low, high) ↔ ∃ f : Form, f.Leads value ∧ b = f.mark + value ∧
      count = f.count ∧ low = f.low value ∧ high = f.high value := by
  constructor
  · intro h
    have hlow : 0xC2 ≤ b := by
      refine Nat.le_of_not_lt fun hlt => ?_
      rw [lead?, if_pos hlt] at h
      simp at h
    have hhigh : b < 0xF5 := by
      refine Nat.lt_of_not_le fun hle => ?_
      simp (disch := omega) only [lead?, if_neg, reduceCtorEq] at h
    obtain ⟨f, digits, hleads, rfl⟩ := Form.exists_leads hlow hhigh
    rw [f.lead?_eq hleads] at h
    simp only [Option.some.injEq, Prod.mk.injEq] at h
    obtain ⟨rfl, rfl, rfl, rfl⟩ := h
    exact ⟨f, hleads, rfl, rfl, rfl, rfl⟩
  · rintro ⟨f, hleads, rfl, rfl, rfl, rfl⟩
    exact f.lead?_eq hleads

theorem isValidChar_toNat (c : Char) : c.toNat.isValidChar :=
  c.valid

theorem toNat_ofNat {n : Nat} (h : n.isValidChar) : (Char.ofNat n).toNat = n := by
  rw [Char.ofNat, dif_pos h]
  rfl

theorem utf8EncodeChar_of_lt {c : Char} (h : c.toNat < 0x80) :
    String.utf8EncodeChar c = [UInt8.ofNat c.toNat] :=
  if_pos (Nat.le_of_lt_succ h)

/-- The first byte of a longer character tells how many follow and holds what they do not. -/
theorem utf8EncodeChar_of_writes {c : Char} {f : Form} (h : f.Writes c.toNat) :
    String.utf8EncodeChar c =
      UInt8.ofNat (f.mark + c.toNat / 64 ^ f.count) :: followers c.toNat f.count := by
  have hvalid := isValidChar_toNat c
  have hval : c.val.toNat = c.toNat := rfl
  cases f with
  | two =>
      obtain ⟨hlow, hhigh⟩ := h
      simp (disch := omega) only [String.utf8EncodeChar, hval, if_neg, if_pos, Form.mark, Form.count,
        followers, List.cons.injEq, and_true]
      exact ⟨congrArg _ (by omega), congrArg _ (by omega)⟩
  | three =>
      obtain ⟨hlow, hhigh⟩ := h
      simp (disch := omega) only [String.utf8EncodeChar, hval, if_neg, if_pos, Form.mark, Form.count,
        followers, List.cons.injEq, and_true]
      exact ⟨congrArg _ (by omega), congrArg _ (by omega), congrArg _ (by omega)⟩
  | four =>
      replace h : 0x10000 ≤ c.toNat := h
      simp (disch := omega) only [String.utf8EncodeChar, hval, if_neg, Form.mark, Form.count,
        followers, List.cons.injEq, and_true]
      exact ⟨congrArg _ (by omega), congrArg _ (by omega), congrArg _ (by omega),
        congrArg _ (by omega)⟩

theorem next_eq_some_iff {b : UInt8} {bytes rest : Bytes} {c : Char} :
    next b bytes = (some c, rest) ↔ b :: bytes = String.utf8EncodeChar c ++ rest := by
  constructor
  · intro h
    unfold next at h
    split at h
    · next hb =>
      simp only [Prod.mk.injEq, Option.some.injEq] at h
      obtain ⟨rfl, rfl⟩ := h
      have hnat : (Char.ofNat b.toNat).toNat = b.toNat := toNat_ofNat (.inl (by omega))
      rw [utf8EncodeChar_of_lt (by omega), hnat, UInt8.ofNat_toNat, List.singleton_append]
    · split at h
      · simp at h
      · next value count low high hlead =>
        obtain ⟨f, hleads, hb, rfl, rfl, rfl⟩ := lead?_eq_some_iff.1 hlead
        obtain ⟨n, rfl, hbounds, rfl, rfl⟩ := exists_of_follow (f.le_low _) (f.high_le _) h
        obtain ⟨hwrites, hvalid⟩ := (f.writes_iff n).2 ⟨hleads, hbounds⟩
        rw [← toNat_ofNat hvalid] at hwrites
        rw [utf8EncodeChar_of_writes hwrites, toNat_ofNat hvalid, ← hb, UInt8.ofNat_toNat,
          List.cons_append]
  · intro h
    rcases Nat.lt_or_ge c.toNat 0x80 with hshort | hlong
    · rw [utf8EncodeChar_of_lt hshort, List.singleton_append, List.cons.injEq] at h
      obtain ⟨rfl, rfl⟩ := h
      have hb : (UInt8.ofNat c.toNat).toNat = c.toNat := by
        rw [UInt8.toNat_ofNat']
        omega
      rw [next, hb, if_pos hshort, Char.ofNat_toNat]
    · obtain ⟨f, hwrites⟩ := Form.exists_writes hlong
      obtain ⟨hleads, hbounds⟩ := (f.writes_iff c.toNat).1 ⟨hwrites, isValidChar_toNat c⟩
      obtain ⟨hbelow, habove⟩ := f.bounds hleads
      rw [utf8EncodeChar_of_writes hwrites, List.cons_append, List.cons.injEq] at h
      obtain ⟨rfl, rfl⟩ := h
      have hb : (UInt8.ofNat (f.mark + c.toNat / 64 ^ f.count)).toNat =
          f.mark + c.toNat / 64 ^ f.count := by
        rw [UInt8.toNat_ofNat']
        omega
      rw [next, hb, if_neg (Nat.not_lt.2 hbelow), f.lead?_eq hleads]
      simp only
      rw [follow_followers hbounds, Char.ofNat_toNat]

theorem mapM_id_eq_some_iff {cs : List (Option Char)} {t : Text} :
    cs.mapM id = some t ↔ cs = t.map some := by
  induction cs generalizing t with
  | nil => cases t <;> simp
  | cons c cs ih =>
      cases c with
      | none => cases t <;> simp
      | some c =>
          cases t with
          | nil => simp [Option.bind_eq_some_iff]
          | cons d t => simpa [Option.bind_eq_some_iff, ih] using and_comm

theorem encode_cons (c : Char) (t : Text) :
    encode (c :: t) = String.utf8EncodeChar c ++ encode t :=
  List.flatMap_cons

theorem encode_cons_ne_nil (c : Char) (t : Text) : encode (c :: t) ≠ [] := by
  simp [encode_cons, String.utf8EncodeChar_ne_nil]

theorem characters_eq_map_some_iff {bytes : Bytes} {t : Text} :
    characters bytes = t.map some ↔ bytes = encode t := by
  induction t generalizing bytes with
  | nil => cases bytes <;> simp [characters, encode]
  | cons c t ih =>
      cases bytes with
      | nil => simpa [characters] using (encode_cons_ne_nil c t).symm
      | cons b bytes =>
          rw [characters, List.map_cons, List.cons.injEq, ih, encode_cons, ← next_eq_some_iff]
          simp only [Prod.ext_iff]

/-- Only the encoding of a text is decoded to it without a fault. -/
theorem decode?_eq_some_iff {bytes : Bytes} {t : Text} :
    decode? bytes = some t ↔ bytes = encode t := by
  rw [decode?, mapM_id_eq_some_iff, characters_eq_map_some_iff]

theorem decode?_eq_none_iff {bytes : Bytes} :
    decode? bytes = none ↔ ∀ t, bytes ≠ encode t := by
  simp only [Option.eq_none_iff_forall_ne_some, Ne, decode?_eq_some_iff]

theorem decodeLossy_encode (t : Text) : decodeLossy (encode t) = t := by
  rw [decodeLossy, characters_eq_map_some_iff.2 rfl, List.map_map]
  exact List.map_id t

end Precis.Utf8

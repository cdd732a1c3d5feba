import Precis.Json.Basic

/-!
The tokens of JSON text. Numbers have no superfluous zero in front, strings no bare control
character, and nothing stands between tokens but the four characters of JSON's white space.
-/

namespace Precis.Json

inductive Token where
  | openArray
  | closeArray
  | openObject
  | closeObject
  | colon
  | comma
  | null
  | bool (b : Bool)
  | natural (n : Nat)
  | number (written : Text)
  /-- A string without its escapes; nothing if it escapes half a surrogate pair. -/
  | string (t : Option Text)

namespace Token

def isSpace (c : Char) : Bool :=
  c = ' ' || c = '\t' || c = '\n' || c = '\r'

def escaped? : Char → Option Char
  | '"' => some '"'
  | '\\' => some '\\'
  | '/' => some '/'
  | 'b' => some '\x08'
  | 'f' => some '\x0C'
  | 'n' => some '\n'
  | 'r' => some '\r'
  | 't' => some '\t'
  | _ => none

def codeUnit? (a b c d : Char) : Option Nat := do
  let a ← Text.hexValue? a
  let b ← Text.hexValue? b
  let c ← Text.hexValue? c
  let d ← Text.hexValue? d
  return ((a * 16 + b) * 16 + c) * 16 + d

/-- The code points of a string up to its closing quote, and the text behind it. Surrogates that
were escaped are still apart. -/
def codePoints? : Text → Option (List Nat × Text)
  | [] => none
  | '"' :: rest => some ([], rest)
  | '\\' :: 'u' :: a :: b :: c :: d :: rest =>
      match codeUnit? a b c d, codePoints? rest with
      | some n, some (ns, left) => some (n :: ns, left)
      | _, _ => none
  | '\\' :: c :: rest =>
      match escaped? c, codePoints? rest with
      | some e, some (ns, left) => some (e.toNat :: ns, left)
      | _, _ => none
  | c :: rest =>
      if c = '\\' ∨ c.toNat < 0x20 then none
      else match codePoints? rest with
        | some (ns, left) => some (c.toNat :: ns, left)
        | none => none

def isLeading (n : Nat) : Bool :=
  decide (0xD800 ≤ n) && decide (n < 0xDC00)

def isTrailing (n : Nat) : Bool :=
  decide (0xDC00 ≤ n) && decide (n < 0xE000)

/-- Joins surrogate pairs; a surrogate without its partner makes no text. -/
def joinPairs? : List Nat → Option Text
  | [] => some []
  | [n] => if isLeading n || isTrailing n then none else some [Char.ofNat n]
  | n :: m :: rest =>
      if isLeading n then
        if isTrailing m then
          (joinPairs? rest).map (Char.ofNat (0x10000 + (n - 0xD800) * 0x400 + (m - 0xDC00)) :: ·)
        else none
      else if isTrailing n then none
      else (joinPairs? (m :: rest)).map (Char.ofNat n :: ·)

def digits? (t : Text) : Option (Text × Text) :=
  match t.takeWhile Char.isDigit with
  | [] => none
  | ds => some (ds, t.dropWhile Char.isDigit)

/-- The whole part of a number: a zero alone, or digits of which the first is no zero. -/
def wholePart? : Text → Option (Text × Text)
  | '0' :: rest => some (['0'], rest)
  | t => digits? t

/-- The digits behind a point; without a point there is no such part. -/
def fraction? : Text → Option (Text × Text)
  | '.' :: rest => (digits? rest).map fun (ds, left) => ('.' :: ds, left)
  | t => some ([], t)

def exponentSign : Text → Text × Text
  | '+' :: rest => (['+'], rest)
  | '-' :: rest => (['-'], rest)
  | t => ([], t)

def exponent? : Text → Option (Text × Text)
  | c :: rest =>
      if c = 'e' ∨ c = 'E' then
        let signed := exponentSign rest
        (digits? signed.2).map fun (ds, left) => (c :: signed.1 ++ ds, left)
      else some ([], c :: rest)
  | [] => some ([], [])

def unsigned? (t : Text) : Option (Token × Text) := do
  let (whole, rest) ← wholePart? t
  let (fraction, rest) ← fraction? rest
  let (exponent, rest) ← exponent? rest
  if fraction.isEmpty && exponent.isEmpty then
    return (.natural (Text.valueOfDigits whole), rest)
  else
    return (.number (whole ++ fraction ++ exponent), rest)

def signed? (t : Text) : Option (Token × Text) :=
  match unsigned? t with
  | some (.natural n, rest) => some (.number ('-' :: Text.ofNat n), rest)
  | some (.number written, rest) => some (.number ('-' :: written), rest)
  | _ => none

/-- The token that the text starts with, and the text behind it. -/
def next? : Text → Option (Token × Text)
  | [] => none
  | '[' :: rest => some (.openArray, rest)
  | ']' :: rest => some (.closeArray, rest)
  | '\x7b' :: rest => some (.openObject, rest)
  | '\x7d' :: rest => some (.closeObject, rest)
  | ':' :: rest => some (.colon, rest)
  | ',' :: rest => some (.comma, rest)
  | 'n' :: 'u' :: 'l' :: 'l' :: rest => some (.null, rest)
  | 't' :: 'r' :: 'u' :: 'e' :: rest => some (.bool true, rest)
  | 'f' :: 'a' :: 'l' :: 's' :: 'e' :: rest => some (.bool false, rest)
  | '"' :: rest => (codePoints? rest).map fun (ns, left) => (.string (joinPairs? ns), left)
  | '-' :: rest => signed? rest
  | t => unsigned? t

theorem length_of_codePoints? {t left : Text} {ns : List Nat}
    (h : codePoints? t = some (ns, left)) : left.length < t.length := by
  fun_induction codePoints? t generalizing ns left with
  | case1 => simp at h
  | case2 => simp_all
  | case3 a b c d rest n ns' left' hr _ ih =>
      have := ih hr
      simp_all; omega
  | case4 => simp at h
  | case5 c rest _ e ns' left' hr _ ih =>
      have := ih hr
      simp_all; omega
  | case6 => simp at h
  | case7 => simp at h
  | case8 c rest _ _ _ _ ns' left' hr ih =>
      have := ih hr
      simp_all; omega
  | case9 => simp at h

theorem length_of_digits? {t ds left : Text} (h : digits? t = some (ds, left)) :
    left.length < t.length := by
  unfold digits? at h
  split at h
  · simp at h
  · next hne =>
    obtain ⟨rfl, rfl⟩ := by simpa using h
    have hl := congrArg List.length (List.takeWhile_append_dropWhile (p := Char.isDigit) (l := t))
    simp only [List.length_append] at hl
    have : 0 < (t.takeWhile Char.isDigit).length := List.length_pos_iff.2 hne
    omega

theorem length_of_wholePart? {t ds left : Text} (h : wholePart? t = some (ds, left)) :
    left.length < t.length := by
  unfold wholePart? at h
  split at h
  · simp_all
  · exact length_of_digits? h

theorem length_of_fraction? {t ds left : Text} (h : fraction? t = some (ds, left)) :
    left.length ≤ t.length := by
  unfold fraction? at h
  split at h
  · next rest =>
    obtain ⟨⟨ds', left'⟩, hd, he⟩ := Option.map_eq_some_iff.1 h
    have := length_of_digits? hd
    simp_all; omega
  · simp_all

theorem length_exponentSign (t : Text) : (exponentSign t).2.length ≤ t.length := by
  unfold exponentSign
  split <;> simp

theorem length_of_exponent? {t ds left : Text} (h : exponent? t = some (ds, left)) :
    left.length ≤ t.length := by
  unfold exponent? at h
  split at h
  · next c rest =>
    split at h
    · obtain ⟨⟨ds', left'⟩, hd, he⟩ := Option.map_eq_some_iff.1 h
      have := length_of_digits? hd
      have := length_exponentSign rest
      simp_all; omega
    · simp_all
  · simp_all

theorem length_of_unsigned? {t left : Text} {token : Token} (h : unsigned? t = some (token, left)) :
    left.length < t.length := by
  unfold unsigned? at h
  simp only [bind, Option.bind_eq_some_iff, Prod.exists] at h
  obtain ⟨whole, a, hw, fraction, b, hf, exponent, c, he, hr⟩ := h
  have := length_of_wholePart? hw
  have := length_of_fraction? hf
  have := length_of_exponent? he
  have : c = left := by split at hr <;> simp_all [pure]
  subst this
  omega

theorem length_of_signed? {t left : Text} {token : Token} (h : signed? t = some (token, left)) :
    left.length < t.length := by
  unfold signed? at h
  split at h
  · next hu => have := length_of_unsigned? hu; simp_all
  · next hu => have := length_of_unsigned? hu; simp_all
  · simp at h

theorem length_of_next? {t left : Text} {token : Token} (h : next? t = some (token, left)) :
    left.length < t.length := by
  unfold next? at h
  split at h
  case h_1 => simp at h
  case h_11 rest =>
    obtain ⟨⟨ns, left'⟩, hc, he⟩ := Option.map_eq_some_iff.1 h
    have := length_of_codePoints? hc
    simp_all; omega
  case h_12 rest => have := length_of_signed? h; simp_all; omega
  case h_13 => exact length_of_unsigned? h
  all_goals
    obtain ⟨-, rfl⟩ := by simpa using h
    simp; try omega

/-- Nothing if some part of the text is no token. -/
def list? : Text → Option (List Token)
  | [] => some []
  | c :: t =>
      if isSpace c then list? t
      else match _h : next? (c :: t) with
        | none => none
        | some (token, rest) => (list? rest).map (token :: ·)
termination_by t => t.length
decreasing_by
  · exact Nat.lt_succ_self t.length
  · exact length_of_next? _h

end Token
end Precis.Json

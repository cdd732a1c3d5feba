import Precis.Text.Clean

/-!
Decoding UTF-8. Bytes that are no text are taken together up to the first byte that cannot belong
to the character begun, so a character that breaks off counts as one fault and not as several.
-/

namespace Precis

abbrev Bytes := List UInt8

namespace Utf8

/-- The bits that the first byte of a longer character gives, how many bytes follow it, and the
bounds of the second byte, which shut out overlong forms, surrogates and what is beyond Unicode. -/
def lead? (b : Nat) : Option (Nat × Nat × Nat × Nat) :=
  if b < 0xC2 then none
  else if b < 0xE0 then some (b - 0xC0, 1, 0x80, 0xBF)
  else if b = 0xE0 then some (0, 2, 0xA0, 0xBF)
  else if b = 0xED then some (0xD, 2, 0x80, 0x9F)
  else if b < 0xF0 then some (b - 0xE0, 2, 0x80, 0xBF)
  else if b = 0xF0 then some (0, 3, 0x90, 0xBF)
  else if b < 0xF4 then some (b - 0xF0, 3, 0x80, 0xBF)
  else if b = 0xF4 then some (4, 3, 0x80, 0x8F)
  else none

/-- Reads the bytes that follow in a character, `count` of them, the next one within bounds. What is
left behind a fault begins with the byte that does not fit. -/
def follow (value low high : Nat) : Nat → Bytes → Option Char × Bytes
  | 0, bytes => (some (Char.ofNat value), bytes)
  | _ + 1, [] => (none, [])
  | count + 1, b :: bytes =>
      if low ≤ b.toNat ∧ b.toNat ≤ high then
        follow (value * 64 + (b.toNat - 0x80)) 0x80 0xBF count bytes
      else (none, b :: bytes)

/-- The character that starts with the byte, or nothing for a fault, and the bytes behind it. -/
def next (b : UInt8) (bytes : Bytes) : Option Char × Bytes :=
  if b.toNat < 0x80 then (some (Char.ofNat b.toNat), bytes)
  else match lead? b.toNat with
    | none => (none, bytes)
    | some (value, count, low, high) => follow value low high count bytes

theorem length_follow (value low high count : Nat) (bytes : Bytes) :
    (follow value low high count bytes).2.length ≤ bytes.length := by
  induction count generalizing value low high bytes with
  | zero => simp [follow]
  | succ count ih =>
      cases bytes with
      | nil => simp [follow]
      | cons b bytes =>
          simp only [follow]
          split
          · exact Nat.le_succ_of_le (ih ..)
          · simp

theorem length_next (b : UInt8) (bytes : Bytes) : (next b bytes).2.length ≤ bytes.length := by
  unfold next
  split
  · simp
  · split
    · simp
    · exact length_follow ..

/-- The characters of a byte string, with nothing in the place of every fault. -/
def characters : Bytes → List (Option Char)
  | [] => []
  | b :: bytes => (next b bytes).1 :: characters (next b bytes).2
termination_by bytes => bytes.length
decreasing_by exact Nat.lt_succ_of_le (length_next b bytes)

def decode? (bytes : Bytes) : Option Text :=
  (characters bytes).mapM id

/-- Writes a replacement character for every fault. -/
def decodeLossy (bytes : Bytes) : Text :=
  (characters bytes).map (·.getD Text.replacement)

end Utf8
end Precis

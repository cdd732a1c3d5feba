import Precis.Text.Basic

/-!
Natural numbers in ASCII digits. Any number of leading zeros is read; none is written, so what is
written for a number is its one canonical numeral.
-/

namespace Precis.Text

def digitValue (c : Char) : Nat :=
  c.toNat - '0'.toNat

/-- The value of a run of digits behind the digits that are worth `n`. -/
def valueOfDigitsFrom (n : Nat) (digits : Text) : Nat :=
  digits.foldl (fun m c => 10 * m + digitValue c) n

def valueOfDigits (digits : Text) : Nat :=
  valueOfDigitsFrom 0 digits

/-- At least one digit and nothing else. -/
def isNumeral (t : Text) : Bool :=
  !t.isEmpty && t.all Char.isDigit

def toNat? (t : Text) : Option Nat :=
  if isNumeral t then some (valueOfDigits t) else none

/-- Reads a numeral, before which there may be one plus sign. -/
def toNatSigned? : Text → Option Nat
  | '+' :: t => toNat? t
  | t => toNat? t

/-- The number as a word of 64 bits, if it fits. -/
def word64? (n : Nat) : Option UInt64 :=
  if h : n < UInt64.size then some (UInt64.ofNatLT n h) else none

def digit (n : Nat) : Char :=
  Char.ofNat ('0'.toNat + n % 10)

/-- The canonical numeral of a number. -/
def ofNat (n : Nat) : Text :=
  if n < 10 then [digit n] else ofNat (n / 10) ++ [digit n]
termination_by n
decreasing_by omega

def hexValue? (c : Char) : Option Nat :=
  if c.isDigit then some (digitValue c)
  else if 'a' ≤ c ∧ c ≤ 'f' then some (c.toNat - 'a'.toNat + 10)
  else if 'A' ≤ c ∧ c ≤ 'F' then some (c.toNat - 'A'.toNat + 10)
  else none

def hexDigit (n : Nat) : Char :=
  if n < 10 then digit n else Char.ofNat ('a'.toNat + (n - 10))

end Precis.Text

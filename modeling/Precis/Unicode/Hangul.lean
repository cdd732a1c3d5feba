/-!
Hangul syllables. A syllable has a leading consonant, a vowel and perhaps a trailing consonant, and
its code point is computed from theirs, so no table is needed in either direction.
-/

namespace Precis.Unicode.Hangul

def vowelCount : Nat := 21

/-- The trailing consonants, and one place more for none. -/
def trailCount : Nat := 28

def syllableCount : Nat := 19 * vowelCount * trailCount

def isLead (n : Nat) : Bool :=
  decide (0x1100 ≤ n) && decide (n < 0x1100 + 19)

def isVowel (n : Nat) : Bool :=
  decide (0x1161 ≤ n) && decide (n < 0x1161 + vowelCount)

/-- The place for no consonant, U+11A7, is not among them. -/
def isTrail (n : Nat) : Bool :=
  decide (0x11A7 < n) && decide (n < 0x11A7 + trailCount)

def isSyllable (n : Nat) : Bool :=
  decide (0xAC00 ≤ n) && decide (n < 0xAC00 + syllableCount)

/-- Syllables without a trailing consonant. -/
def isOpenSyllable (n : Nat) : Bool :=
  isSyllable n && (n - 0xAC00) % trailCount == 0

def letters (n : Nat) : List Nat :=
  let place := n - 0xAC00
  let lead := 0x1100 + place / (vowelCount * trailCount)
  let vowel := 0x1161 + place % (vowelCount * trailCount) / trailCount
  if place % trailCount = 0 then [lead, vowel]
  else [lead, vowel, 0x11A7 + place % trailCount]

/-- The syllable that two neighbours are written as. -/
def composite? (first second : Nat) : Option Nat :=
  if isLead first && isVowel second then
    some (0xAC00 + ((first - 0x1100) * vowelCount + (second - 0x1161)) * trailCount)
  else if isOpenSyllable first && isTrail second then
    some (first + (second - 0x11A7))
  else none

end Precis.Unicode.Hangul

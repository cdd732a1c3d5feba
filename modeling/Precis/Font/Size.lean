/-!
Font sizes as binary numbers of 32 bits. Two orders are in use. Sizes are sorted by the total order,
which sets even the two zeros and the values that are no numbers apart; they are compared as
numbers, where the two zeros are one and what is no number equals nothing.
-/

namespace Precis

structure FontSize where
  bits : UInt32
deriving DecidableEq

namespace FontSize

def signBit : Nat := 0x80000000

def infinity : Nat := 0x7F800000

def isNaN (s : FontSize) : Bool :=
  decide (infinity < s.bits.toNat % signBit)

def isFinite (s : FontSize) : Bool :=
  decide (s.bits.toNat % signBit < infinity)

/-- The place in the total order, from the lowest negative value that is no number to the highest
positive one. -/
def totalRank (s : FontSize) : Nat :=
  if s.bits.toNat < signBit then signBit + s.bits.toNat else UInt32.size - 1 - s.bits.toNat

/-- The place on the number line, which the two zeros share. -/
def rank (s : FontSize) : Int :=
  if s.bits.toNat < signBit then s.bits.toNat else -(s.bits.toNat - signBit : Nat)

def same (a b : FontSize) : Bool :=
  !a.isNaN && !b.isNaN && a.rank == b.rank

def less (a b : FontSize) : Bool :=
  !a.isNaN && !b.isNaN && decide (a.rank < b.rank)

/-- Leaves out the sizes that equal the last one that was kept. -/
def dropRepeatsOf (kept : FontSize) : List FontSize → List FontSize
  | [] => []
  | s :: rest => if kept.same s then dropRepeatsOf kept rest else s :: dropRepeatsOf s rest

/-- Keeps the first of each run of equal sizes. -/
def dropRepeats : List FontSize → List FontSize
  | [] => []
  | s :: rest => s :: dropRepeatsOf s rest

/-- The quotient rounded to a whole number, a half to the even neighbour. -/
def roundDiv (num den : Nat) : Nat :=
  let q := num / den
  let twice := 2 * (num % den)
  if twice < den then q
  else if den < twice then q + 1
  else if q % 2 = 0 then q else q + 1

/-- The whole part of the binary logarithm of a positive quotient. -/
def log2Div (num den : Nat) : Int :=
  let k : Int := (Nat.log2 num : Int) - Nat.log2 den
  if num * Nat.pow 2 (-k).toNat < den * Nat.pow 2 k.toNat then k - 1 else k

/-- The size nearest to a quotient, a tie going to the one with an even last bit. The significand has
24 bits; below the smallest normal number it has as many as the spacing 2 ^ -149 leaves it. -/
def nearest (num den : Nat) : FontSize :=
  if num = 0 then ⟨0⟩
  else
    let exponent := max (-149) (log2Div num den - 23)
    let significand :=
      roundDiv (num * Nat.pow 2 (-exponent).toNat) (den * Nat.pow 2 exponent.toNat)
    ⟨UInt32.ofNat (min infinity ((exponent + 149).toNat * 0x800000 + significand))⟩

end FontSize
end Precis

/-!
Looking a code point up in a table. Every table lists its entries in ascending order, so a search
ends at the first entry beyond the code point.
-/

namespace Precis.Unicode

/-- Membership in closed ranges. -/
def inRanges : List (Nat × Nat) → Nat → Bool
  | [], _ => false
  | (first, last) :: rest, n =>
    if n < first then false else decide (n ≤ last) || inRanges rest n

/-- Membership in ranges of which every second code point counts, from the first one on. -/
def inAlternations : List (Nat × Nat) → Nat → Bool
  | [], _ => false
  | (first, last) :: rest, n =>
    if n < first then false
    else if n ≤ last then (n - first) % 2 == 0
    else inAlternations rest n

/-- The value of the closed range that holds the code point. -/
def inClasses? : List (Nat × Nat × Nat) → Nat → Option Nat
  | [], _ => none
  | (first, last, value) :: rest, n =>
    if n < first then none else if n ≤ last then some value else inClasses? rest n

/-- The image under runs, each of which moves all its code points by one distance. -/
def image? : List (Nat × Nat × Nat) → Nat → Option Nat
  | [], _ => none
  | (first, last, target) :: rest, n =>
    if n < first then none
    else if n ≤ last then some (target + (n - first))
    else image? rest n

def find? {α : Type} : List (Nat × α) → Nat → Option α
  | [], _ => none
  | (key, value) :: rest, n =>
    if n < key then none else if n = key then some value else find? rest n

end Precis.Unicode

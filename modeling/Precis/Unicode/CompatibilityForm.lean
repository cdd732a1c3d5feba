import Precis.Unicode.CombiningClass
import Precis.Unicode.Composition
import Precis.Unicode.Decomposition
import Precis.Unicode.Hangul

/-!
Normalization form KC: every character is replaced by what it stands for, the marks of each base
character are put into canonical order, and what can be written as one character is composed again.
-/

namespace Precis.Unicode

/-- Full compatibility decomposition of one code point. -/
def decompose (n : Nat) : List Nat :=
  if Hangul.isSyllable n then Hangul.letters n else (Decomposition.listed? n).getD [n]

/-- Puts a code point in front of text in canonical order. A mark moves behind the marks of a lower
class that follow it, and stays in front of those of its own class. -/
def insertMark (n : Nat) : List Nat → List Nat
  | [] => [n]
  | m :: rest =>
    if 0 < combiningClass m ∧ combiningClass m < combiningClass n then m :: insertMark n rest
    else n :: m :: rest

def canonicalOrder : List Nat → List Nat :=
  List.foldr insertMark []

def composite? (first second : Nat) : Option Nat :=
  match Hangul.composite? first second with
  | some n => some n
  | none => listedComposite? first second

/-- Composes the text behind a starter. `marks` holds the marks that stayed uncomposed, the last one
first. A character is blocked from the starter by a mark between them of its own or a higher class. -/
def composeAfter (starter : Nat) (marks : List Nat) : List Nat → List Nat
  | [] => starter :: marks.reverse
  | n :: rest =>
    let reachable := match marks with
      | [] => true
      | m :: _ => decide (combiningClass m < combiningClass n)
    match (if reachable then composite? starter n else none) with
    | some composed => composeAfter composed marks rest
    | none =>
      if combiningClass n = 0 then starter :: (marks.reverse ++ composeAfter n [] rest)
      else composeAfter starter (n :: marks) rest

/-- Marks in front of the first starter have nothing to be composed with. -/
def compose : List Nat → List Nat
  | [] => []
  | n :: rest => if combiningClass n = 0 then composeAfter n [] rest else n :: compose rest

def compatibilityForm (cs : List Char) : List Char :=
  (compose (canonicalOrder (cs.flatMap fun c => decompose c.toNat))).map Char.ofNat

end Precis.Unicode

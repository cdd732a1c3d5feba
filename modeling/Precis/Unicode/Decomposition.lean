import Precis.Unicode.Table
import Precis.Unicode.Decomposition.Alphabet
import Precis.Unicode.Decomposition.Symbol
import Precis.Unicode.Decomposition.Ideograph
import Precis.Unicode.Decomposition.Presentation
import Precis.Unicode.Decomposition.Supplementary

/-!
Full compatibility decompositions. A character stands for one other character, which runs list,
or for a sequence, which sequences list; no character is in both. Hangul syllables are taken apart
by arithmetic and are not listed.
-/

namespace Precis.Unicode.Decomposition

/-- First and last code point of a run, and what the first stands for. -/
def runs : List (Nat × Nat × Nat) :=
  List.flatten [
    latinRuns, scriptRuns, phoneticRuns, greekExtendedRuns, punctuationRuns, radicalRuns,
    kanaRuns, enclosedRuns, modifierRuns, ideographRuns, alphabeticRuns, arabicARuns,
    arabicBRuns, widthRuns, ancientRuns, mathematicalRuns, arabicMathematicalRuns,
    enclosedSupplementRuns, ideographSupplementARuns, ideographSupplementBRuns]

def sequences : List (Nat × List Nat) :=
  List.flatten [
    latinSequences, scriptSequences, latinAdditionalSequences, greekExtendedSequences,
    punctuationSequences, kanaSequences, enclosedSequences, squaredSequences,
    alphabeticSequences, arabicASequences, arabicBSequences, widthSequences, ancientSequences,
    mathematicalSequences, enclosedSupplementSequences]

def listed? (n : Nat) : Option (List Nat) :=
  match find? sequences n with
  | some s => some s
  | none => (image? runs n).map ([·])

end Precis.Unicode.Decomposition

import Precis.Sentence.Similarity

/-!
Summaries: the sentences of a text with the highest scores, in the order of the text.
-/

namespace Precis

/-- The place of a number in the total order of binary numbers of 64 bits. -/
def Sentence.rank (s : Sentence) : Nat :=
  let bits := s.score.toBits.toNat
  let sign := 0x8000000000000000
  if bits < sign then sign + bits else UInt64.size - 1 - bits

structure Summary where
  sentences : List Sentence

namespace Summary

def separator : Text :=
  " [...] ".toList

def toText (s : Summary) : Text :=
  (Text.join separator (s.sentences.map Sentence.text)).trim

/-- Of equal sentences those that come first are taken. -/
def ofSentences (sentences : List Sentence) (count : Nat) : Summary :=
  let ranked := sentences.mergeSort fun a b => decide (b.rank ≤ a.rank)
  ⟨(ranked.take count).mergeSort fun a b => decide (a.index ≤ b.index)⟩

end Summary

def SummarySettings.summary (s : SummarySettings) (text : Text) (count : Nat) : Summary :=
  .ofSentences (Sentence.scored (s.sentencesOf text)) count

end Precis

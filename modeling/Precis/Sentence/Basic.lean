import Precis.Settings
import Precis.Text.Basic
import Precis.Unicode.Uppercase

/-!
Sentences of a running text. A sentence ends at a full stop or question mark that stands behind a
word and before white space; what is too short for a sentence is dropped, what is too long is cut.
-/

namespace Precis

structure Sentence where
  /-- The place among the sentences of its text. -/
  index : Nat
  text : Text
  wordCount : Nat
  /-- Zero until the sentences of a text are scored. -/
  score : Float
deriving DecidableEq

namespace Text

/-- Parts a full stop from a capital that follows it at once, as where a line break was lost. -/
def repairBreaks : Text → Text
  | [] => []
  | c :: t =>
      if c = '.' && t.head?.any Unicode.isUppercase then c :: ' ' :: repairBreaks t
      else c :: repairBreaks t

def extendFirst (c : Char) : List Text → List Text
  | [] => [[c]]
  | piece :: pieces => (c :: piece) :: pieces

/-- Cuts a text behind every end of a sentence. `inWord` says that the character before the text is
no white space. -/
def piecesFrom (inWord : Bool) : Text → List Text
  | [] => []
  | c :: t =>
      let pieces := piecesFrom (!isSpace c) t
      if inWord && (c == '.' || c == '?') && t.head?.any isSpace then [c] :: pieces
      else extendFirst c pieces

theorem flatten_extendFirst (c : Char) (pieces : List Text) :
    (extendFirst c pieces).flatten = c :: pieces.flatten := by
  cases pieces <;> rfl

theorem flatten_piecesFrom (inWord : Bool) (t : Text) : (piecesFrom inWord t).flatten = t := by
  induction t generalizing inWord with
  | nil => rfl
  | cons c t ih =>
      simp only [piecesFrom]
      split
      · simp [ih]
      · rw [flatten_extendFirst, ih]

/-- The pieces of a text, which run together are the text again. -/
def pieces (t : Text) : List Text :=
  piecesFrom false t

end Text

def Sentence.ofText (index : Nat) (text : Text) : Sentence :=
  ⟨index, text, text.words.length, 0⟩

namespace SummarySettings

variable (s : SummarySettings)

/-- The pieces of a text that may hold a sentence each. -/
def candidates (text : Text) : List Text :=
  text.repairBreaks.pieces.take s.maxCandidates.toNat

/-- The sentences of a text in order. A candidate counts its length without the white space around
it. -/
def sentencesOf (text : Text) : List Sentence :=
  let kept := (s.candidates text).map Text.trim |>.filter fun t =>
    decide (s.minSentenceChars.toNat ≤ t.length)
  (kept.map (·.take s.maxSentenceChars.toNat)).mapIdx Sentence.ofText

end SummarySettings
end Precis

import Precis.Text.Basic

/-!
Thresholds for headings, summaries and documents, with their defaults. Numbers have 64 bits.
-/

namespace Precis

def rightToLeftLanguages : List Text :=
  ["ar", "dv", "fa", "ha", "he", "ks", "ps", "ur", "yi"].map String.toList

structure HeadingSettings where
  /-- How many of the largest sizes count as headings. -/
  fontSizes : UInt64 := 3
  /-- Fragments are taken until there are this many and they have enough words. -/
  minFragments : UInt64 := 3
  minWords : UInt64 := 10
  /-- A fragment with more words is cut to one word less than this. -/
  maxFragmentWords : UInt64 := 30
  rtlLanguages : List Text := rightToLeftLanguages
deriving DecidableEq

structure SummarySettings where
  /-- Sentences in a summary, if its reader asks for no other number. -/
  sentences : UInt64 := 5
  maxCandidates : UInt64 := 500
  minSentenceChars : UInt64 := 20
  maxSentenceChars : UInt64 := 400
  /-- Lines that are looked at for a heading. -/
  maxHeadingLines : UInt64 := 20
  minHeadingChars : UInt64 := 15
  maxHeadingChars : UInt64 := 100
deriving DecidableEq

structure FilterSettings where
  /-- A heading is looked for in a text that is longer than this. -/
  textHeadingMinChars : UInt64 := 4000
deriving DecidableEq

structure Settings where
  heading : HeadingSettings := {}
  summary : SummarySettings := {}
  filter : FilterSettings := {}
deriving DecidableEq

namespace HeadingSettings

/-- Only the language that is asked for is trimmed. -/
def isRightToLeft (s : HeadingSettings) (language : Text) : Bool :=
  s.rtlLanguages.any fun l => l.eqIgnoringAsciiCase language.trim

end HeadingSettings
end Precis

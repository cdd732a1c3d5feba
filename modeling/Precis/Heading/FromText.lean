import Precis.Heading.Basic
import Precis.Sentence.Basic

/-!
The heading of a running text: the first of its lines that is long enough for one. A line that is
too long ends the search, for it belongs to a paragraph.
-/

namespace Precis.SummarySettings

variable (s : SummarySettings)

/-- The lines that may hold the heading. -/
def headingLines (text : Text) : List Text :=
  (text.repairBreaks.lines.take s.maxHeadingLines.toNat).map Text.trim

def firstHeading? : List Text → Option Heading
  | [] => none
  | line :: rest =>
      if s.maxHeadingChars.toNat < line.length then none
      else if s.minHeadingChars.toNat ≤ line.length then some ⟨line, .text⟩
      else firstHeading? rest

def heading? (text : Text) : Option Heading :=
  s.firstHeading? (s.headingLines text)

end Precis.SummarySettings
